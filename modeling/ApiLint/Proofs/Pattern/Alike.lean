import ApiLint.Pattern.Match
import ApiLint.Pattern.Width

/-!
# Patterns that differ in the numbers of their groups

The number of a group matters only to references, and patterns without references that are the same
but for these numbers have the same widths and the same matches.

Main results:

- Theorem `Alike.width_eq`: such patterns have the same widths.
- Theorem `Alike.matchesAt_eq`: they match at the same places.
-/

namespace ApiLint.Pattern

/-- Is the pattern neither made of other patterns nor a reference? -/
def isLeaf : Pattern → Bool
  | .empty | .never | .one _ | .any _ | .atStart | .atLineStart | .atEnd | .atLineEnd | .atVeryEnd
  | .atWordEdge _ _ => true
  | _ => false

/-- Patterns without references that are the same but for the numbers of their groups. -/
inductive Alike : Pattern → Pattern → Prop where
  | leaf {p : Pattern} (h : p.isLeaf = true) : Alike p p
  | seq {p p' q q' : Pattern} (first : Alike p p') (second : Alike q q') :
    Alike (.seq p q) (.seq p' q')
  | alt {p p' q q' : Pattern} (first : Alike p p') (second : Alike q q') :
    Alike (.alt p q) (.alt p' q')
  | repeated {p p' : Pattern} (least : Nat) (most : Option Nat) (greed : Greed) (body : Alike p p') :
    Alike (.repeated p least most greed) (.repeated p' least most greed)
  | group {p p' : Pattern} (n n' : Nat) (body : Alike p p') : Alike (.group n p) (.group n' p')
  | atomic {p p' : Pattern} (body : Alike p p') : Alike (.atomic p) (.atomic p')
  | ahead {p p' : Pattern} (negated : Bool) (body : Alike p p') :
    Alike (.ahead negated p) (.ahead negated p')
  | behind {p p' : Pattern} (negated : Bool) (width : Nat) (body : Alike p p') :
    Alike (.behind negated width p) (.behind negated width p')

variable {p p' : Pattern}

/-! ## Widths -/

/-- Widths do not depend on the numbers of groups. -/
theorem Alike.width_eq (h : Alike p p') (groups groups' : Nat → Width) :
    p.width groups = p'.width groups' := by
  induction h with
  | @leaf p hleaf => cases p <;> first | rfl | cases hleaf
  | seq _ _ first second => rw [width, width, first, second]
  | alt _ _ first second => rw [width, width, first, second]
  | repeated _ _ _ _ body => rw [width, width, body]
  | group _ _ _ body => rw [width, width, body]
  | atomic _ body => rw [width, width, body]
  | ahead _ _ _ => rfl
  | behind _ _ _ _ => rfl

/-! ## Matches -/

/-- Matches that reach the same place, or no matches. -/
inductive SamePlace : Option Reached → Option Reached → Prop where
  | nowhere : SamePlace none none
  | at (i : Nat) (captures captures' : Captures) : SamePlace (some (i, captures)) (some (i, captures'))

/-- What follows leads to the same place, whatever the groups have matched. -/
def SameFollowing (follow follow' : Following) : Prop :=
  ∀ i captures captures', SamePlace (follow i captures) (follow' i captures')

/-- Ways to match a body that reach the same places in front of the same. -/
def SameBody (body body' : Nat → Captures → Following → Option Reached) : Prop :=
  ∀ i captures captures' {follow follow'}, SameFollowing follow follow' →
    SamePlace (body i captures follow) (body' i captures' follow')

variable {follow follow' : Following} {body body' : Nat → Captures → Following → Option Reached}

/-- There is a match where there is one that reaches the same place. -/
theorem SamePlace.isSome_eq {a a' : Option Reached} (h : SamePlace a a') : a.isSome = a'.isSome := by
  cases h <;> rfl

/-- The end of a match is the same whatever the groups have matched. -/
theorem sameFollowing_end :
    SameFollowing (fun i captures => some (i, captures)) fun i captures => some (i, captures) :=
  fun i captures captures' => .at i captures captures'

/-- The first match, or else another one. -/
theorem SamePlace.orElse {a a' b b' : Option Reached} :
    SamePlace a a' → SamePlace b b' →
      SamePlace (match a with | some reached => some reached | none => b)
        (match a' with | some reached => some reached | none => b') := by
  intro h hother
  cases h with
  | nowhere => exact hother
  | «at» i captures captures' => exact .at i captures captures'

/-- Going on from a match, or else something else. -/
theorem SamePlace.andThen {a a' b b' : Option Reached} :
    SamePlace a a' → SameFollowing follow follow' → SamePlace b b' →
      SamePlace (match a with | some (i, captures) => follow i captures | none => b)
        (match a' with | some (i, captures) => follow' i captures | none => b') := by
  intro h hfollow hother
  cases h with
  | nowhere => exact hother
  | «at» i captures captures' => exact hfollow i captures captures'

theorem samePlace_ite {condition : Prop} [Decidable condition] {a a' b b' : Option Reached}
    (h : SamePlace a a') (hother : SamePlace b b') :
    SamePlace (if condition then a else b) (if condition then a' else b') := by
  by_cases hcondition : condition
  · rwa [if_pos hcondition, if_pos hcondition]
  · rwa [if_neg hcondition, if_neg hcondition]

section Rounds

variable (hfollow : SameFollowing follow follow')

include hfollow

theorem samePlace_downFrom (captures captures' : Captures) (i extra : Nat) :
    SamePlace (downFrom follow captures i extra) (downFrom follow' captures' i extra) := by
  induction extra with
  | zero => exact hfollow i captures captures'
  | succ extra ih => exact (hfollow _ captures captures').orElse ih

theorem samePlace_upFrom (captures captures' : Captures) (i extra : Nat) :
    SamePlace (upFrom follow captures i extra) (upFrom follow' captures' i extra) := by
  induction extra generalizing i with
  | zero => exact hfollow i captures captures'
  | succ extra ih => exact (hfollow i captures captures').orElse (ih (i + 1))

theorem samePlace_singleRounds (test : Char → Bool) (text : Array Char) (least : Nat)
    (most : Option Nat) (greed : Greed) (i : Nat) (captures captures' : Captures) :
    SamePlace (singleRounds test text least most greed i captures follow)
      (singleRounds test text least most greed i captures' follow') := by
  refine samePlace_ite .nowhere ?_
  cases greed with
  | most => exact samePlace_downFrom hfollow captures captures' _ _
  | fewest => exact samePlace_upFrom hfollow captures captures' _ _
  | possessive => exact hfollow _ captures captures'

theorem samePlace_rounds (hbody : SameBody body body') (least : Nat) (most : Option Nat) (greed : Greed)
    (fuel done : Nat) (last : Option Nat) (i : Nat) (captures captures' : Captures) :
    SamePlace (rounds body least most greed follow fuel done last i captures)
      (rounds body' least most greed follow' fuel done last i captures') := by
  induction fuel generalizing done last i captures captures' with
  | zero => exact hfollow i captures captures'
  | succ fuel ih =>
      have hmore : SamePlace
          (if isBelow done most && last != some i then
            body i captures fun j captures =>
              rounds body least most greed follow fuel (done + 1) (some i) j captures
          else none)
          (if isBelow done most && last != some i then
            body' i captures' fun j captures =>
              rounds body' least most greed follow' fuel (done + 1) (some i) j captures
          else none) :=
        samePlace_ite (hbody i captures captures' fun j => ih _ _ j) .nowhere
      refine samePlace_ite (hbody i captures captures' fun j => ih _ _ j) ?_
      cases greed with
      | fewest => exact (hfollow i captures captures').orElse hmore
      | most => exact hmore.orElse (hfollow i captures captures')
      | possessive => exact hmore.orElse (hfollow i captures captures')

end Rounds

theorem samePlace_ownRounds (hbody : SameBody body body') (least : Nat) (most : Option Nat)
    (fuel done : Nat) (last : Option Nat) (i : Nat) (captures captures' : Captures) :
    SamePlace (ownRounds body least most fuel done last i captures)
      (ownRounds body' least most fuel done last i captures') := by
  induction fuel generalizing done last i captures captures' with
  | zero => exact .at i captures captures'
  | succ fuel ih =>
      have hround := hbody i captures captures' sameFollowing_end
      have hend : SamePlace (some (i, captures)) (some (i, captures')) := .at i captures captures'
      refine samePlace_ite ?_ (samePlace_ite ?_ hend)
      · exact hround.andThen (fun j => ih _ _ j) .nowhere
      · exact hround.andThen (fun j => ih _ _ j) hend

/-- A pattern always matches one character where one like it does. -/
theorem Alike.singleTest?_eq (h : Alike p p') : p.singleTest? = p'.singleTest? := by
  cases h <;> rfl

/-- Patterns that are alike match alike. -/
theorem Alike.sameBody_run (text : Array Char) (h : Alike p p') :
    SameBody (run text p) (run text p') := by
  induction h with
  | @leaf p hleaf =>
      intro i captures captures' follow follow' hfollow
      cases p with
      | empty => exact hfollow i captures captures'
      | never => exact .nowhere
      | one set => exact samePlace_ite (hfollow _ captures captures') .nowhere
      | any lineFeeds => exact samePlace_ite (hfollow _ captures captures') .nowhere
      | atStart | atLineStart | atEnd | atLineEnd | atVeryEnd | atWordEdge =>
          exact samePlace_ite (hfollow i captures captures') .nowhere
      | _ => cases hleaf
  | seq _ _ first second =>
      intro i captures captures' follow follow' hfollow
      exact first i captures captures' fun j found found' => second j found found' hfollow
  | alt _ _ first second =>
      intro i captures captures' follow follow' hfollow
      exact (first i captures captures' hfollow).orElse (second i captures captures' hfollow)
  | repeated least most greed halike body =>
      intro i captures captures' follow follow' hfollow
      rw [run, run, ← halike.singleTest?_eq]
      split
      · exact samePlace_singleRounds hfollow _ text least most greed i captures captures'
      · dsimp only
        refine samePlace_ite ?_ (samePlace_rounds hfollow body least most greed _ 0 none i _ _)
        have hrounds := samePlace_ownRounds body least most (2 * (text.size - i) + 4) 0 none i captures
          captures'
        exact hrounds.andThen hfollow .nowhere
  | group n n' _ body =>
      intro i captures captures' follow follow' hfollow
      exact body i captures captures' fun j found found' => hfollow j _ _
  | atomic _ body =>
      intro i captures captures' follow follow' hfollow
      exact (body i captures captures' sameFollowing_end).andThen hfollow .nowhere
  | ahead negated _ body =>
      intro i captures captures' follow follow' hfollow
      have hfound := body i captures captures' sameFollowing_end
      exact hfound.andThen (fun _ found found' => samePlace_ite .nowhere (hfollow i found found'))
        (samePlace_ite (hfollow i captures captures') .nowhere)
  | behind negated width _ body =>
      intro i captures captures' follow follow' hfollow
      have hbody := body (i - width) captures captures' sameFollowing_end
      have hfound : SamePlace (if width ≤ i then _ else none) (if width ≤ i then _ else none) :=
        samePlace_ite hbody .nowhere
      exact hfound.andThen (fun _ found found' => samePlace_ite .nowhere (hfollow i found found'))
        (samePlace_ite (hfollow i captures captures') .nowhere)

/-- Patterns that are alike match at the same places. -/
theorem Alike.matchesAt_eq (h : Alike p p') (text : Array Char) (i : Nat) :
    p.matchesAt text i = p'.matchesAt text i := by
  exact (h.sameBody_run text i [] [] sameFollowing_end).isSome_eq

/-- One of two patterns matches where the first or the second one does. -/
theorem matchesAt_alt (p q : Pattern) (text : Array Char) (i : Nat) :
    (Pattern.alt p q).matchesAt text i = (p.matchesAt text i || q.matchesAt text i) := by
  simp only [matchesAt, run]
  cases run text p i [] fun j captures => some (j, captures) <;> rfl

end ApiLint.Pattern
