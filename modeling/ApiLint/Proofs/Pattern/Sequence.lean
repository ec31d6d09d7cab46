import ApiLint.Proofs.Pattern.Reading

/-!
# Reading sequences and groups inside a longer text

A sequence of a portable pattern ends at the end of its text, and in front of a tail it ends there,
too.  A group must be closed inside its text, so its alternatives never come to the tail.

Main results:

- Theorem `within_readSequence`: a sequence is read as a pattern that is alike.
-/

namespace ApiLint.Pattern

variable {tail cs ds : List Char} {p p' : Pattern}

/-! ## Sequences being read -/

/-- Sequences being read that are the same but for the numbers of their groups. -/
inductive Partial.Alike : Partial → Partial → Prop where
  | start {p p' : Pattern} (before : Pattern.Alike p p') : Partial.Alike ⟨p, none⟩ ⟨p', none⟩
  | last {p p' q q' : Pattern} (before : Pattern.Alike p p') (last : Pattern.Alike q q') (kind : PartKind) :
    Partial.Alike ⟨p, some (q, kind)⟩ ⟨p', some (q', kind)⟩

variable {done done' : Partial}

theorem Partial.Alike.pattern (h : done.Alike done') : Pattern.Alike done.pattern done'.pattern := by
  cases h with
  | start before => exact before
  | @last p p' q q' before last kind =>
      cases before with
      | @leaf p hleaf => cases p <;> first | exact last | exact .seq (.leaf hleaf) last
      | seq first second => exact .seq (.seq first second) last
      | alt first second => exact .seq (.alt first second) last
      | repeated least most greed body => exact .seq (.repeated least most greed body) last
      | group n n' body => exact .seq (.group n n' body) last
      | atomic body => exact .seq (.atomic body) last
      | ahead negated body => exact .seq (.ahead negated body) last
      | behind negated width body => exact .seq (.behind negated width body) last

theorem Partial.Alike.push (h : done.Alike done') (hp : Pattern.Alike p p') (kind : PartKind) :
    (done.push p kind).Alike (done'.push p' kind) :=
  .last h.pattern hp kind

theorem Partial.Alike.checkRepeat_eq (h : done.Alike done') : done.checkRepeat = done'.checkRepeat := by
  cases h with
  | start before => rfl
  | last before last kind => cases kind <;> rfl

theorem Partial.Alike.repeatLast (h : done.Alike done') (bounds : Bounds) (greed : Greed) :
    (done.repeatLast bounds greed).Alike (done'.repeatLast bounds greed) := by
  cases h with
  | start before => exact .start before
  | last before last kind => exact .last before (.repeated _ _ _ last) _

theorem Partial.Alike.pushEscaped (h : done.Alike done') {e : Escaped} (he : e.IsPlain) :
    (done.pushEscaped {} e).Alike (done'.pushEscaped {} e) := by
  cases e with
  | char n => exact h.push (.leaf rfl) _
  | category kind negated => exact h.push (.leaf rfl) _
  | place p => exact h.push (.leaf he) _
  | again number => cases he

/-! ## Groups -/

/-- The state of reading with other knowledge of groups. -/
theorem Within.of_groups {r r' : Reading} (h : Within tail r r') {widths widths' : List (Option Width)}
    {groupsBefore groupsBefore' : Option Nat} :
    Within tail { r with widths := widths, groupsBefore := groupsBefore }
      { r' with widths := widths', groupsBefore := groupsBefore' } where
  rest := h.rest
  portable := h.portable
  flags := h.flags
  flags' := h.flags'
  lookBehind := h.lookBehind
  conditions := h.conditions
  isUnlimited := h.isUnlimited

theorem within_openGroup :
    ReadsWithin tail cs (fun _ _ => True) (openGroup none) (openGroup none) := by
  intro r r' a s hwithin _ hrun
  cases hrun
  exact ⟨_, _, rfl, trivial, hwithin.of_groups⟩

theorem within_widthOf (h : Alike p p') :
    ReadsWithin tail cs Eq (widthOf p) (widthOf p') := by
  intro r r' a s hwithin _ hrun
  cases hrun
  refine ⟨_, _, rfl, ?_, hwithin⟩
  rw [h.width_eq]

theorem within_closeGroup (h : Alike p p') (number number' : Nat) :
    ReadsWithin tail cs Alike (closeGroup number p) (closeGroup number' p') := by
  refine within_bind (within_widthOf h) ?_
  rintro width _ ds rfl _ r r' a s hwithin _ hrun
  cases hrun
  exact ⟨_, _, rfl, .group number number' h, hwithin.of_groups⟩

theorem within_startLookBehind :
    ReadsWithin tail cs (fun _ _ => True) startLookBehind startLookBehind := by
  intro r r' a s hwithin _ hrun
  cases hrun
  exact ⟨_, _, rfl, trivial, hwithin.of_groups⟩

theorem within_endLookBehind (h : Alike p p') (before before' : Option Nat) (negated : Bool) :
    ReadsWithin tail cs Alike (endLookBehind before negated p) (endLookBehind before' negated p') := by
  refine within_bind (within_widthOf h) ?_
  rintro width _ ds rfl _ r r' a s hwithin _ hrun
  cases hrun
  refine ⟨_, _, rfl, .behind negated width.least h, ?_⟩
  exact { hwithin with lookBehind := by simp only [hwithin.lookBehind] }

/-! ## Ends of groups -/

/--
The second reading function follows the first one as long as that does not come to the end of the
text, where the second one may find a bar.
-/
def ReadsInside (tail cs : List Char) {α β : Type} (S : α → β → Prop) (m : Read α) (m' : Read β) : Prop :=
  ∀ r r' a s, Within tail r r' → r.rest = cs → m r = .ok (a, s) → s.rest ≠ [] →
    ∃ b s', m' r' = .ok (b, s') ∧ S a b ∧ Within tail s s'

section Inside

variable {α β γ δ : Type} {S : α → β → Prop} {T : γ → δ → Prop} {m : Read α} {m' : Read β}
  {f : α → Read γ} {f' : β → Read δ}

theorem inside_of_within (h : ReadsWithin tail cs S m m') : ReadsInside tail cs S m m' :=
  fun r r' a s hwithin hcs hrun _ => h r r' a s hwithin hcs hrun

theorem inside_bind (hfirst : ReadsWithin tail cs S m m')
    (hnext : ∀ a b ds, S a b → isPortable ds = true → ReadsInside tail ds T (f a) (f' b)) :
    ReadsInside tail cs T (m >>= f) (m' >>= f') := by
  intro r r' c t hwithin hcs hrun hend
  obtain ⟨a, s, hm, hf⟩ := run_bind_eq_ok_iff.mp hrun
  obtain ⟨b, s', hm', hab, hs⟩ := hfirst r r' a s hwithin hcs hm
  obtain ⟨d, t', hf', hcd, ht⟩ := hnext a b s.rest hab hs.portable s s' c t hs rfl hf hend
  exact ⟨d, t', run_bind_eq_ok_iff.mpr ⟨b, s', hm', hf'⟩, hcd, ht⟩

theorem inside_map {g : α → γ} {g' : β → δ} (h : ReadsInside tail cs S m m')
    (hmap : ∀ a b, S a b → T (g a) (g' b)) :
    ReadsInside tail cs T (m >>= fun a => pure (g a)) (m' >>= fun b => pure (g' b)) := by
  intro r r' c t hwithin hcs hrun hend
  obtain ⟨a, s, hm, hf⟩ := run_bind_eq_ok_iff.mp hrun
  cases hf
  obtain ⟨b, s', hm', hab, hs⟩ := h r r' a t hwithin hcs hm hend
  exact ⟨g' b, s', run_bind_eq_ok_iff.mpr ⟨b, s', hm', rfl⟩, hmap a b hab, hs⟩

/-- What is read before something that must follow does not end the text. -/
theorem within_bind_inside (hfirst : ReadsInside tail cs S m m')
    (hfollows : ∀ a s c t, f a s = .ok (c, t) → s.rest ≠ [])
    (hnext : ∀ a b ds, S a b → isPortable ds = true → ReadsWithin tail ds T (f a) (f' b)) :
    ReadsWithin tail cs T (m >>= f) (m' >>= f') := by
  intro r r' c t hwithin hcs hrun
  obtain ⟨a, s, hm, hf⟩ := run_bind_eq_ok_iff.mp hrun
  obtain ⟨b, s', hm', hab, hs⟩ := hfirst r r' a s hwithin hcs hm (hfollows a s c t hf)
  obtain ⟨d, t', hf', hcd, ht⟩ := hnext a b s.rest hab hs.portable s s' c t hs rfl hf
  exact ⟨d, t', run_bind_eq_ok_iff.mpr ⟨b, s', hm', hf'⟩, hcd, ht⟩

end Inside

/-- A character that does not stand here is not taken. -/
theorem run_skip_of_head?_ne {c : Char} {r : Reading} (h : r.rest.head? ≠ some c) :
    skip c r = .ok (false, r) := by
  rw [skip, run_bind, run_rest]
  dsimp only
  cases hrest : r.rest with
  | nil => rfl
  | cons d ds =>
      have hd : c ≠ d := by
        rintro rfl
        exact h (by rw [hrest]; rfl)
      dsimp only
      rw [if_neg hd]
      rfl

/-- A closing parenthesis is part of the text. -/
theorem rest_ne_nil_of_closeParenthesis {r s : Reading} (h : closeParenthesis r = .ok ((), s)) :
    r.rest ≠ [] := by
  intro hrest
  have hskip : skip ')' r = .ok (false, r) := run_skip_of_head?_ne (by rw [hrest]; decide)
  obtain ⟨found, t, hfound, hclose⟩ := run_bind_eq_ok_iff.mp (show (skip ')' >>= fun found =>
    if !found then throw .missingParenthesis else pure ()) r = .ok ((), s) from h)
  rw [hskip] at hfound
  cases hfound
  cases hclose

/-- What is read before a closing parenthesis does not end the text. -/
theorem rest_ne_nil_of_closed {γ : Type} {f : Read γ} {s t : Reading} {c : γ}
    (h : (closeParenthesis >>= fun _ => f) s = .ok (c, t)) : s.rest ≠ [] := by
  obtain ⟨_, _, hclose, -⟩ := run_bind_eq_ok_iff.mp h
  exact rest_ne_nil_of_closeParenthesis hclose

theorem within_closeParenthesis (htail : IsTail tail) (hcs : isPortable cs = true) :
    ReadsWithin tail cs Eq closeParenthesis closeParenthesis := by
  refine within_bind (within_skip htail (by decide) hcs) ?_
  rintro found _ ds rfl _
  cases found with
  | false => exact within_throw _ _
  | true => exact within_pure rfl

/-! ## Alternatives -/

/-- Alternatives go on behind a bar. -/
theorem run_readMoreAlternatives_of_rest {n : Nat} {isWhole : Bool} {first : Pattern} {r : Reading}
    (h : r.rest = '|' :: cs) (hflags : r.flags = {}) :
    readMoreAlternatives (n + 1) isWhole {} first r =
      (readSequence n false {} .start >>= fun second =>
        readMoreAlternatives n isWhole {} second >>= fun others => pure (.alt first others))
        { r with rest := cs } := by
  obtain ⟨rest, widths, names, groupsBefore, conditions, flags, isUnlimited, hasVariable⟩ := r
  obtain rfl : rest = '|' :: cs := h
  obtain rfl : flags = {} := hflags
  cases isWhole <;> rfl

/-- In front of a tail a bar of the text is the same one, and what is behind it has the tail behind it, too. -/
theorem Within.exists_of_bar {r r' : Reading} (h : Within tail r r') (hbar : r.rest.head? = some '|') :
    ∃ ds, r.rest = '|' :: ds ∧ r'.rest = '|' :: (ds ++ tail) ∧ isPortable ds = true ∧
      Within tail { r with rest := ds } { r' with rest := ds ++ tail } := by
  obtain ⟨ds, hds⟩ := List.head?_eq_some_iff.mp hbar
  have hportable : isPortable ds = true := isPortable_of_cons (hds ▸ h.portable)
  refine ⟨ds, hds, ?_, hportable, { h with rest := rfl, portable := hportable }⟩
  rw [h.rest, hds, List.cons_append]

/-- Without a bar there are no further alternatives. -/
theorem run_readMoreAlternatives_of_head?_ne {n : Nat} {isWhole : Bool} {flags : Flags}
    {first : Pattern} {r : Reading} (h : r.rest.head? ≠ some '|') :
    readMoreAlternatives (n + 1) isWhole flags first r = .ok (first, r) := by
  rw [readMoreAlternatives, run_bind, run_skip_of_head?_ne h]
  rfl

/-- What reading with some fuel keeps to, in front of a tail and with more fuel. -/
structure KeepsTo (tail : List Char) (n : Nat) : Prop where
  sequence : ∀ {n' cs isStart isStart' done done'}, n ≤ n' → isPortable cs = true →
    Partial.Alike done done' →
      ReadsWithin tail cs Alike (readSequence n isStart {} done) (readSequence n' isStart' {} done')
  more : ∀ {n' cs first first'}, n ≤ n' → Alike first first' →
    ReadsInside tail cs Alike (readMoreAlternatives n false {} first)
      (readMoreAlternatives n' false {} first')
  alternatives : ∀ {n' cs}, n ≤ n' → isPortable cs = true →
    ReadsInside tail cs Alike (readAlternatives n false {}) (readAlternatives n' false {})
  group : ∀ {n' cs kind}, n ≤ n' → isPortable cs = true → kind.IsPlain → kind ≠ .comment →
    ReadsWithin tail cs Alike (readGroup n {} kind) (readGroup n' {} kind)

theorem keepsTo_zero : KeepsTo tail 0 where
  sequence _ _ _ := within_throw _ _
  more _ _ := inside_of_within (within_throw _ _)
  alternatives _ _ := inside_of_within (within_throw _ _)
  group _ _ _ _ := within_throw _ _

section Step

variable {n n' : Nat} (htail : IsTail tail) (ih : KeepsTo tail n) (hn : n ≤ n')

include ih hn

theorem inside_readAlternatives_succ (hcs : isPortable cs = true) :
    ReadsInside tail cs Alike (readAlternatives (n + 1) false {}) (readAlternatives (n' + 1) false {}) :=
  inside_bind (ih.sequence hn hcs (.start (.leaf rfl))) fun _ _ _ hfirst _ => ih.more hn hfirst

theorem inside_readMoreAlternatives_succ {first first' : Pattern} (hfirst : Alike first first') :
    ReadsInside tail cs Alike (readMoreAlternatives (n + 1) false {} first)
      (readMoreAlternatives (n' + 1) false {} first') := by
  intro r r' p s hwithin _ hrun hend
  by_cases hbar : r.rest.head? = some '|'
  · obtain ⟨ds, hds, hds', hportable, hafter⟩ := hwithin.exists_of_bar hbar
    rw [run_readMoreAlternatives_of_rest hds hwithin.flags] at hrun
    rw [run_readMoreAlternatives_of_rest hds' hwithin.flags']
    refine inside_bind (ih.sequence hn hportable (.start (.leaf rfl)))
      (fun _ _ es hsecond _ => ?_) _ _ p s hafter rfl hrun hend
    exact inside_map (ih.more hn hsecond) fun _ _ => .alt hfirst
  · rw [run_readMoreAlternatives_of_head?_ne hbar] at hrun
    cases hrun
    have hbar' : r'.rest.head? ≠ some '|' := by
      obtain ⟨c, ds, hds⟩ := List.exists_cons_of_ne_nil hend
      rw [hds] at hbar
      rw [hwithin.rest, hds]
      exact hbar
    exact ⟨first', r', run_readMoreAlternatives_of_head?_ne hbar', hfirst, hwithin⟩

/-! ## Sequences -/

include htail

/-- The alternatives of a group are read up to its closing parenthesis, and then what is behind it. -/
theorem within_readBody (hcs : isPortable cs = true) {f f' : Pattern → Read Pattern}
    (hnext : ∀ body body' ds, Alike body body' → isPortable ds = true →
      ReadsWithin tail ds Alike (f body) (f' body')) :
    ReadsWithin tail cs Alike
      (readAlternatives n false {} >>= fun body => closeParenthesis >>= fun _ => f body)
      (readAlternatives n' false {} >>= fun body => closeParenthesis >>= fun _ => f' body) := by
  refine within_bind_inside (ih.alternatives hn hcs) (fun _ _ _ _ => rest_ne_nil_of_closed) ?_
  intro body body' ds hbody hds
  exact within_bind (within_closeParenthesis htail hds) fun _ _ es _ hes => hnext body body' es hbody hes

theorem within_readGroup_succ {kind : GroupKind} (hkind : kind.IsPlain) (hcomment : kind ≠ .comment)
    (hcs : isPortable cs = true) :
    ReadsWithin tail cs Alike (readGroup (n + 1) {} kind) (readGroup (n' + 1) {} kind) := by
  cases kind with
  | capture name =>
      obtain rfl : name = none := hkind
      refine within_bind within_openGroup fun number number' ds _ hds => ?_
      exact within_readBody htail ih hn hds fun _ _ _ hbody _ => within_closeGroup hbody number number'
  | plain flags =>
      obtain rfl : flags = {} := hkind
      exact within_readBody htail ih hn hcs fun _ _ _ hbody _ => within_pure hbody
  | atomic =>
      exact within_readBody htail ih hn hcs fun _ _ _ hbody _ => within_pure (.atomic hbody)
  | look isAhead negated =>
      cases isAhead with
      | true =>
          exact within_readBody htail ih hn hcs fun _ _ _ hbody _ => within_pure (.ahead negated hbody)
      | false =>
          -- What is behind the alternatives is measured before their parenthesis is read.
          refine within_bind within_startLookBehind fun before before' ds _ hds => ?_
          refine within_bind_inside (ih.alternatives hn hds) (fun body s c t hrun => ?_) ?_
          · obtain ⟨look, u, hlook, hclose⟩ := run_bind_eq_ok_iff.mp hrun
            cases hlook
            have hrest := rest_ne_nil_of_closed hclose
            exact hrest
          rintro body body' es hbody hes
          refine within_bind (within_endLookBehind hbody before before' negated) ?_
          rintro look look' fs hlook hfs
          exact within_bind (within_closeParenthesis htail hfs) fun _ _ _ _ _ => within_pure hlook
  | comment => exact absurd rfl hcomment
  | condition group => cases hkind
  | reference group => cases hkind
  | global letters => cases hkind

omit htail in
/-- A sequence goes on behind a group. -/
theorem within_readSequence_group {isStart isStart' : Bool} {done done' : Partial}
    (hdone : done.Alike done') {kind : GroupKind} (hkind : kind.IsPlain) (hcomment : kind ≠ .comment)
    (hcs : isPortable cs = true) :
    ReadsWithin tail cs Alike
      (readGroup n {} kind >>= fun inner => readSequence n isStart {} (done.push inner .plain))
      (readGroup n' {} kind >>= fun inner => readSequence n' isStart' {} (done'.push inner .plain)) :=
  within_bind (ih.group hn hcs hkind hcomment) fun _ _ _ hinner hds =>
    ih.sequence hn hds (hdone.push hinner _)

/-- Read bounds of the last part, or else a character, and then the parts after it. -/
def readCharacter (readMore : Partial → Read Pattern) (done : Partial) (c : Char) (cs : List Char) :
    Read Pattern := do
  match ← readBounds? with
  | none =>
    goOn cs
    readMore (done.push (.char ({} : Flags).caseRule c.toNat) .plain)
  | some bounds =>
    done.checkRepeat
    let greed ← readGreed
    readMore (done.repeatLast bounds greed)

/-- A sequence goes on behind a character or behind bounds. -/
theorem within_readCharacter {isStart isStart' : Bool} {done done' : Partial}
    (hdone : done.Alike done') {c : Char} (hcs : isPortable (c :: cs) = true) :
    ReadsWithin tail (c :: cs) Alike (readCharacter (readSequence n isStart {}) done c cs)
      (readCharacter (readSequence n' isStart' {}) done' c (cs ++ tail)) := by
  have hmore := isPortable_of_cons hcs
  refine within_bind (within_readBounds? htail hcs) ?_
  rintro bounds _ ds rfl hds
  cases bounds with
  | none => exact within_goOn hmore (ih.sequence hn hmore (hdone.push (.leaf rfl) _))
  | some bounds =>
      rw [← hdone.checkRepeat_eq]
      refine within_bind (within_lift _) ?_
      rintro _ _ es rfl hes
      refine within_bind (within_readGreed htail hes) ?_
      rintro greed _ fs rfl hfs
      exact ih.sequence hn hfs (hdone.repeatLast bounds greed)

theorem within_readSequence_succ {isStart isStart' : Bool} {done done' : Partial}
    (hdone : done.Alike done') (hcs : isPortable cs = true) :
    ReadsWithin tail cs Alike (readSequence (n + 1) isStart {} done)
      (readSequence (n' + 1) isStart' {} done') := by
  refine within_rest ?_
  have hend : ReadsWithin tail cs Alike (pure done.pattern) (pure done'.pattern) :=
    within_pure hdone.pattern
  cases cs with
  | nil => cases htail <;> exact hend
  | cons c cs =>
      have hmore := isPortable_of_cons hcs
      have hpush : ∀ {p : Pattern} (kind : PartKind), p.isLeaf = true →
          ReadsWithin tail (c :: cs) Alike
            (goOn cs >>= fun _ => readSequence n isStart {} (done.push p kind))
            (goOn (cs ++ tail) >>= fun _ => readSequence n' isStart' {} (done'.push p kind)) := by
        intro p kind hp
        exact within_goOn hmore (ih.sequence hn hmore (hdone.push (.leaf hp) kind))
      by_cases hbar : c = '|'
      · subst hbar
        exact hend
      by_cases hclose : c = ')'
      · subst hclose
        exact hend
      by_cases hdot : c = '.'
      · subst hdot
        exact hpush .plain rfl
      by_cases hcaret : c = '^'
      · subst hcaret
        exact hpush .place rfl
      by_cases hdollar : c = '$'
      · subst hdollar
        exact hpush .place rfl
      by_cases hclass : c = '['
      · subst hclass
        refine within_goOn hmore (within_bind (within_readClass htail hmore) ?_)
        rintro set set' ds hset hds
        exact ih.sequence hn hds (hdone.push hset _)
      by_cases hback : c = '\\'
      · subst hback
        refine within_goOn hmore (within_bind (within_readEscape htail hcs) ?_)
        rintro escaped _ ds ⟨rfl, hplain⟩ hds
        exact ih.sequence hn hds (hdone.pushEscaped hplain)
      by_cases hopen : c = '('
      · subst hopen
        refine within_goOn hmore (within_bind (within_readGroupKind htail hcs) ?_)
        rintro kind _ ds ⟨rfl, hkind⟩ hds
        cases kind with
        | comment => exact ih.sequence hn hds hdone
        | capture name => exact within_readSequence_group ih hn hdone hkind (by simp) hds
        | plain flags => exact within_readSequence_group ih hn hdone hkind (by simp) hds
        | atomic => exact within_readSequence_group ih hn hdone hkind (by simp) hds
        | look isAhead negated =>
            exact within_readSequence_group ih hn hdone hkind (by simp) hds
        | condition group => cases hkind
        | reference group => cases hkind
        | global letters => cases hkind
      · simp only [List.cons_append]
        exact within_readCharacter htail ih hn hdone hcs

end Step

/-- Reading with any fuel keeps to reading in front of a tail. -/
theorem keepsTo (htail : IsTail tail) (n : Nat) : KeepsTo tail n := by
  induction n with
  | zero => exact keepsTo_zero
  | succ n ih =>
      have hsucc : ∀ {n'}, n + 1 ≤ n' → ∃ m, n' = m + 1 ∧ n ≤ m := by
        intro n' hn
        exact ⟨n' - 1, by omega, by omega⟩
      exact {
        sequence := by
          intro n' cs isStart isStart' done done' hn hcs hdone
          obtain ⟨m, rfl, hm⟩ := hsucc hn
          exact within_readSequence_succ htail ih hm hdone hcs
        more := by
          intro n' cs first first' hn hfirst
          obtain ⟨m, rfl, hm⟩ := hsucc hn
          exact inside_readMoreAlternatives_succ ih hm hfirst
        alternatives := by
          intro n' cs hn hcs
          obtain ⟨m, rfl, hm⟩ := hsucc hn
          exact inside_readAlternatives_succ ih hm hcs
        group := by
          intro n' cs kind hn hcs hkind hcomment
          obtain ⟨m, rfl, hm⟩ := hsucc hn
          exact within_readGroup_succ htail ih hm hkind hcomment hcs }

/-- A sequence is read in front of a tail, and with more fuel, as a pattern that is alike. -/
theorem within_readSequence (htail : IsTail tail) {n n' : Nat} (hn : n ≤ n') (isStart isStart' : Bool)
    (hcs : isPortable cs = true) :
    ReadsWithin tail cs Alike (readSequence n isStart {} .start) (readSequence n' isStart' {} .start) :=
  (keepsTo htail n).sequence hn hcs (.start (.leaf rfl))

end ApiLint.Pattern
