import ApiLint.Pattern.Basic

/-!
# Matching patterns

A pattern is matched at a place of a text; alternatives are tried in their order and repetitions in the
order of their greed, until what follows matches, too.  What follows is a function that is given the place
reached and what the groups have matched, so the recursion is on the pattern alone.
-/

namespace ApiLint.Pattern

/-! ## Places and groups -/

/-- The start and the end of what each group has matched last, by the number of the group. -/
abbrev Captures := List (Nat × Nat × Nat)

/-- Remember what a group has matched. -/
def Captures.set (captures : Captures) (number first last : Nat) : Captures :=
  (number, first, last) :: captures.filter (·.1 ≠ number)

/-- The place that a match reaches, and what its groups have matched. -/
abbrev Reached := Nat × Captures

/-- What follows a place: it may lead to the end of a match. -/
abbrev Following := Nat → Captures → Option Reached

/-- Is there a word character at this place? -/
def isWordAt (asciiOnly : Bool) (text : Array Char) (i : Nat) : Bool :=
  (text[i]?.map fun c => Category.word.contains asciiOnly c).getD false

/-- Is this place between a word character and another one? -/
def isWordEdge (asciiOnly : Bool) (text : Array Char) (i : Nat) : Bool :=
  (match i with
    | 0 => false
    | j + 1 => isWordAt asciiOnly text j) != isWordAt asciiOnly text i

/-- Is this place the end of the text or before the line feed that ends it? -/
def isEnd (text : Array Char) (i : Nat) : Bool :=
  i == text.size || (i + 1 == text.size && text[i]? == some '\n')

/-- Is this place the start of the text or after a line feed? -/
def isLineStart (text : Array Char) (i : Nat) : Bool :=
  match i with
  | 0 => true
  | j + 1 => text[j]? == some '\n'

/-- Does the text between two places stand at a third one, too? -/
def repeatsAt (rule : CaseRule) (text : Array Char) (first i : Nat) : Nat → Bool
  | 0 => true
  | n + 1 =>
    match text[first]?, text[i]? with
    | some a, some b =>
      rule.small a.toNat == rule.small b.toNat && repeatsAt rule text (first + 1) (i + 1) n
    | _, _ => false

/-! ## Rounds of a single character -/

/-- The test of a pattern that always matches one character. -/
def singleTest? : Pattern → Option (Char → Bool)
  | .one set => some set.contains
  | .any lineFeeds => some fun c => lineFeeds || c != '\n'
  | _ => none

/-- The number of characters in a row from a place on that pass a test, up to a limit. -/
def runLength (test : Char → Bool) (text : Array Char) : (limit i : Nat) → Nat
  | 0, _ => 0
  | limit + 1, i => if (text[i]?.map test).getD false then runLength test text limit (i + 1) + 1 else 0

/-- Go on after `extra` more characters, or fewer. -/
def downFrom (follow : Following) (captures : Captures) (i : Nat) : (extra : Nat) → Option Reached
  | 0 => follow i captures
  | extra + 1 =>
    match follow (i + extra + 1) captures with
    | some reached => some reached
    | none => downFrom follow captures i extra

/-- Go on after no more characters, or up to `extra` more. -/
def upFrom (follow : Following) (captures : Captures) : (i extra : Nat) → Option Reached
  | i, 0 => follow i captures
  | i, extra + 1 =>
    match follow i captures with
    | some reached => some reached
    | none => upFrom follow captures (i + 1) extra

/-- Repeat a single character. -/
def singleRounds (test : Char → Bool) (text : Array Char) (least : Nat) (most : Option Nat) (greed : Greed)
    (i : Nat) (captures : Captures) (follow : Following) : Option Reached :=
  let room := text.size - i
  let count := runLength test text (min (most.getD room) room) i
  if count < least then none
  else match greed with
    | .most => downFrom follow captures (i + least) (count - least)
    | .fewest => upFrom follow captures (i + least) (count - least)
    | .possessive => follow (i + count) captures

/-! ## Rounds of any pattern -/

/-- Are further rounds allowed after this many? -/
def isBelow (done : Nat) : Option Nat → Bool
  | some most => done < most
  | none => true

/--
Repeat a pattern, given as a function of place, captures and what follows.  Of the rounds that must be there
one that consumes nothing stands for all that remain; a further round starts only at a new place.  So
there are at most two rounds more than places, and `fuel` need not be larger.
-/
def rounds (body : Nat → Captures → Following → Option Reached) (least : Nat) (most : Option Nat)
    (greed : Greed) (follow : Following) :
    (fuel done : Nat) → (last : Option Nat) → (i : Nat) → (captures : Captures) → Option Reached
  | 0, _, _, i, captures => follow i captures
  | fuel + 1, done, last, i, captures =>
    if done < least then
      body i captures fun j captures =>
        rounds body least most greed follow fuel (if j = i then least else done + 1) last j captures
    else
      let more := fun (_ : Unit) =>
        if isBelow done most && last != some i then
          body i captures fun j captures =>
            rounds body least most greed follow fuel (done + 1) (some i) j captures
        else none
      match greed with
      | .fewest =>
        match follow i captures with
        | some reached => some reached
        | none => more ()
      | _ =>
        match more () with
        | some reached => some reached
        | none => follow i captures

/-- Repeat a pattern as often as possible; every round takes its first match and no other. -/
def ownRounds (body : Nat → Captures → Following → Option Reached) (least : Nat) (most : Option Nat) :
    (fuel done : Nat) → (last : Option Nat) → (i : Nat) → (captures : Captures) → Option Reached
  | 0, _, _, i, captures => some (i, captures)
  | fuel + 1, done, last, i, captures =>
    if done < least then
      match body i captures fun j captures => some (j, captures) with
      | some (j, captures) =>
        ownRounds body least most fuel (if j = i then least else done + 1) last j captures
      | none => none
    else if isBelow done most && last != some i then
      match body i captures fun j captures => some (j, captures) with
      | some (j, captures) => ownRounds body least most fuel (done + 1) (some i) j captures
      | none => some (i, captures)
    else some (i, captures)

/-! ## Matching -/

/-- Go on if a condition holds. -/
def goOnIf (condition : Bool) (follow : Following) (i : Nat) (captures : Captures) : Option Reached :=
  if condition then follow i captures else none

/-- Match a pattern at a place, and then what follows. -/
def run (text : Array Char) : Pattern → Nat → Captures → Following → Option Reached
  | .empty, i, captures, follow => follow i captures
  | .never, _, _, _ => none
  | .one set, i, captures, follow =>
    if (text[i]?.map set.contains).getD false then follow (i + 1) captures else none
  | .any lineFeeds, i, captures, follow =>
    if (text[i]?.map fun c => lineFeeds || c != '\n').getD false then follow (i + 1) captures else none
  | .atStart, i, captures, follow => goOnIf (i == 0) follow i captures
  | .atLineStart, i, captures, follow => goOnIf (isLineStart text i) follow i captures
  | .atEnd, i, captures, follow => goOnIf (isEnd text i) follow i captures
  | .atLineEnd, i, captures, follow =>
    goOnIf (i == text.size || text[i]? == some '\n') follow i captures
  | .atVeryEnd, i, captures, follow => goOnIf (i == text.size) follow i captures
  | .atWordEdge asciiOnly negated, i, captures, follow =>
    goOnIf (!text.isEmpty && isWordEdge asciiOnly text i != negated) follow i captures
  | .seq first second, i, captures, follow =>
    run text first i captures fun j captures => run text second j captures follow
  | .alt first second, i, captures, follow =>
    match run text first i captures follow with
    | some reached => some reached
    | none => run text second i captures follow
  | .repeated body least most greed, i, captures, follow =>
    match body.singleTest? with
    | some test => singleRounds test text least most greed i captures follow
    | none =>
      let fuel := 2 * (text.size - i) + 4
      if greed = .possessive then
        match ownRounds (run text body) least most fuel 0 none i captures with
        | some (j, captures) => follow j captures
        | none => none
      else rounds (run text body) least most greed follow fuel 0 none i captures
  | .group number body, i, captures, follow =>
    run text body i captures fun j captures => follow j (captures.set number i j)
  | .atomic body, i, captures, follow =>
    match run text body i captures fun j captures => some (j, captures) with
    | some (j, captures) => follow j captures
    | none => none
  | .again number rule, i, captures, follow =>
    match captures.lookup number with
    | some (first, last) =>
      if repeatsAt rule text first i (last - first) then follow (i + (last - first)) captures else none
    | none => none
  | .ifMatched number yes no, i, captures, follow =>
    match captures.lookup number with
    | some _ => run text yes i captures follow
    | none => run text no i captures follow
  | .ahead negated body, i, captures, follow =>
    match run text body i captures fun j captures => some (j, captures) with
    | some (_, found) => if negated then none else follow i found
    | none => if negated then follow i captures else none
  | .behind negated width body, i, captures, follow =>
    let found := if width ≤ i then run text body (i - width) captures fun j captures => some (j, captures)
      else none
    match found with
    | some (_, found) => if negated then none else follow i found
    | none => if negated then follow i captures else none

/-- Is there a match that starts at this place? -/
def matchesAt (p : Pattern) (text : Array Char) (i : Nat) : Bool :=
  (run text p i [] fun j captures => some (j, captures)).isSome

/-- Is there a match anywhere in the text? -/
def foundIn (p : Pattern) (s : String) : Bool :=
  let text := s.toList.toArray
  (List.range (text.size + 1)).any (p.matchesAt text)

end ApiLint.Pattern
