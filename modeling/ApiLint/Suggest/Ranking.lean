import ApiLint.Node.Basic
import ApiLint.Suggest.EditDistance

/-!
# Suggestions

Which of the allowed values somebody may have meant.  Only strings are candidates; they are ranked by
their distance from the value found, the earlier of two equally close ones first.
-/

namespace ApiLint

/-- A candidate with its distance from the value found. -/
structure Candidate where
  value : String
  weight : Nat
deriving DecidableEq

namespace Candidate

/-- The string candidates with their distances, in the order given. -/
def score (value : String) (allowed : List Node) : List Candidate :=
  allowed.filterMap fun x => x.str?.map fun s => ⟨s, editDistance value s⟩

/-- The string candidates, closest first. -/
def rank (value : String) (allowed : List Node) : List Candidate :=
  (score value allowed).mergeSort fun a b => a.weight ≤ b.weight

/--
The closest candidate.  The only allowed value is always suggested; among several, the closest one only if
its distance is less than its own length, so that it has at least one character in common with the value.
-/
def bestMatch? (value : String) (allowed : List Node) : Option String :=
  match rank value allowed with
  | [] => none
  | best :: _ =>
    if allowed.length = 1 ∨ best.weight < best.value.length then some best.value else none

end Candidate

end ApiLint
