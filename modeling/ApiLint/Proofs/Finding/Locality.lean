import ApiLint.Proofs.Finding.Report
import Mathlib.Data.List.Forall2

/-!
# What a finding depends on

Every finding is made of its own raw error alone; of the document it sees nothing but the string
that an error of the keyword `enum` points at.  So lists of raw errors can be cut anywhere, and two
documents that agree on these strings have the same findings.

Main results:

- Theorem `path_eq_shownPath_of_toFinding`: the path of a finding is told by its raw error.
- Theorem `ofErrors_eq_ok_iff`: findings stand in the order of the relevant errors, one for each.
- Theorem `ofErrors_congr`: documents that are seen alike have the same findings.
- Theorem `ofErrors_eq_of_foundAlike`: all of it together.
-/

namespace ApiLint

namespace Pointer

/-- In two documents a path leads to the same string, or in neither of them to a string. -/
def FoundAlike (first second : Node) (path : String) : Prop :=
  ∃ x y, resolve? first (.str ("#" ++ path)) = .ok x ∧
    resolve? second (.str ("#" ++ path)) = .ok y ∧
    ((∃ s, x = some (.str s) ∧ y = some (.str s)) ∨
      (∀ s, x ≠ some (.str s)) ∧ ∀ s, y ≠ some (.str s))

end Pointer

namespace RawError

variable {document first second : Node} {e : RawError} {finding : Finding}

/-! ## The path of a finding -/

/-- The path that the finding of an error has: a property that is not allowed is named behind it. -/
def shownPath (e : RawError) : List String :=
  Location.segmentsOfPath e.instancePath ++
    if e.keyword = "additionalProperties" then e.additionalProperty?.toList else []

/-- The path of a finding is told by its raw error. -/
theorem path_eq_shownPath_of_toFinding (h : e.toFinding document = .ok finding) :
    finding.path = e.shownPath := by
  by_cases hkeyword : e.keyword = "additionalProperties"
  · cases hname : e.additionalProperty? with
    | none =>
        rw [path_of_toFinding (fun _ => hname) h, shownPath, if_pos hkeyword, hname]
        exact (List.append_nil _).symm
    | some name =>
        rw [toFinding_additionalProperty document hkeyword hname, Except.ok.injEq] at h
        rw [← h, shownPath, if_pos hkeyword, hname]
        rfl
  · rw [path_of_toFinding (fun h => absurd h hkeyword) h, shownPath, if_neg hkeyword,
      List.append_nil]

/-! ## What is seen of the document -/

/-- An offer is made for strings only. -/
theorem suggestion_of_not_str (allowed : List Node) {x : Option Node}
    (hx : ∀ s, x ≠ some (.str s)) : suggestion allowed x = "" := by
  rw [suggestion.eq_def]
  split
  · rename_i s
    exact absurd rfl (hx s)
  · rfl

/-- The finding of an enumeration sees the string that its path leads to. -/
theorem toFinding_eq_of_foundAlike (hkeyword : e.keyword = "enum")
    (h : Pointer.FoundAlike first second e.instancePath) :
    e.toFinding first = e.toFinding second := by
  obtain ⟨x, y, hx, hy, halike⟩ := h
  rw [Pointer.resolve?] at hx hy
  have hoffer : suggestion e.allowedValues x = suggestion e.allowedValues y := by
    rcases halike with ⟨s, rfl, rfl⟩ | ⟨hnox, hnoy⟩
    · rfl
    · rw [suggestion_of_not_str _ hnox, suggestion_of_not_str _ hnoy]
  rw [toFinding_enum first hkeyword, toFinding_enum second hkeyword, hx, hy]
  simp only [enumMessage, hoffer]

/-- All other findings see nothing of the document. -/
theorem toFinding_eq_of_ne (hkeyword : e.keyword ≠ "enum") (first second : Node) :
    e.toFinding first = e.toFinding second := by
  simp only [toFinding, if_neg hkeyword]

end RawError

namespace Finding

variable {document first second : Node} {errors xs ys : List (Option RawError)}
  {findings others : List Finding}

/-! ## One finding for each relevant error -/

/-- The errors that have findings. -/
def relevantErrors (errors : List (Option RawError)) : List RawError :=
  (errors.filterMap id).filter RawError.isRelevant

/-- Findings stand in the order of the relevant errors, one for each. -/
theorem ofErrors_eq_ok_iff :
    ofErrors document errors = .ok findings ↔
      List.Forall₂ (fun e finding => e.toFinding document = .ok finding) (relevantErrors errors)
        findings := by
  induction errors generalizing findings with
  | nil => simp [ofErrors, relevantErrors, eq_comm]
  | cons entry rest ih =>
      cases entry with
      | none => exact ih
      | some e =>
          cases hrelevant : e.isRelevant with
          | false =>
              have hrest : relevantErrors (some e :: rest) = relevantErrors rest := by
                simp [relevantErrors, hrelevant]
              rw [ofErrors_cons_of_irrelevant hrelevant, hrest, ih]
          | true =>
              have hrest : relevantErrors (some e :: rest) = e :: relevantErrors rest := by
                simp [relevantErrors, hrelevant]
              rw [ofErrors_cons_eq_ok_iff hrelevant, hrest, List.forall₂_cons_left_iff]
              simp only [ih]

/-- Each finding has the path that its error tells. -/
theorem forall₂_path_of_ofErrors (h : ofErrors document errors = .ok findings) :
    List.Forall₂
      (fun e finding => e.toFinding document = .ok finding ∧ finding.path = e.shownPath)
      (relevantErrors errors) findings :=
  (ofErrors_eq_ok_iff.mp h).imp fun _ _ hfinding =>
    ⟨hfinding, RawError.path_eq_shownPath_of_toFinding hfinding⟩

/-! ## Two documents -/

/-- Documents in which each relevant error has the same finding have the same findings. -/
theorem ofErrors_congr (h : ∀ e, some e ∈ errors → e.toFinding first = e.toFinding second) :
    ofErrors first errors = ofErrors second errors := by
  induction errors with
  | nil => rfl
  | cons entry rest ih =>
      have hrest : ofErrors first rest = ofErrors second rest :=
        ih fun e hmem => h e (List.mem_cons_of_mem entry hmem)
      cases entry with
      | none => exact hrest
      | some e =>
          simp only [ofErrors, hrest, h e List.mem_cons_self]

/--
The findings of two lists are the findings of both put together; there is one for each relevant
error, in order, made of this error alone, with the path that it tells; and two documents have the
same findings when the errors of enumerations find the same strings, or none, in both.
-/
theorem ofErrors_eq_of_foundAlike (hxs : ofErrors document xs = .ok findings)
    (hys : ofErrors document ys = .ok others) :
    ofErrors document (xs ++ ys) = .ok (findings ++ others) ∧
      List.Forall₂
        (fun e finding => e.toFinding document = .ok finding ∧ finding.path = e.shownPath)
        (relevantErrors xs) findings ∧
      ∀ (first second : Node) (errors : List (Option RawError)),
        (∀ e, some e ∈ errors → e.keyword = "enum" →
          Pointer.FoundAlike first second e.instancePath) →
        ofErrors first errors = ofErrors second errors := by
  refine ⟨ofErrors_append hxs hys, forall₂_path_of_ofErrors hxs, ?_⟩
  intro first second errors halike
  refine ofErrors_congr fun e hmem => ?_
  by_cases hkeyword : e.keyword = "enum"
  · exact RawError.toFinding_eq_of_foundAlike hkeyword (halike e hmem hkeyword)
  · exact RawError.toFinding_eq_of_ne hkeyword first second

/-- A document with some value under `kind`. -/
def ofKind (x : Node) : Node := .map [(.str "kind", x), (.str "size", .int 3)]

/-- A raw error of an enumeration at this value. -/
def notAllowed : RawError where
  keyword := "enum"
  instancePath := "/kind"
  message := .str "must be equal to one of the allowed values"
  params := [("allowedValues", .list [.str "apple", .str "pear"])]
  schemaPath := "#/properties/kind/enum"

/-- A raw error of a property that is not allowed. -/
def notExpected : RawError where
  keyword := "additionalProperties"
  instancePath := "/a~1b"
  message := .str "must NOT have additional properties"
  params := [("additionalProperty", .str "c")]
  schemaPath := "#/additionalProperties"

/-- Two lists of errors are shown one after the other, and alike for documents that agree under `kind`. -/
theorem ofErrors_eq_of_foundAlike_ofKind :
    ofErrors (ofKind .null) ([some notAllowed, none] ++ [some notExpected]) =
        .ok ([⟨"\"kind\" property must be equal to one of the allowed values: \"apple\", \"pear\"",
            ["kind"]⟩] ++ [⟨"Property \"c\" is not expected to be here", ["a/b", "c"]⟩]) ∧
      notAllowed.shownPath = ["kind"] ∧
      ofErrors (ofKind (.str "aple")) [some notAllowed] =
        ofErrors (.map [(.str "kind", .str "aple")]) [some notAllowed] := by
  have hfirst : ofErrors (ofKind .null) [some notAllowed, none] =
      .ok [⟨"\"kind\" property must be equal to one of the allowed values: \"apple\", \"pear\"",
        ["kind"]⟩] := by
    decide +kernel
  have hsecond : ofErrors (ofKind .null) [some notExpected] =
      .ok [⟨"Property \"c\" is not expected to be here", ["a/b", "c"]⟩] := by
    decide +kernel
  obtain ⟨happend, hpaths, htwo⟩ := ofErrors_eq_of_foundAlike hfirst hsecond
  refine ⟨happend, ?_, htwo _ _ _ fun e hmem _ => ?_⟩
  · exact (List.forall₂_cons.mp hpaths).1.2.symm
  · obtain rfl : e = notAllowed := by simpa using hmem
    exact ⟨_, _, rfl, rfl, .inl ⟨"aple", rfl, rfl⟩⟩

end Finding

end ApiLint
