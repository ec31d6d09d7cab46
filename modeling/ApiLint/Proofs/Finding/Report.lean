import ApiLint.Finding.Report

/-!
# Laws of findings

Each keyword with a message of its own has an equation for its finding, and the findings of a list
of raw errors are those of its parts one after the other.

Main results:

- Theorems `toFinding_enum` and `toFinding_errorMessage`: the findings by keyword.
- Theorem `exists_ofErrors_iff_forall_toFinding`: a list has findings exactly when its relevant
  errors have.
- Theorem `ofErrors_append`: the findings of a list are those of its parts.
-/

namespace ApiLint

namespace RawError

/-! ## Single raw errors -/

/-- The finding of an enumeration. -/
theorem toFinding_enum (document : Node) {e : RawError} (hkeyword : e.keyword = "enum") :
    e.toFinding document =
      if Node.anyLongInteger e.allowedValues then .error .toWrite
      else match Pointer.resolveText? document ("#" ++ e.instancePath) with
        | .error e => .error e
        | .ok found => .ok ⟨e.enumMessage found, Location.segmentsOfPath e.instancePath⟩ := by
  simp only [toFinding, hkeyword]
  exact (if_neg (by decide)).trans (if_pos trivial)

/-- The finding of a message that was made for it. -/
theorem toFinding_errorMessage (document : Node) {e : RawError}
    (hkeyword : e.keyword = "errorMessage") :
    e.toFinding document =
      if e.message.isTruthy then
        match e.message.display? with
        | .error e => .error e
        | .ok text => .ok ⟨text, Location.segmentsOfPath e.instancePath⟩
      else .ok ⟨"", Location.segmentsOfPath e.instancePath⟩ := by
  simp only [toFinding, hkeyword]
  exact (if_neg (by decide)).trans ((if_neg (by decide)).trans (if_pos trivial))

/-- Only enumerations and made messages can be refused. -/
theorem exists_toFinding_of_keyword {document : Node} {e : RawError} (henum : e.keyword ≠ "enum")
    (hmessage : e.keyword ≠ "errorMessage") : ∃ finding, e.toFinding document = .ok finding := by
  simp only [toFinding, if_neg henum, if_neg hmessage]
  split
  · split <;> exact ⟨_, rfl⟩
  · exact ⟨_, rfl⟩

/-- A finding is at the place of its error, unless it names an additional property. -/
theorem path_of_toFinding {document : Node} {e : RawError} {finding : Finding}
    (hname : e.keyword = "additionalProperties" → e.additionalProperty? = none)
    (h : e.toFinding document = .ok finding) :
    finding.path = Location.segmentsOfPath e.instancePath := by
  rw [toFinding] at h
  split at h
  · rename_i hkeyword
    rw [hname hkeyword] at h
    cases h
    rfl
  · split at h
    · split at h
      · cases h
      · split at h <;> cases h
        rfl
    · split at h
      · split at h
        · split at h <;> cases h
          rfl
        · cases h
          rfl
      · cases h
        rfl

/-- The finding of an additional property that is named. -/
theorem toFinding_additionalProperty (document : Node) {e : RawError} {name : String}
    (hkeyword : e.keyword = "additionalProperties") (hname : e.additionalProperty? = some name) :
    e.toFinding document = .ok ⟨"Property \"" ++ name ++ "\" is not expected to be here",
      Location.segmentsOfPath e.instancePath ++ [name]⟩ := by
  rw [toFinding, if_pos hkeyword, hname]

end RawError

namespace Finding

/-! ## Lists of raw errors -/

variable {document : Node} {e : RawError} {errors more : List (Option RawError)}

/-- The finding of a relevant error stands before those of the others. -/
theorem ofErrors_cons_of_relevant (hrelevant : e.isRelevant = true) :
    ofErrors document (some e :: errors) =
      match e.toFinding document with
      | .error fault => .error fault
      | .ok finding =>
        match ofErrors document errors with
        | .error fault => .error fault
        | .ok findings => .ok (finding :: findings) :=
  if_pos hrelevant

/-- Findings of a relevant error and others are its own finding and theirs. -/
theorem ofErrors_cons_eq_ok_iff (hrelevant : e.isRelevant = true) {findings : List Finding} :
    ofErrors document (some e :: errors) = .ok findings ↔
      ∃ finding later, e.toFinding document = .ok finding ∧ ofErrors document errors = .ok later ∧
        findings = finding :: later := by
  rw [ofErrors_cons_of_relevant hrelevant]
  cases e.toFinding document with
  | error fault => simp
  | ok finding =>
      cases ofErrors document errors with
      | error fault => simp
      | ok later => simp [eq_comm]

/-- A relevant error alone has its own finding. -/
theorem ofErrors_singleton_eq_ok_iff (hrelevant : e.isRelevant = true) {findings : List Finding} :
    ofErrors document [some e] = .ok findings ↔
      ∃ finding, e.toFinding document = .ok finding ∧ findings = [finding] := by
  rw [ofErrors_cons_eq_ok_iff hrelevant]
  simp [ofErrors]

/-- An error that is not relevant has no finding. -/
theorem ofErrors_cons_of_irrelevant (hrelevant : e.isRelevant = false) :
    ofErrors document (some e :: errors) = ofErrors document errors := by
  rw [ofErrors, if_neg (by rw [hrelevant]; decide)]

/-- A list has findings exactly when each of its relevant errors has one. -/
theorem exists_ofErrors_iff_forall_toFinding :
    (∃ findings, ofErrors document errors = .ok findings) ↔
      ∀ e, some e ∈ errors → e.isRelevant = true →
        ∃ finding, e.toFinding document = .ok finding := by
  induction errors with
  | nil =>
      refine iff_of_true ⟨[], rfl⟩ ?_
      rintro e ⟨⟩
  | cons first rest ih =>
      cases first with
      | none => simpa [ofErrors] using ih
      | some e =>
          simp only [List.mem_cons, Option.some.injEq, or_imp, forall_and, forall_eq, ← ih]
          cases hrelevant : e.isRelevant with
          | false =>
              rw [ofErrors_cons_of_irrelevant hrelevant]
              exact ⟨fun hrest => ⟨nofun, hrest⟩, And.right⟩
          | true =>
              simp only [ofErrors_cons_eq_ok_iff hrelevant]
              constructor
              · rintro ⟨_, finding, later, hfinding, hlater, -⟩
                exact ⟨fun _ => ⟨finding, hfinding⟩, later, hlater⟩
              · rintro ⟨hown, later, hlater⟩
                obtain ⟨finding, hfinding⟩ := hown trivial
                exact ⟨_, finding, later, hfinding, hlater, rfl⟩

/-- Errors each of which has a finding have these findings. -/
theorem ofErrors_map {α : Type} {xs : List α} {error : α → RawError} {finding : α → Finding}
    (hrelevant : ∀ x ∈ xs, (error x).isRelevant = true)
    (hfinding : ∀ x ∈ xs, (error x).toFinding document = .ok (finding x)) :
    ofErrors document ((xs.map error).map some) = .ok (xs.map finding) := by
  induction xs with
  | nil => rfl
  | cons x xs ih =>
      have hrest : ofErrors document ((xs.map error).map some) = .ok (xs.map finding) :=
        ih (fun y hmem => hrelevant y (List.mem_cons_of_mem x hmem))
          fun y hmem => hfinding y (List.mem_cons_of_mem x hmem)
      exact (ofErrors_cons_eq_ok_iff (hrelevant x List.mem_cons_self)).mpr
        ⟨finding x, xs.map finding, hfinding x List.mem_cons_self, hrest, rfl⟩

/-- The findings of a list are those of its parts one after the other. -/
theorem ofErrors_append {findings others : List Finding}
    (herrors : ofErrors document errors = .ok findings)
    (hmore : ofErrors document more = .ok others) :
    ofErrors document (errors ++ more) = .ok (findings ++ others) := by
  induction errors generalizing findings with
  | nil =>
      cases herrors
      exact hmore
  | cons first rest ih =>
      cases first with
      | none => exact ih herrors
      | some e =>
          cases hrelevant : e.isRelevant with
          | false =>
              rw [ofErrors_cons_of_irrelevant hrelevant] at herrors
              rw [List.cons_append, ofErrors_cons_of_irrelevant hrelevant, ih herrors]
          | true =>
              obtain ⟨finding, later, hfinding, hlater, rfl⟩ :=
                (ofErrors_cons_eq_ok_iff hrelevant).mp herrors
              exact (ofErrors_cons_eq_ok_iff hrelevant).mpr
                ⟨finding, later ++ others, hfinding, ih hlater, rfl⟩

end Finding

end ApiLint
