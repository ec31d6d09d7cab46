import ApiLint.Yaml.Faults

/-!
# Faults of scanning YAML

Reading characters, scalars, names, tags and directives ends with what was read or with a fault of the text.  Almost
every fault is malformed text; the others are escapes that name a character beyond the last one, and
numbers of versions with too many digits.

Main results:

- Theorem `scans_quotedScalar`: text in quotes.
- Theorem `scans_directive`: directives.
-/

namespace ApiLint.Yaml

/-! ## Outcomes -/

/-- An outcome of scanning: something with a property was read, or the fault is one of the text. -/
def Scans {α : Type} (Q : α → Prop) : Except ReadError α → Prop
  | .ok a => Q a
  | .error e => e.IsOfText

variable {α β : Type} {Q : α → Prop} {R : β → Prop} {outcome : Except ReadError α}

theorem scans_malformed (problem : Problem) : Scans Q (.error (.malformed problem)) := .malformed problem

/-- What was read has the property. -/
theorem Scans.of_ok {a : α} (h : Scans Q outcome) (heq : outcome = .ok a) : Q a := by
  rw [heq] at h
  exact h

/-- A fault that is passed on is still one of the text. -/
theorem Scans.of_error {e : ReadError} (h : Scans Q outcome) (heq : outcome = .error e) :
    Scans R (.error e) := by
  rw [heq] at h
  exact h

theorem Scans.map (h : Scans Q outcome) {f : α → β} (hf : ∀ a, Q a → R (f a)) :
    Scans R (outcome.map f) := by
  cases outcome with
  | error e => exact h
  | ok a => exact hf a h

theorem Scans.bind (h : Scans Q outcome) {f : α → Except ReadError β}
    (hf : ∀ a, Q a → Scans R (f a)) : Scans R (outcome.bind f) := by
  cases outcome with
  | error e => exact h
  | ok a => exact hf a h

/-! ## Lines -/

theorem scans_skipLineEnd (c : Cursor) (otherwise : Problem) :
    Scans (fun _ => True) (c.skipLineEnd otherwise) := by
  unfold Cursor.skipLineEnd
  dsimp only
  split
  · exact trivial
  · exact scans_malformed _

/-! ## Quoted text -/

theorem scans_quotedBreaks (fuel : Nat) (c : Cursor) : Scans (fun _ => True) (quotedBreaks fuel c) := by
  induction fuel generalizing c with
  | zero => exact scans_malformed _
  | succ fuel ih =>
      rw [quotedBreaks]
      split
      · exact scans_malformed _
      · dsimp only
        split
        · split
          · exact trivial
          · rename_i hmore
            exact (ih _).of_error hmore
        · exact trivial

theorem scans_quotedSpaces (c : Cursor) : Scans (fun _ => True) (quotedSpaces c) := by
  unfold quotedSpaces
  dsimp only
  split
  · exact scans_malformed _
  · split
    · split
      · exact trivial
      · rename_i hbreaks
        exact (scans_quotedBreaks _ _).of_error hbreaks
    · exact trivial

/-- An escape names a character, or a number beyond the last one. -/
theorem scans_quotedEscape (c : Cursor) : Scans (fun _ => True) (quotedEscape c) := by
  unfold quotedEscape
  split
  · exact trivial
  · dsimp only
    split
    · split
      · split
        · exact trivial
        · rename_i hcode
          exact .character (Nat.le_of_not_lt hcode)
      · exact scans_malformed _
    · exact scans_malformed _
  · split
    · exact scans_quotedBreaks _ _
    · exact scans_malformed _

theorem scans_quotedRun (double : Bool) (fuel : Nat) (c : Cursor) :
    Scans (fun _ => True) (quotedRun double fuel c) := by
  induction fuel generalizing c with
  | zero => exact scans_malformed _
  | succ fuel ih =>
      unfold quotedRun
      dsimp only
      -- What fails is the escape here or the rest of the run.
      repeat' split
      all_goals first
        | exact trivial
        | exact (ih _).of_error ‹_›
        | exact (scans_quotedEscape _).of_error ‹_›

theorem scans_quotedParts (quote : Char) (fuel : Nat) (c : Cursor) :
    Scans (fun _ => True) (quotedParts quote fuel c) := by
  induction fuel generalizing c with
  | zero => exact scans_malformed _
  | succ fuel ih =>
      rw [quotedParts]
      split
      · rename_i hrun
        exact (scans_quotedRun _ _ _).of_error hrun
      · split
        · exact trivial
        · split
          · rename_i hspaces
            exact (scans_quotedSpaces _).of_error hspaces
          · split
            · exact trivial
            · rename_i hparts
              exact (ih _).of_error hparts

theorem scans_quotedScalar (c : Cursor) : Scans (fun _ => True) (quotedScalar c) := by
  unfold quotedScalar
  split
  · exact trivial
  · rename_i hparts
    exact (scans_quotedParts _ _ _).of_error hparts

/-! ## Block text -/

theorem scans_blockIncrement (c : Cursor) : Scans (fun _ => True) (blockIncrement c) := by
  unfold blockIncrement
  split
  · exact scans_malformed _
  · split <;> exact trivial

theorem scans_blockHeader (c : Cursor) : Scans (fun _ => True) (blockHeader c) := by
  unfold blockHeader
  split
  split
  · rename_i hincrement
    exact (scans_blockIncrement _).of_error hincrement
  · split
    split
    · split
      · exact trivial
      · rename_i hend
        exact (scans_skipLineEnd _ _).of_error hend
    · exact scans_malformed _

theorem scans_blockScalar (outer : Int) (c : Cursor) : Scans (fun _ => True) (blockScalar outer c) := by
  unfold blockScalar
  dsimp only
  split
  · rename_i hheader
    exact (scans_blockHeader _).of_error hheader
  · split <;> split <;> exact trivial

/-! ## Names, tags and directives -/

theorem scans_anchorName (c : Cursor) : Scans (fun _ => True) (anchorName c) := by
  unfold anchorName
  dsimp only
  split
  · exact scans_malformed _
  · split
    · exact trivial
    · exact scans_malformed _

theorem scans_addressEscapes (fuel : Nat) (c : Cursor) :
    Scans (fun _ => True) (addressEscapes fuel c) := by
  induction fuel generalizing c with
  | zero => exact trivial
  | succ fuel ih =>
      rw [addressEscapes]
      split
      · split
        · split
          · exact trivial
          · rename_i hmore
            exact (ih _).of_error hmore
        · exact scans_malformed _
      · exact trivial

theorem scans_addressChars (fuel : Nat) (c : Cursor) : Scans (fun _ => True) (addressChars fuel c) := by
  induction fuel generalizing c with
  | zero => exact trivial
  | succ fuel ih =>
      rw [addressChars]
      split
      · split
        · rename_i hescapes
          exact (scans_addressEscapes _ _).of_error hescapes
        · split
          · exact scans_malformed _
          · split
            · exact trivial
            · rename_i hmore
              exact (ih _).of_error hmore
      · split
        · split
          · exact trivial
          · rename_i hmore
            exact (ih _).of_error hmore
        · exact trivial

theorem scans_address (c : Cursor) : Scans (fun _ => True) (address c) := by
  unfold address
  split
  · rename_i hchars
    exact (scans_addressChars _ _).of_error hchars
  · exact scans_malformed _
  · exact trivial

theorem scans_tagHandle (c : Cursor) : Scans (fun _ => True) (tagHandle c) := by
  unfold tagHandle
  split
  · exact scans_malformed _
  · split
    · exact trivial
    · dsimp only
      split
      · exact trivial
      · exact scans_malformed _

/-- A token that is no fault. -/
def Token.IsSound (t : Token) : Prop := ∀ e, t ≠ .fault e

theorem scans_endTag (handle : Option String) (suffix : String) (c : Cursor) :
    Scans (fun read => read.1.IsSound) (endTag handle suffix c) := by
  unfold endTag
  split
  · intro e
    simp
  · exact scans_malformed _

theorem scans_tag (c : Cursor) : Scans (fun read => read.1.IsSound) (tag c) := by
  unfold tag
  split
  · split
    · rename_i haddress
      exact (scans_address _).of_error haddress
    · split
      · exact scans_endTag _ _ _
      · exact scans_malformed _
  · split
    · exact scans_endTag _ _ _
    · extract_lets handle
      have hhandle : Scans (fun _ => True) handle := by
        unfold handle
        split
        · exact scans_tagHandle _
        · exact trivial
      clear_value handle
      split
      · exact hhandle.of_error rfl
      · split
        · rename_i haddress
          exact (scans_address _).of_error haddress
        · exact scans_endTag _ _ _

/-- The number of a version may have too many digits. -/
theorem scans_versionNumber (c : Cursor) : Scans (fun _ => True) (versionNumber c) := by
  unfold versionNumber
  dsimp only
  split
  · exact scans_malformed _
  · split
    · exact trivial
    · rename_i e hlong
      rw [Text.numeralWithin] at hlong
      split at hlong
      · rename_i hdigits
        cases hlong
        exact .version hdigits
      · cases hlong

theorem scans_version (c : Cursor) : Scans (fun _ => True) (version c) := by
  unfold version
  split
  · rename_i hmajor
    exact (scans_versionNumber _).of_error hmajor
  · split
    · exact scans_malformed _
    · split
      · rename_i hminor
        exact (scans_versionNumber _).of_error hminor
      · split
        · exact trivial
        · exact scans_malformed _

theorem scans_tagDirective (c : Cursor) : Scans (fun _ => True) (tagDirective c) := by
  unfold tagDirective
  split
  · rename_i hhandle
    exact (scans_tagHandle _).of_error hhandle
  · split
    · exact scans_malformed _
    · split
      · rename_i haddress
        exact (scans_address _).of_error haddress
      · split
        · exact trivial
        · exact scans_malformed _

theorem scans_directive (c : Cursor) : Scans (fun read => read.1.IsSound) (directive c) := by
  unfold directive
  split
  split
  · exact scans_malformed _
  · extract_lets body
    have hbody : Scans (fun _ => True) body := by
      unfold body
      split
      · exact scans_version _
      · split
        · exact scans_tagDirective _
        · exact trivial
    clear_value body
    split
    · exact hbody.of_error rfl
    · split
      · intro e
        simp
      · rename_i hend
        exact (scans_skipLineEnd _ _).of_error hend

end ApiLint.Yaml
