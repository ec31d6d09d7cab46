import ApiLint.Proofs.Yaml.Scanner
import Mathlib.Tactic.SplitIfs

/-!
# Faults among tokens

No token that was read is a fault: a fault ends the reading, and only then it becomes the last token.  So the faults
among the tokens of a text are faults of the text.

Main results:

- Theorem `scans_readToken`: reading one token keeps the tokens sound.
- Theorem `tokens_isOfText`: the faults among the tokens of a text.
-/

namespace ApiLint.Yaml

namespace Lexer

/-- No token that was read is a fault. -/
def IsSound (l : Lexer) : Prop := ∀ t ∈ l.tokens, t.IsSound

variable {l : Lexer} {t : Token}

/-- Only the tokens matter. -/
theorem IsSound.of_tokens_eq {other : Lexer} (h : l.IsSound) (heq : other.tokens = l.tokens) :
    other.IsSound := by
  rw [IsSound, heq]
  exact h

theorem IsSound.fault_notMem (h : l.IsSound) (e : ReadError) : Token.fault e ∉ l.tokens :=
  fun hmem => h (.fault e) hmem e rfl

/-! ## Blocks and keys -/

theorem IsSound.push (h : l.IsSound) (ht : t.IsSound) : (push t l).IsSound :=
  List.forall_mem_cons.mpr ⟨ht, h⟩

theorem IsSound.insertAt (h : l.IsSound) (ht : t.IsSound) (n : Nat) : (insertAt n t l).IsSound := by
  intro u hu
  rw [Lexer.insertAt, List.mem_append, List.mem_cons] at hu
  rcases hu with hu | rfl | hu
  · exact h u (List.mem_of_mem_take hu)
  · exact ht
  · exact h u (List.mem_of_mem_drop hu)

theorem IsSound.take (h : l.IsSound) (ht : t.IsSound) (n : Nat) : (take n t l).IsSound := push h ht

theorem IsSound.closeBlocks (column : Int) (outers : List Int) (h : l.IsSound) :
    (closeBlocks column outers l).IsSound := by
  induction outers generalizing l with
  | nil => exact h
  | cons outer outers ih =>
      rw [Lexer.closeBlocks]
      split
      · exact ih (push h (by simp [Token.IsSound]))
      · exact h

theorem IsSound.unwind (column : Int) (h : l.IsSound) : (l.unwind column).IsSound := by
  rw [Lexer.unwind]
  split
  · exact h
  · exact h.closeBlocks _ _

theorem IsSound.openBlock? {column : Nat} {opened : Lexer} (h : l.IsSound)
    (hopened : l.openBlock? column = some opened) : opened.IsSound := by
  rw [Lexer.openBlock?] at hopened
  split at hopened
  · cases hopened
    exact h
  · cases hopened

theorem IsSound.skipGap (fuel : Nat) (h : l.IsSound) : (skipGap fuel l).IsSound := by
  induction fuel generalizing l with
  | zero => exact h
  | succ fuel ih =>
      rw [Lexer.skipGap]
      split
      · exact ih h
      · exact h

theorem scans_dropStalePlaces (h : l.IsSound) : Scans IsSound l.dropStalePlaces := by
  rw [dropStalePlaces]
  split
  · exact scans_malformed _
  · exact h

theorem scans_dropPlace (h : l.IsSound) : Scans IsSound l.dropPlace := by
  rw [dropPlace]
  split
  · exact h
  · split
    · exact scans_malformed _
    · exact h

theorem scans_savePlace (h : l.IsSound) : Scans IsSound l.savePlace := by
  rw [savePlace]
  split
  · split
    · rename_i hdrop
      exact (scans_dropPlace h).of_error hdrop
    · rename_i hdrop
      exact ((scans_dropPlace h).of_ok hdrop).of_tokens_eq rfl
  · exact h

/-! ## Tokens -/

theorem scans_endDocument (h : l.IsSound) : Scans IsSound l.endDocument := by
  rw [endDocument]
  split
  · rename_i hdrop
    exact (scans_dropPlace (h.unwind _)).of_error hdrop
  · rename_i hdrop
    exact ((scans_dropPlace (h.unwind _)).of_ok hdrop).of_tokens_eq rfl

theorem scans_documentMark (h : l.IsSound) (ht : t.IsSound) : Scans IsSound (l.documentMark t) := by
  rw [documentMark]
  exact (scans_endDocument h).map fun _ hended => hended.take ht 3

theorem scans_readDirective (h : l.IsSound) : Scans IsSound l.readDirective := by
  rw [readDirective]
  split
  · rename_i hended
    exact (scans_endDocument h).of_error hended
  · rename_i hended
    have hsound := (scans_endDocument h).of_ok hended
    split
    · rename_i hread
      exact IsSound.push (hsound.of_tokens_eq rfl) ((scans_directive _).of_ok hread)
    · rename_i hread
      exact (scans_directive _).of_error hread

theorem scans_openFlow (h : l.IsSound) (ht : t.IsSound) : Scans IsSound (l.openFlow t) := by
  rw [openFlow]
  split
  · rename_i hsave
    exact (scans_savePlace h).of_error hsave
  · rename_i hsave
    exact IsSound.take (((scans_savePlace h).of_ok hsave).of_tokens_eq rfl) ht 1

theorem scans_closeFlow (h : l.IsSound) (ht : t.IsSound) : Scans IsSound (l.closeFlow t) := by
  rw [closeFlow]
  split
  · rename_i hdrop
    exact (scans_dropPlace h).of_error hdrop
  · rename_i hdrop
    split
    · exact scans_malformed _
    · exact IsSound.take (((scans_dropPlace h).of_ok hdrop).of_tokens_eq rfl) ht 1

theorem scans_flowEntry (h : l.IsSound) : Scans IsSound l.flowEntry := by
  rw [flowEntry]
  split
  · rename_i hdrop
    exact (scans_dropPlace h).of_error hdrop
  · rename_i hdrop
    exact IsSound.take (((scans_dropPlace h).of_ok hdrop).of_tokens_eq rfl) (by simp [Token.IsSound]) 1

theorem scans_startBlock (h : l.IsSound) (ht : t.IsSound) : Scans IsSound (l.startBlock t) := by
  rw [startBlock]
  split
  · exact h
  · split
    · exact scans_malformed _
    · split
      · rename_i hopened
        exact (h.openBlock? hopened).push ht
      · exact h

theorem scans_blockEntry (h : l.IsSound) : Scans IsSound l.blockEntry := by
  have hstart := scans_startBlock h (t := .blockSequenceStart) (by simp [Token.IsSound])
  rw [blockEntry]
  split
  · rename_i hstarted
    exact hstart.of_error hstarted
  · rename_i started hstarted
    have hdrop : Scans IsSound (dropPlace { started with allowsKey := true }) :=
      scans_dropPlace ((hstart.of_ok hstarted).of_tokens_eq rfl)
    split
    · rename_i hdropped
      exact hdrop.of_error hdropped
    · rename_i hdropped
      exact (hdrop.of_ok hdropped).take (by simp [Token.IsSound]) 1

theorem scans_keyMark (h : l.IsSound) : Scans IsSound l.keyMark := by
  have hstart := scans_startBlock h (t := .blockMappingStart) (by simp [Token.IsSound])
  rw [keyMark]
  split
  · rename_i hstarted
    exact hstart.of_error hstarted
  · rename_i started hstarted
    have hdrop : Scans IsSound (dropPlace { started with allowsKey := started.flowLevel == 0 }) :=
      scans_dropPlace ((hstart.of_ok hstarted).of_tokens_eq rfl)
    split
    · rename_i hdropped
      exact hdrop.of_error hdropped
    · rename_i hdropped
      exact (hdrop.of_ok hdropped).take (by simp [Token.IsSound]) 1

theorem scans_valueMark (h : l.IsSound) : Scans IsSound l.valueMark := by
  rw [valueMark]
  split
  · rename_i place hplace
    have hkey : ∀ keyed : Lexer, keyed.tokens = l.tokens →
        (insertAt place.tokenNumber .key keyed).IsSound := by
      intro keyed hkeyed
      exact (h.of_tokens_eq hkeyed).insertAt (by simp [Token.IsSound]) _
    refine IsSound.take ?_ (by simp [Token.IsSound]) 1
    split
    · split
      · rename_i hopened
        refine (IsSound.openBlock? ?_ hopened).insertAt (by simp [Token.IsSound]) _
        exact hkey _ rfl
      · exact hkey _ rfl
    · exact hkey _ rfl
  · have hstart := scans_startBlock h (t := .blockMappingStart) (by simp [Token.IsSound])
    split
    · rename_i hstarted
      exact hstart.of_error hstarted
    · rename_i hstarted
      exact IsSound.take ((hstart.of_ok hstarted).of_tokens_eq rfl) (by simp [Token.IsSound]) 1

theorem scans_keyToken {scan : Cursor → Scan Token} (h : l.IsSound)
    (hscan : ∀ c, Scans (fun read => read.1.IsSound) (scan c)) : Scans IsSound (l.keyToken scan) := by
  rw [keyToken]
  split
  · rename_i hsave
    exact (scans_savePlace h).of_error hsave
  · rename_i hsave
    have hsound := (scans_savePlace h).of_ok hsave
    split
    · rename_i hread
      exact IsSound.push (hsound.of_tokens_eq rfl) ((hscan _).of_ok hread)
    · rename_i hread
      exact (hscan _).of_error hread

theorem scans_mapScan {α : Type} {f : α → Token} {scanned : Scan α} (h : Scans (fun _ => True) scanned)
    (hf : ∀ a, (f a).IsSound) : Scans (fun read => read.1.IsSound) (mapScan f scanned) := by
  rw [mapScan.eq_def]
  split
  · exact hf _
  · exact h.of_error rfl

theorem scans_readBlockScalar (h : l.IsSound) : Scans IsSound l.readBlockScalar := by
  have hdrop : Scans IsSound (dropPlace { l with allowsKey := true }) :=
    scans_dropPlace (h.of_tokens_eq rfl)
  rw [readBlockScalar]
  split
  · rename_i hdropped
    exact hdrop.of_error hdropped
  · rename_i hdropped
    split
    · exact IsSound.push ((hdrop.of_ok hdropped).of_tokens_eq rfl) (by simp [Token.IsSound])
    · rename_i hread
      exact (scans_blockScalar _ _).of_error hread

theorem scans_readPlain (h : l.IsSound) : Scans IsSound l.readPlain := by
  rw [readPlain]
  split
  · rename_i hsave
    exact (scans_savePlace h).of_error hsave
  · rename_i hsave
    exact IsSound.push (((scans_savePlace h).of_ok hsave).of_tokens_eq rfl) (by simp [Token.IsSound])

/-- Reading one token keeps the tokens sound. -/
theorem scans_readToken (h : l.IsSound) : Scans IsSound l.readToken := by
  have hquoted : Scans IsSound (l.keyToken fun c => mapScan (Token.scalar · false) (quotedScalar c)) :=
    scans_keyToken h fun c => scans_mapScan (scans_quotedScalar c) (by simp [Token.IsSound])
  unfold readToken
  dsimp only
  split
  · exact scans_openFlow h (by simp [Token.IsSound])
  · exact scans_openFlow h (by simp [Token.IsSound])
  · exact scans_closeFlow h (by simp [Token.IsSound])
  · exact scans_closeFlow h (by simp [Token.IsSound])
  · exact scans_flowEntry h
  · exact scans_keyToken h fun c => scans_mapScan (scans_anchorName c) (by simp [Token.IsSound])
  · exact scans_keyToken h fun c => scans_mapScan (scans_anchorName c) (by simp [Token.IsSound])
  · exact scans_keyToken h scans_tag
  · exact hquoted
  · exact hquoted
  · split_ifs
    · exact scans_readDirective h
    · exact scans_documentMark h (by simp [Token.IsSound])
    · exact scans_documentMark h (by simp [Token.IsSound])
    · exact scans_blockEntry h
    · exact scans_keyMark h
    · exact scans_valueMark h
    · exact scans_readBlockScalar h
    · exact scans_readPlain h
    · exact scans_malformed _

/-- A step keeps the tokens sound. -/
theorem scans_step (h : l.IsSound) : Scans (fun stepped => stepped.1.IsSound) l.step := by
  have hdrop := scans_dropStalePlaces (h.skipGap l.cursor.bound)
  rw [step]
  split
  · rename_i hdropped
    exact hdrop.of_error hdropped
  · rename_i dropped hdropped
    have hunwound := (hdrop.of_ok hdropped).unwind (Int.ofNat dropped.cursor.column)
    dsimp only
    split
    · exact (scans_endDocument hunwound).map fun _ hended => hended
    · exact (scans_readToken hunwound).map fun _ hread => hread

/-! ## All tokens -/

/-- What was read before a fault holds no other one. -/
theorem isOfText_of_mem_upTo {ready : Nat} {e e' : ReadError} (h : l.IsSound) (he : e.IsOfText)
    (hmem : Token.fault e' ∈ l.upTo ready e) : e'.IsOfText := by
  rw [upTo, List.mem_append, List.mem_reverse, List.mem_singleton] at hmem
  rcases hmem with hread | hlast
  · exact absurd (List.mem_of_mem_drop hread) (h.fault_notMem e')
  · cases hlast
    exact he

/-- The faults among all tokens, by induction on the number of steps. -/
theorem isOfText_of_mem_readAll {fuel ready : Nat} {e : ReadError} (h : l.IsSound)
    (hmem : Token.fault e ∈ readAll fuel ready l) : e.IsOfText := by
  induction fuel generalizing ready l with
  | zero => exact isOfText_of_mem_upTo h (.malformed _) hmem
  | succ fuel ih =>
      rw [readAll] at hmem
      split at hmem
      · rename_i e' hdropped
        have he : Scans IsSound (.error e') := (scans_dropStalePlaces h).of_error hdropped
        exact isOfText_of_mem_upTo h he hmem
      · rename_i dropped hdropped
        have hsound := (scans_dropStalePlaces h).of_ok hdropped
        dsimp only at hmem
        split at hmem
        · rename_i e' hstep
          have he : Scans IsSound (.error e') := (scans_step hsound).of_error hstep
          exact isOfText_of_mem_upTo hsound he hmem
        · rename_i hstep
          have hlast : IsSound _ := (scans_step hsound).of_ok hstep
          exact absurd (List.mem_reverse.mp hmem) (hlast.fault_notMem e)
        · rename_i hstep
          exact ih ((scans_step hsound).of_ok hstep) hmem

end Lexer

/-- A fault among the tokens of a text is one of the text. -/
theorem isOfText_of_mem_tokens {text : List Char} {e : ReadError} (hmem : Token.fault e ∈ tokens text) :
    e.IsOfText := by
  unfold tokens at hmem
  split at hmem
  · refine Lexer.isOfText_of_mem_readAll ?_ hmem
    intro t ht
    cases ht
  · cases List.mem_singleton.mp hmem
    exact .malformed _

end ApiLint.Yaml
