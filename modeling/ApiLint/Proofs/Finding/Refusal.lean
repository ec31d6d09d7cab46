import ApiLint.Proofs.Finding.Report
import ApiLint.Proofs.Pointer.Resolve

/-!
# When findings are refused

Findings are made of any raw errors, whatever their keywords, paths, messages and parameters, unless
an integer with too many digits stands in the way: as a value to be shown, or as an index of a
sequence that the value of an enumeration is looked up in.

Main results:

- Theorem `exists_toFinding_iff`: a raw error has a finding exactly when it is not refused.
- Theorem `exists_ofErrors_iff`: raw errors have findings exactly when none of them is refused, and
  a pointer is followed to its end exactly when it meets no index with too many digits.
-/

namespace ApiLint

namespace Pointer

/-- A pointer behind a number sign meets an index with too many digits. -/
def IsRefused (root : Node) (path : String) (i : Nat) : Prop :=
  isRooted path = true ∧ MeetsLongIndex root (Location.segmentsOfPath path) i

/-- Resolving a path is broken off exactly when the path meets an index with too many digits. -/
theorem resolveText?_path_eq_error_iff {root : Node} {path : String} {e : LongNumeral} :
    resolveText? root ("#" ++ path) = .error e ↔
      ∃ i, IsRefused root path i ∧ e = .toRead (Nat.toDigits 10 i).length := by
  cases hrooted : isRooted path with
  | true =>
      rw [resolveText?_path root hrooted, walk?_eq_error_iff]
      simp [IsRefused, hrooted]
  | false =>
      rw [resolveText?_path_of_not_rooted root hrooted]
      simp [IsRefused, hrooted]

/-- A pointer that is no number sign with a path behind it leads to the root or nowhere. -/
theorem resolveText?_of_no_path {root : Node} {pointer : String}
    (h : ∀ path, pointer ≠ "#" ++ path) :
    ∃ found, resolveText? root pointer = .ok found := by
  have hhead : ∀ rest, pointer.toList ≠ '#' :: rest := by
    intro rest hrest
    apply h (String.ofList rest)
    rw [← String.toList_inj, toList_fragment, String.toList_ofList, hrest]
  unfold resolveText?
  split
  · exact ⟨_, rfl⟩
  · exact ⟨_, rfl⟩
  · rename_i rest hrest
    exact absurd hrest (hhead _)
  · exact ⟨_, rfl⟩

/-- Resolving comes to an end unless the pointer meets an index with too many digits. -/
theorem exists_resolve?_iff {root pointer : Node} :
    (∃ found, resolve? root pointer = .ok found) ↔
      ¬ ∃ path i, pointer = .str ("#" ++ path) ∧ IsRefused root path i := by
  constructor
  · rintro ⟨found, hfound⟩ ⟨path, i, rfl, hrefused⟩
    rw [resolve?, resolveText?_path_eq_error_iff.mpr ⟨i, hrefused, rfl⟩] at hfound
    cases hfound
  · intro hnot
    cases pointer with
    | str text =>
        by_cases hpath : ∃ path, text = "#" ++ path
        · obtain ⟨path, rfl⟩ := hpath
          cases hresult : resolveText? root ("#" ++ path) with
          | ok found => exact ⟨found, hresult⟩
          | error e =>
              obtain ⟨i, hrefused, -⟩ := resolveText?_path_eq_error_iff.mp hresult
              exact absurd ⟨path, i, rfl, hrefused⟩ hnot
        · exact resolveText?_of_no_path (not_exists.mp hpath)
    | _ => exact ⟨none, rfl⟩

end Pointer

namespace RawError

/-! ## Single raw errors -/

/-- A raw error without a finding: a value cannot be shown, or an index cannot be read. -/
inductive IsRefused (document : Node) (e : RawError) : Prop where
  | allowedValue :
    e.keyword = "enum" → Node.anyLongInteger e.allowedValues = true → IsRefused document e
  | index {i : Nat} :
    e.keyword = "enum" → Pointer.IsRefused document e.instancePath i → IsRefused document e
  | message : e.keyword = "errorMessage" → e.message.hasLongInteger = true → IsRefused document e

/-- What is refused would have been reported. -/
theorem IsRefused.isRelevant {document : Node} {e : RawError} (h : e.IsRefused document) :
    e.isRelevant = true := by
  cases h with
  | allowedValue hkeyword | index hkeyword | message hkeyword =>
      rw [RawError.isRelevant, hkeyword]
      decide

/-- What holds an integer with too many digits is not empty or zero. -/
theorem isTruthy_of_hasLongInteger {x : Node} (h : x.hasLongInteger = true) :
    x.isTruthy = true := by
  cases x with
  | int n =>
      have hne : n ≠ 0 := by
        rintro rfl
        rw [Node.hasLongInteger] at h
        exact absurd h (by decide)
      simpa [Node.isTruthy] using hne
  | list xs => cases xs <;> simp_all [Node.hasLongInteger, Node.anyLongInteger, Node.isTruthy]
  | tuple xs => cases xs <;> simp_all [Node.hasLongInteger, Node.anyLongInteger, Node.isTruthy]
  | map entries =>
      cases entries <;>
        simp_all [Node.hasLongInteger, Node.entriesHaveLongInteger, Node.isTruthy]
  | _ => simp [Node.hasLongInteger] at h

/-- A raw error has a finding exactly when it is not refused. -/
theorem exists_toFinding_iff {document : Node} {e : RawError} :
    (∃ finding, e.toFinding document = .ok finding) ↔ ¬ e.IsRefused document := by
  constructor
  · rintro ⟨finding, hfinding⟩ hrefused
    cases hrefused with
    | allowedValue hkeyword hlong =>
        rw [toFinding_enum document hkeyword, if_pos hlong] at hfinding
        cases hfinding
    | index hkeyword hpath =>
        rw [toFinding_enum document hkeyword,
          Pointer.resolveText?_path_eq_error_iff.mpr ⟨_, hpath, rfl⟩] at hfinding
        split at hfinding <;> cases hfinding
    | message hkeyword hlong =>
        rw [toFinding_errorMessage document hkeyword, if_pos (isTruthy_of_hasLongInteger hlong),
          Node.display?, if_pos hlong] at hfinding
        cases hfinding
  · intro hnot
    by_cases henum : e.keyword = "enum"
    · have hvalues : ¬ Node.anyLongInteger e.allowedValues = true :=
        fun hlong => hnot (.allowedValue henum hlong)
      rw [toFinding_enum document henum, if_neg hvalues]
      cases hresult : Pointer.resolveText? document ("#" ++ e.instancePath) with
      | ok found => exact ⟨_, rfl⟩
      | error fault =>
          obtain ⟨i, hpath, -⟩ := Pointer.resolveText?_path_eq_error_iff.mp hresult
          exact absurd (.index henum hpath) hnot
    · by_cases hmessage : e.keyword = "errorMessage"
      · have hshort : ¬ e.message.hasLongInteger = true :=
          fun hlong => hnot (.message hmessage hlong)
        rw [toFinding_errorMessage document hmessage, Node.display?, if_neg hshort]
        split <;> exact ⟨_, rfl⟩
      · exact exists_toFinding_of_keyword henum hmessage

end RawError

/-! ## Lists of raw errors -/

/--
Raw errors have findings exactly when none of them is refused; and a pointer leads to a node or
nowhere exactly when it meets no index with too many digits.
-/
theorem Finding.exists_ofErrors_iff (document : Node) :
    (∀ errors : List (Option RawError), (∃ findings, ofErrors document errors = .ok findings) ↔
      ∀ e, some e ∈ errors → ¬ e.IsRefused document) ∧
    ∀ pointer : Node, (∃ found, Pointer.resolve? document pointer = .ok found) ↔
      ¬ ∃ path i, pointer = .str ("#" ++ path) ∧ Pointer.IsRefused document path i := by
  constructor
  · intro errors
    rw [exists_ofErrors_iff_forall_toFinding]
    constructor
    · intro hall e hmem hrefused
      exact RawError.exists_toFinding_iff.mp (hall e hmem hrefused.isRelevant) hrefused
    · intro hnot e hmem _
      exact RawError.exists_toFinding_iff.mpr (hnot e hmem)
  · exact fun pointer => Pointer.exists_resolve?_iff

/-- A text of ones, which is an index as long as it can be read. -/
def ones (count : Nat) : String := String.ofList (List.replicate count '1')

theorem isIndex_ones {n : Nat} (hn : 0 < n) :
    ∃ i, Pointer.IsIndex (ones n) i ∧ (Nat.toDigits 10 i).length = n := by
  obtain ⟨m, rfl⟩ : ∃ m, n = m + 1 := ⟨n - 1, by omega⟩
  have hdigits : ∀ c ∈ '1' :: List.replicate m '1', Text.isAsciiDigit c = true := by
    intro c hc
    rw [← List.replicate_succ] at hc
    rw [List.eq_of_mem_replicate hc]
    decide
  have hnumeral := Text.toDigits_numeral (by decide) hdigits
  rw [← List.replicate_succ] at hnumeral
  refine ⟨Text.numeral (List.replicate (m + 1) '1'), .inl ?_, ?_⟩
  · rw [hnumeral, ones, String.toList_ofList]
  · rw [hnumeral, List.length_replicate]

/-- A raw error of an enumeration at the item with an index made of ones. -/
def RawError.atOnes (count : Nat) : RawError where
  keyword := "enum"
  instancePath := Location.pathOfSegments [ones count]
  message := .str "m"
  params := [("allowedValues", .list [.str "b"])]
  schemaPath := ""

theorem RawError.isRefused_atOnes {n : Nat} (hn : digitLimit < n) :
    ∃ i, Pointer.IsRefused (.list [.str "a"]) (atOnes n).instancePath i ∧
      (Nat.toDigits 10 i).length = n := by
  obtain ⟨i, hindex, hlength⟩ := isIndex_ones (Nat.zero_lt_of_lt hn)
  have hlong : leastLong ≤ i := by
    rwa [← Text.digitLimit_lt_length_toDigits_iff, hlength]
  have hmeets : Pointer.MeetsLongIndex (.list [.str "a"]) [ones n] i :=
    ⟨[], ones n, [], _, _, rfl, .here _, rfl, hindex, hlong⟩
  refine ⟨i, ⟨Pointer.isRooted_pathOfSegments _, ?_⟩, hlength⟩
  rwa [atOnes, Location.segmentsOfPath_pathOfSegments]

theorem Finding.ofErrors_atOnes {n : Nat} (hn : digitLimit < n) :
    ofErrors (.list [.str "a"]) [some (RawError.atOnes n)] = .error (.toRead n) := by
  obtain ⟨i, hpath, hlength⟩ := RawError.isRefused_atOnes hn
  have hvalues : ¬ Node.anyLongInteger (RawError.atOnes n).allowedValues = true :=
    Bool.false_ne_true
  rw [ofErrors_cons_of_relevant rfl, RawError.toFinding_enum _ rfl, if_neg hvalues,
    Pointer.resolveText?_path_eq_error_iff.mpr ⟨i, hpath, rfl⟩, hlength]

/-- One index of 4301 digits breaks off the findings of a list. -/
theorem Finding.ofErrors_long_index :
    ofErrors (.list [.str "a"]) [some (RawError.atOnes 4301)] = .error (.toRead 4301) :=
  ofErrors_atOnes (by decide)

end ApiLint
