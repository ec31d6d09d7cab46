import ApiLint.Proofs.Pointer.Index
import ApiLint.Proofs.Pointer.Stepwise

/-!
# Items that segments name

Below a sequence a segment is meant to name an item by the canonical numeral of its index, and every
other text is meant to name nothing.  So it is but for one text of each item: its numeral with a line
feed behind it names the item, too.

Main results:

- Theorem `resolveText?_segment`: a segment behind a pointer is one more step.
- Theorem `unescape_of_isIndex`: a segment that names an index is written as it is read.
- Theorem `namesByNumeral_iff`: when a segment keeps to numerals.
- Theorem `resolve?_namesByNumeral_iff`: what a segment below a sequence leads to.
-/

namespace ApiLint.Pointer

/--
What is meant of a text below a sequence: a canonical numeral leads to the item at its index, if there
is one, and any other text leads nowhere.
-/
def NamesByNumeral (items : List Node) (key : String) (outcome : Except LongNumeral (Option Node)) :
    Prop :=
  (∀ i, key.toList = Nat.toDigits 10 i → outcome = .ok items[i]?) ∧
    ((∀ i, key.toList ≠ Nat.toDigits 10 i) → outcome = .ok none)

variable {document node sequence : Node} {items : List Node} {before segment other key : String}
  {i : Nat}

/-! ## A segment behind a pointer -/

/-- A segment behind a slash is the only one. -/
theorem segmentsOfPath_slash (hslash : '/' ∉ segment.toList) :
    Location.segmentsOfPath ("/" ++ segment) = [Segment.unescape segment] := by
  have hchars : ("/" ++ segment).toList = '/' :: segment.toList := by
    rw [String.toList_append]
    rfl
  rw [Location.segmentsOfPath_of_toList hchars, Segment.splitAt_of_notMem hslash]
  rfl

/-- A walk along a single segment is a step. -/
theorem walk?_singleton (node : Node) (key : String) : walk? node [key] = step? node key := by
  rw [walk?]
  cases step? node key with
  | error e => rfl
  | ok found => cases found <;> rfl

/-- A pointer that starts with a number sign and leads somewhere has a path behind the sign. -/
theorem exists_isRooted_of_resolveText? (hsign : before.toList.head? = some '#')
    (h : resolveText? document before = .ok (some node)) :
    ∃ path, before = "#" ++ path ∧ isRooted path = true := by
  obtain ⟨rest, hrest⟩ := List.head?_eq_some_iff.mp hsign
  have hpath : before = "#" ++ String.ofList rest := by
    rw [← String.toList_inj, hrest, toList_fragment, String.toList_ofList]
  refine ⟨String.ofList rest, hpath, ?_⟩
  cases hrooted : isRooted (String.ofList rest) with
  | true => rfl
  | false =>
      rw [hpath, resolveText?_path_of_not_rooted document hrooted] at h
      cases h

/-- A segment behind a pointer is one more step from where the pointer leads. -/
theorem resolveText?_segment (hsign : before.toList.head? = some '#')
    (hbefore : resolveText? document before = .ok (some node)) (hslash : '/' ∉ segment.toList) :
    resolveText? document (before ++ "/" ++ segment) = step? node (Segment.unescape segment) := by
  obtain ⟨path, rfl, hpath⟩ := exists_isRooted_of_resolveText? hsign hbefore
  have hmore : isRooted ("/" ++ segment) = true := by
    rw [isRooted, String.toList_append]
    rfl
  rw [String.append_assoc, resolveText?_append document hpath hmore, hbefore]
  dsimp only
  rw [resolveText?_path node hmore, segmentsOfPath_slash hslash, walk?_singleton]

/-! ## Texts that name indices -/

/-- A text that names an index is made of digits and perhaps a line feed. -/
theorem notMem_of_isIndex {c : Char} (h : IsIndex key i) (hdigit : Text.isAsciiDigit c = false)
    (hfeed : c ≠ '\n') : c ∉ key.toList := by
  have hnumeral : c ∉ Nat.toDigits 10 i := by
    intro hmem
    rw [Text.isAsciiDigit_of_mem_toDigits hmem] at hdigit
    cases hdigit
  rcases h with h | h <;> rw [h]
  · exact hnumeral
  · simp [hnumeral, hfeed]

/-- A segment that names an index is written as it is read: it holds no escape. -/
theorem unescape_of_isIndex (h : IsIndex (Segment.unescape segment) i) :
    Segment.unescape segment = segment := by
  have htilde := notMem_of_isIndex (c := '~') h rfl (by decide)
  have hslash := notMem_of_isIndex (c := '/') h rfl (by decide)
  rw [Segment.unescape, String.toList_ofList] at htilde hslash
  rw [Segment.unescape, Segment.unescapeChars_eq_self htilde hslash, String.ofList_toList]

/-- A short text names an index that can be read. -/
theorem lt_leastLong_of_isIndex (h : IsIndex key i) (hlength : key.length ≤ digitLimit) :
    i < leastLong := by
  have hdigits : (Nat.toDigits 10 i).length ≤ key.length := by
    rw [← String.length_toList]
    rcases h with h | h <;> simp [h]
  have hshort : ¬ digitLimit < (Nat.toDigits 10 i).length := by omega
  rwa [Text.digitLimit_lt_length_toDigits_iff, Nat.not_le] at hshort

/-- A numeral with a line feed behind it is no numeral. -/
theorem toDigits_append_ne (i j : Nat) : Nat.toDigits 10 i ++ ['\n'] ≠ Nat.toDigits 10 j := by
  intro h
  have hmem : '\n' ∈ Nat.toDigits 10 j := h ▸ List.mem_append_right _ List.mem_cons_self
  exact absurd (Text.isAsciiDigit_of_mem_toDigits hmem) (by decide)

/-- Two texts that name one index differ in nothing but a line feed at the end. -/
theorem eq_of_isIndex (h : IsIndex key i) (hother : IsIndex other i) :
    other = key ∨ other = key ++ "\n" ∨ key = other ++ "\n" := by
  simp only [← String.toList_inj, String.toList_append]
  have hfeed : "\n".toList = ['\n'] := rfl
  rcases h with h | h <;> rcases hother with ho | ho <;> rw [h, ho, hfeed]
  · exact .inl rfl
  · exact .inr (.inl rfl)
  · exact .inr (.inr rfl)
  · exact .inl rfl

/--
A text keeps to numerals exactly when it is not the numeral of an item with a line feed behind it.
-/
theorem namesByNumeral_iff {outcome : Except LongNumeral (Option Node)}
    (hindex : ∀ i, IsIndex key i → outcome = .ok items[i]?)
    (hnone : (∀ i, ¬ IsIndex key i) → outcome = .ok none) :
    NamesByNumeral items key outcome ↔
      ∀ i < items.length, key.toList ≠ Nat.toDigits 10 i ++ ['\n'] := by
  constructor
  · rintro ⟨-, hother⟩ i hi hfeed
    have hfound : outcome = .ok items[i]? := hindex i (.inr hfeed)
    rw [hother fun j hj => toDigits_append_ne i j (hfeed.symm.trans hj),
      List.getElem?_eq_getElem hi] at hfound
    cases hfound
  · intro hfeed
    refine ⟨fun i hi => hindex i (.inl hi), fun hother => ?_⟩
    by_cases hsome : ∃ i, IsIndex key i
    · obtain ⟨i, hi⟩ := hsome
      have hline : key.toList = Nat.toDigits 10 i ++ ['\n'] := hi.resolve_left (hother i)
      have hlength : items.length ≤ i := Nat.le_of_not_lt fun hlt => hfeed i hlt hline
      rw [hindex i hi, List.getElem?_eq_none hlength]
    · exact hnone (not_exists.mp hsome)

/-! ## Segments below a sequence -/

/--
Below a sequence a segment of at most 4300 characters leads to an item exactly when it names its
index: by the canonical numeral, or by this numeral and a line feed behind it.  It leads nowhere
otherwise, and two segments that name one index differ in nothing but the line feed.  So segments
keep to numerals but for those that name an item with a line feed.
-/
theorem resolve?_namesByNumeral_iff (hsign : before.toList.head? = some '#')
    (hbefore : resolve? document (.str before) = .ok (some sequence))
    (hitems : sequence.items? = some items) (hslash : '/' ∉ segment.toList)
    (hlength : segment.length ≤ digitLimit) :
    (∀ i, IsIndex (Segment.unescape segment) i →
      resolve? document (.str (before ++ "/" ++ segment)) = .ok items[i]?) ∧
    ((∀ i, ¬ IsIndex (Segment.unescape segment) i) →
      resolve? document (.str (before ++ "/" ++ segment)) = .ok none) ∧
    (NamesByNumeral items (Segment.unescape segment)
        (resolve? document (.str (before ++ "/" ++ segment))) ↔
      ∀ i < items.length, (Segment.unescape segment).toList ≠ Nat.toDigits 10 i ++ ['\n']) ∧
    (∀ other i, IsIndex (Segment.unescape segment) i → IsIndex (Segment.unescape other) i →
      other = segment ∨ other = segment ++ "\n" ∨ segment = other ++ "\n") := by
  have hstep : resolve? document (.str (before ++ "/" ++ segment)) =
      item? items (Segment.unescape segment) := by
    rw [resolve?, resolveText?_segment hsign hbefore hslash, step?_sequence hitems]
  have hindex : ∀ i, IsIndex (Segment.unescape segment) i →
      resolve? document (.str (before ++ "/" ++ segment)) = .ok items[i]? := by
    intro i hi
    have hshort : i < leastLong := by
      refine lt_leastLong_of_isIndex hi ?_
      rwa [unescape_of_isIndex hi]
    rw [hstep, item?_of_isIndex hi hshort]
  have hnone : (∀ i, ¬ IsIndex (Segment.unescape segment) i) →
      resolve? document (.str (before ++ "/" ++ segment)) = .ok none := by
    intro h
    rw [hstep, item?_of_not_isIndex h]
  refine ⟨hindex, hnone, namesByNumeral_iff hindex hnone, fun other i hi hother => ?_⟩
  have hsame := eq_of_isIndex hi hother
  rwa [unescape_of_isIndex hi, unescape_of_isIndex hother] at hsame

/-- A document with a pair of items. -/
def pairOfItems : Node := .map [(.str "items", .tuple [.str "x", .str "y"])]

/-- The numeral 1 names the second item of the pair. -/
theorem resolve?_namesByNumeral_iff_second :
    resolve? pairOfItems (.str "#/items") = .ok (some (.tuple [.str "x", .str "y"])) ∧
      resolve? pairOfItems (.str ("#/items" ++ "/" ++ "1")) = .ok (some (.str "y")) ∧
      NamesByNumeral [.str "x", .str "y"] (Segment.unescape "1")
        (resolve? pairOfItems (.str ("#/items" ++ "/" ++ "1"))) := by
  have hbefore : resolve? pairOfItems (.str "#/items") = .ok (some (.tuple [.str "x", .str "y"])) := rfl
  have hslash : '/' ∉ "1".toList := by decide
  obtain ⟨hindex, -, hiff, -⟩ := resolve?_namesByNumeral_iff rfl hbefore rfl hslash (by decide)
  exact ⟨hbefore, hindex 1 (.inl rfl), hiff.mpr (by decide)⟩

/--
The first item is found under a zero and a line feed, too, which are no numeral; so two different
segments lead to it.
-/
theorem resolve?_lineFeed :
    resolve? pairOfItems (.str "#/items/0\n") = .ok (some (.str "x")) ∧
      resolve? pairOfItems (.str "#/items/0") = .ok (some (.str "x")) ∧
      (∀ i, "0\n".toList ≠ Nat.toDigits 10 i) ∧
      ¬ NamesByNumeral [.str "x", .str "y"] "0\n" (resolve? pairOfItems (.str "#/items/0\n")) := by
  have hfound : resolve? pairOfItems (.str "#/items/0\n") = .ok (some (.str "x")) := rfl
  have hnumeral : ∀ i, "0\n".toList ≠ Nat.toDigits 10 i := toDigits_append_ne 0
  refine ⟨hfound, rfl, hnumeral, fun h => ?_⟩
  have hnone := h.2 hnumeral
  rw [hfound] at hnone
  cases hnone

end ApiLint.Pointer
