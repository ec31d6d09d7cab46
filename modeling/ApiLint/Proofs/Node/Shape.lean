import ApiLint.Node.Literal
import ApiLint.Node.Shape
import ApiLint.Pointer.Place

/-!
# Laws of shapes and places

A string equals no other key than itself, so looking up a string key by equality of values and by
its text is the same.  What holds everywhere in a node holds everywhere below each of its places.

Main results:

- Theorem `lookupKey_str`: looking up a string key compares texts.
- Theorem `everywhere_child`: a test that holds everywhere in a node holds everywhere in its
  children.
-/

namespace ApiLint.Node

/-! ## String keys -/

/-- A string key equals only itself. -/
theorem str_equiv_iff {s : String} {key : Node} : (Node.str s).equiv key = true ↔ key = .str s := by
  cases key with
  | str t =>
      simp only [equiv, leafEquiv, beq_iff_eq, Node.str.injEq]
      exact eq_comm
  | _ => simp [equiv, leafEquiv, quantity?]

/-- What equals a string key is that key. -/
theorem equiv_str_iff {s : String} {key : Node} : key.equiv (.str s) = true ↔ key = .str s := by
  cases key with
  | str t => simp [equiv, leafEquiv]
  | _ => simp [equiv, leafEquiv, quantity?]

/-- Looking up a string key compares texts. -/
theorem lookupKey_str (s : String) (entries : List (Node × Node)) :
    lookupKey (.str s) entries = lookup s entries := by
  induction entries with
  | nil => rfl
  | cons entry rest ih =>
      obtain ⟨key, value⟩ := entry
      by_cases hkey : key = .str s
      · subst hkey
        rw [lookupKey, if_pos (str_equiv_iff.mpr rfl), lookup, if_pos rfl]
      · rw [lookupKey, if_neg (mt str_equiv_iff.mp hkey), ih]
        cases key with
        | str t => rw [lookup, if_neg fun ht => hkey (by rw [ht])]
        | _ => rfl

/-- A value found under a key is the value of an entry whose key equals it. -/
theorem mem_of_lookupKey {key value : Node} {entries : List (Node × Node)}
    (h : lookupKey key entries = some value) :
    ∃ found, (found, value) ∈ entries ∧ key.equiv found = true := by
  induction entries with
  | nil => cases h
  | cons entry rest ih =>
      obtain ⟨k, v⟩ := entry
      by_cases hk : key.equiv k = true
      · rw [lookupKey, if_pos hk, Option.some.injEq] at h
        subst h
        exact ⟨k, List.mem_cons_self, hk⟩
      · rw [lookupKey, if_neg hk] at h
        obtain ⟨found, hmem, hequiv⟩ := ih h
        exact ⟨found, List.mem_cons_of_mem _ hmem, hequiv⟩

/-- An entry found by its text stands among the entries. -/
theorem mem_of_lookup {s : String} {value : Node} {entries : List (Node × Node)}
    (h : lookup s entries = some value) : (.str s, value) ∈ entries := by
  rw [← lookupKey_str] at h
  obtain ⟨found, hmem, hequiv⟩ := mem_of_lookupKey h
  rwa [str_equiv_iff.mp hequiv] at hmem

/-- Entries with string keys have strings for keys. -/
theorem exists_str_of_mem {entries : List (Node × Node)} (h : keysAreStrings entries = true)
    {entry : Node × Node} (hmem : entry ∈ entries) : ∃ s, entry.1 = .str s := by
  have hsome : entry.1.str?.isSome = true := List.all_eq_true.mp h entry hmem
  cases hkey : entry.1 with
  | str s => exact ⟨s, rfl⟩
  | _ => simp [hkey, str?] at hsome

/-- When no key is repeated, an entry with a string key is the one found under it. -/
theorem lookupKey_of_mem {s : String} {value : Node} {entries : List (Node × Node)}
    (hdistinct : keysAreDistinct entries = true) (hmem : (.str s, value) ∈ entries) :
    lookupKey (.str s) entries = some value := by
  induction entries with
  | nil => cases hmem
  | cons entry rest ih =>
      obtain ⟨k, v⟩ := entry
      rw [keysAreDistinct, Bool.and_eq_true] at hdistinct
      rcases List.mem_cons.mp hmem with heq | hrest
      · obtain ⟨rfl, rfl⟩ := Prod.mk.inj heq
        rw [lookupKey, if_pos (str_equiv_iff.mpr rfl)]
      · have hfound := ih hdistinct.2 hrest
        have hk : k ≠ .str s := by
          rintro rfl
          rw [hfound] at hdistinct
          cases hdistinct.1
        rw [lookupKey, if_neg (mt str_equiv_iff.mp hk), hfound]

/-! ## Integers with many digits -/

/-- A list holds an integer with too many digits when one of its parts does. -/
theorem anyLongInteger_append (xs ys : List Node) :
    anyLongInteger (xs ++ ys) = (anyLongInteger xs || anyLongInteger ys) := by
  induction xs with
  | nil => rfl
  | cons x xs ih => rw [List.cons_append, anyLongInteger, anyLongInteger, ih, Bool.or_assoc]

theorem anyLongInteger_toList {x : Node} (h : x.hasLongInteger = false) :
    anyLongInteger (some x).toList = false := by
  rw [Option.toList_some, anyLongInteger, h]
  rfl

/-- A small index can be written. -/
theorem hasLongInteger_of_lt {i : Nat} (h : i < leastLong) :
    (int (i : Int)).hasLongInteger = false := by
  rw [hasLongInteger, isLongInteger, Int.natAbs_natCast, Bool.and_eq_false_iff]
  exact .inr (decide_eq_false (Nat.not_le.mpr h))

/-! ## Everywhere -/

variable {test : Node → Bool}

/-- What holds everywhere in a node holds of the node. -/
theorem test_of_everywhere {x : Node} (h : x.everywhere test = true) : test x = true := by
  cases x with
  | list xs =>
      rw [everywhere, Bool.and_eq_true] at h
      exact h.1
  | tuple xs =>
      rw [everywhere, Bool.and_eq_true] at h
      exact h.1
  | map entries =>
      rw [everywhere, Bool.and_eq_true] at h
      exact h.1
  | _ => exact h

theorem everywhere_of_inItems {xs : List Node} (h : inItems test xs = true) {x : Node}
    (hmem : x ∈ xs) : x.everywhere test = true := by
  induction xs with
  | nil => cases hmem
  | cons y ys ih =>
      rw [inItems, Bool.and_eq_true] at h
      rcases List.mem_cons.mp hmem with rfl | hrest
      · exact h.1
      · exact ih h.2 hrest

theorem everywhere_of_inValues {entries : List (Node × Node)} (h : inValues test entries = true)
    {entry : Node × Node} (hmem : entry ∈ entries) : entry.2.everywhere test = true := by
  induction entries with
  | nil => cases hmem
  | cons first rest ih =>
      obtain ⟨k, v⟩ := first
      rw [inValues, Bool.and_eq_true] at h
      rcases List.mem_cons.mp hmem with rfl | hrest
      · exact h.1
      · exact ih h.2 hrest

/-- A test that holds everywhere in a sequence holds everywhere in its items. -/
theorem everywhere_item {sequence : Node} {items : List Node}
    (h : sequence.everywhere test = true) (hitems : sequence.items? = some items) {x : Node}
    (hmem : x ∈ items) : x.everywhere test = true := by
  cases sequence with
  | list xs =>
      cases hitems
      rw [everywhere, Bool.and_eq_true] at h
      exact everywhere_of_inItems h.2 hmem
  | tuple xs =>
      cases hitems
      rw [everywhere, Bool.and_eq_true] at h
      exact everywhere_of_inItems h.2 hmem
  | _ => cases hitems

/-- A test that holds everywhere in a mapping holds everywhere in its values. -/
theorem everywhere_value {entries : List (Node × Node)}
    (h : (Node.map entries).everywhere test = true) {entry : Node × Node} (hmem : entry ∈ entries) :
    entry.2.everywhere test = true := by
  rw [everywhere, Bool.and_eq_true] at h
  exact everywhere_of_inValues h.2 hmem

/-! ## Documents that JSON holds -/

mutual

/-- A part of a document that JSON holds has no integer with too many digits. -/
theorem hasLongInteger_of_isJson :
    ∀ {x : Node}, x.everywhere isJsonPart = true → x.hasLongInteger = false
  | .int n, h => by simpa [everywhere, isJsonPart, hasLongInteger] using h
  | .list xs, h => by
      rw [everywhere, Bool.and_eq_true] at h
      exact anyLongInteger_of_isJson h.2
  | .map entries, h => by
      rw [everywhere, isJsonPart, Bool.and_eq_true, Bool.and_eq_true] at h
      exact entriesHaveLongInteger_of_isJson h.1.1 h.2
  | .null, _ | .bool _, _ | .str _, _ => rfl

/-- Nor have its items. -/
theorem anyLongInteger_of_isJson :
    ∀ {xs : List Node}, inItems isJsonPart xs = true → anyLongInteger xs = false
  | [], _ => rfl
  | x :: xs, h => by
      rw [inItems, Bool.and_eq_true] at h
      rw [anyLongInteger, hasLongInteger_of_isJson h.1, anyLongInteger_of_isJson h.2]
      rfl

/-- Nor have its entries, whose keys are strings. -/
theorem entriesHaveLongInteger_of_isJson :
    ∀ {entries : List (Node × Node)}, keysAreStrings entries = true →
      inValues isJsonPart entries = true → entriesHaveLongInteger entries = false
  | [], _, _ => rfl
  | (key, x) :: entries, hstrings, h => by
      obtain ⟨s, hs⟩ := exists_str_of_mem hstrings List.mem_cons_self
      obtain rfl : key = .str s := hs
      rw [keysAreStrings, List.all_cons, Bool.and_eq_true] at hstrings
      rw [inValues, Bool.and_eq_true] at h
      rw [entriesHaveLongInteger, hasLongInteger_of_isJson h.1,
        entriesHaveLongInteger_of_isJson hstrings.2 h.2]
      rfl

end

/-! ## Children -/

/-- Below a node lies either the value under a key or the item under an index. -/
theorem child?_eq_some_cases {node part x : Node} (h : node.child? part = some x) :
    (∃ entries, node = .map entries ∧ lookupKey part entries = some x) ∨
      ∃ (items : List Node) (i : Nat),
        node.items? = some items ∧ part = .int i ∧ items[i]? = some x := by
  have hindex : ∀ {items : List Node} {i : Int},
      (if i < 0 then none else items[i.toNat]?) = some x →
        Node.int i = .int i.toNat ∧ items[i.toNat]? = some x := by
    intro items i hi
    by_cases hneg : i < 0
    · rw [if_pos hneg] at hi
      cases hi
    · rw [if_neg hneg] at hi
      exact ⟨by rw [Int.toNat_of_nonneg (by omega)], hi⟩
  cases node with
  | map entries => exact .inl ⟨entries, rfl, h⟩
  | list items =>
      cases part with
      | int i => exact .inr ⟨items, i.toNat, rfl, hindex h⟩
      | _ => cases h
  | tuple items =>
      cases part with
      | int i => exact .inr ⟨items, i.toNat, rfl, hindex h⟩
      | _ => cases h
  | _ => cases h

/-- A test that holds everywhere in a node holds everywhere in its children. -/
theorem everywhere_child {node part x : Node} (h : node.everywhere test = true)
    (hchild : node.child? part = some x) : x.everywhere test = true := by
  rcases child?_eq_some_cases hchild with ⟨entries, rfl, hlookup⟩ | ⟨items, i, hitems, -, hget⟩
  · obtain ⟨found, hmem, -⟩ := mem_of_lookupKey hlookup
    exact everywhere_value h hmem
  · exact everywhere_item h hitems (List.mem_of_getElem? hget)

/-! ## Plain documents -/

/-- What lies below a place in a plain document is plain. -/
theorem IsPlain.child {node part x : Node} (h : node.IsPlain) (hchild : node.child? part = some x) :
    x.IsPlain where
  strings := everywhere_child h.strings hchild
  distinct := everywhere_child h.distinct hchild
  short := everywhere_child h.short hchild

/-- A string is a plain document. -/
theorem isPlain_str (s : String) : (str s).IsPlain where
  strings := rfl
  distinct := rfl
  short := by
    have hpow : ∀ k, 0 < Nat.pow 10 k := fun k => Nat.pow_pos (Nat.zero_lt_succ 9)
    have hpos : 0 < leastLong := by
      unfold leastLong
      exact hpow digitLimit
    simp only [hasShortSequences, everywhere, items?, Option.getD_none, List.length_nil, hpos,
      decide_true]

/-- The keys of a plain mapping are strings, and each entry lies under its key. -/
theorem IsPlain.entry {entries : List (Node × Node)} (h : (map entries).IsPlain) {key value : Node}
    (hmem : (key, value) ∈ entries) :
    (∃ s, key = .str s) ∧ (map entries).child? key = some value := by
  obtain ⟨s, hkey⟩ := exists_str_of_mem (test_of_everywhere h.strings) hmem
  obtain rfl : key = .str s := hkey
  exact ⟨⟨s, rfl⟩, lookupKey_of_mem (test_of_everywhere h.distinct) hmem⟩

/-- A key that is found in a plain mapping is a string. -/
theorem IsPlain.exists_str_of_lookupKey {entries : List (Node × Node)} (h : (map entries).IsPlain)
    {key value : Node} (hlookup : lookupKey key entries = some value) : ∃ s, key = .str s := by
  obtain ⟨found, hmem, hequiv⟩ := mem_of_lookupKey hlookup
  obtain ⟨s, rfl⟩ := (h.entry hmem).1
  exact ⟨s, equiv_str_iff.mp hequiv⟩

end ApiLint.Node
