import ApiLint.Proofs.Node.Shape
import ApiLint.Proofs.Pointer.Resolve

/-!
# Locations and their instance paths

Writing a location as an instance path and resolving the path comes back to the node that the
location leads to, if the keys on the way are strings.  Then the path also tells the location apart
from all others, although keys and indices have become texts: the node that a text is read in says
which of the two it was.

Main results:

- Theorem `leads_parts`: the texts of a location lead where the location leads.
- Theorem `resolve?_instancePath`: instance paths are the pointers of the nodes that they were
  written for, and different locations have different ones.
-/

namespace ApiLint.Pointer

/-! ## Texts of keys and indices -/

@[simp]
theorem display_str (s : String) : (Node.str s).display = s :=
  rfl

/-- The text of an index names it. -/
theorem isIndex_display (i : Nat) : IsIndex (Node.int i).display i := by
  have hrepr : (Node.int i).display = i.repr := rfl
  rw [IsIndex, hrepr, Nat.toList_repr]
  exact .inl rfl

/-- A key that is found in a mapping with string keys is a string. -/
theorem exists_str_of_lookupKey {entries : List (Node × Node)} {key x : Node}
    (hkeys : Node.keysAreStrings entries = true) (h : Node.lookupKey key entries = some x) :
    ∃ s, key = .str s := by
  obtain ⟨found, hmem, hequiv⟩ := Node.mem_of_lookupKey h
  obtain ⟨s, hs⟩ := Node.exists_str_of_mem hkeys hmem
  obtain rfl : found = .str s := hs
  exact ⟨s, Node.equiv_str_iff.mp hequiv⟩

/-! ## The way along a location -/

variable {node x y : Node}

/-- Below a node with string keys lies an entry of a string key or an item. -/
theorem child?_cases {part : Node} (hkeys : node.hasStringKeys = true)
    (h : node.child? part = some x) :
    (∃ entries s, node = .map entries ∧ part = .str s ∧ Node.lookup s entries = some x) ∨
      ∃ (items : List Node) (i : Nat),
        node.items? = some items ∧ part = .int i ∧ items[i]? = some x := by
  rcases Node.child?_eq_some_cases h with ⟨entries, rfl, hlookup⟩ | hitem
  · obtain ⟨s, rfl⟩ := exists_str_of_lookupKey (Node.test_of_everywhere hkeys) hlookup
    rw [Node.lookupKey_str] at hlookup
    exact .inl ⟨entries, s, rfl, rfl, hlookup⟩
  · exact .inr hitem

/-- An index of an item in a node without long sequences can be read. -/
theorem lt_of_getElem?_eq_some {sequence : Node} {items : List Node} {i : Nat}
    (hshort : sequence.hasShortSequences = true) (hitems : sequence.items? = some items)
    (h : items[i]? = some x) : i < leastLong := by
  have hlength := Node.test_of_everywhere hshort
  rw [hitems, Option.getD_some, decide_eq_true_iff] at hlength
  exact Nat.lt_trans (List.getElem?_eq_some_iff.mp h).1 hlength

/-- The text of a key or an index leads to what lies under it. -/
theorem leads_display {part : Node} (hkeys : node.hasStringKeys = true)
    (hshort : node.hasShortSequences = true) (h : node.child? part = some x) :
    Leads node [part.display] x := by
  rcases child?_cases hkeys h with ⟨entries, s, rfl, rfl, hlookup⟩ | ⟨items, i, hitems, rfl, hget⟩
  · exact .entry hlookup (.here x)
  · have hi : i < leastLong := lt_of_getElem?_eq_some hshort hitems hget
    exact .item hitems (isIndex_display i) hi hget (.here x)

/-- The first step of a location, and the rest of it. -/
theorem at?_cons {part : Node} {rest : Location} (h : node.at? (part :: rest) = some x) :
    ∃ next, node.child? part = some next ∧ next.at? rest = some x :=
  Option.bind_eq_some_iff.mp h

/-- The texts of a location lead where the location leads. -/
theorem leads_parts {location : Location} (hkeys : node.hasStringKeys = true)
    (hshort : node.hasShortSequences = true) (h : node.at? location = some x) :
    Leads node location.parts x := by
  induction location generalizing node with
  | nil =>
      rw [Node.at?, Option.some.injEq] at h
      subst h
      exact .here node
  | cons part rest ih =>
      obtain ⟨next, hchild, hrest⟩ := at?_cons h
      have hstep : Leads node [part.display] next := leads_display hkeys hshort hchild
      exact hstep.append
        (ih (Node.everywhere_child hkeys hchild) (Node.everywhere_child hshort hchild) hrest)

/-- An index of an item in a node without long sequences can be written, as any string key can. -/
theorem hasLongInteger_of_child? {part : Node} (hkeys : node.hasStringKeys = true)
    (hshort : node.hasShortSequences = true) (h : node.child? part = some x) :
    part.hasLongInteger = false := by
  rcases child?_cases hkeys h with ⟨entries, s, rfl, rfl, -⟩ | ⟨items, i, hitems, rfl, hget⟩
  · rfl
  · exact Node.hasLongInteger_of_lt (lt_of_getElem?_eq_some hshort hitems hget)

/-- So every location in such a document can be written. -/
theorem anyLongInteger_of_at? {location : Location} (hkeys : node.hasStringKeys = true)
    (hshort : node.hasShortSequences = true) (h : node.at? location = some x) :
    Node.anyLongInteger location = false := by
  induction location generalizing node with
  | nil => rfl
  | cons part rest ih =>
      obtain ⟨next, hchild, hrest⟩ := at?_cons h
      rw [Node.anyLongInteger, Bool.or_eq_false_iff]
      exact ⟨hasLongInteger_of_child? hkeys hshort hchild,
        ih (Node.everywhere_child hkeys hchild) (Node.everywhere_child hshort hchild) hrest⟩

/-! ## Telling locations apart -/

/-- Two keys or indices of one node with the same text are the same. -/
theorem part_eq_of_display_eq {first second : Node} (hkeys : node.hasStringKeys = true)
    (hfirst : node.child? first = some x) (hsecond : node.child? second = some y)
    (htext : first.display = second.display) : first = second := by
  rcases child?_cases hkeys hfirst with ⟨entries, s, rfl, rfl, -⟩ | ⟨items, i, hitems, rfl, -⟩
  · rcases child?_cases hkeys hsecond with ⟨_, t, _, rfl, -⟩ | ⟨_, _, hitems, -⟩
    · rw [← display_str s, htext, display_str]
    · cases hitems
  · rcases child?_cases hkeys hsecond with ⟨_, _, rfl, -⟩ | ⟨_, j, _, rfl, -⟩
    · cases hitems
    · have hj : IsIndex (Node.int i).display j := htext ▸ isIndex_display j
      rw [(isIndex_display i).unique hj]

/-- Two locations in one node with the same texts are the same. -/
theorem location_eq_of_parts_eq {first second : Location} (hkeys : node.hasStringKeys = true)
    (hfirst : node.at? first = some x) (hsecond : node.at? second = some y)
    (hparts : first.parts = second.parts) : first = second := by
  induction first generalizing node second with
  | nil => exact (List.map_eq_nil_iff.mp hparts.symm).symm
  | cons part rest ih =>
      cases second with
      | nil => cases hparts
      | cons part' rest' =>
          obtain ⟨next, hchild, hrest⟩ := at?_cons hfirst
          obtain ⟨next', hchild', hrest'⟩ := at?_cons hsecond
          obtain ⟨htext, htexts⟩ := List.cons.inj hparts
          obtain rfl : part = part' := part_eq_of_display_eq hkeys hchild hchild' htext
          obtain rfl : next = next' := Option.some.inj (hchild.symm.trans hchild')
          rw [ih (Node.everywhere_child hkeys hchild) hrest hrest' htexts]

/--
Instance paths are pointers: the path of a location leads to the node that the location leads to,
and no other location of the document has the same path.
-/
theorem resolve?_instancePath {document : Node} {location : Location}
    (hkeys : document.hasStringKeys = true) (hshort : document.hasShortSequences = true)
    (hat : document.at? location = some x) :
    resolve? document (.str ("#" ++ location.instancePath)) = .ok (some x) ∧
      ∀ (other : Location) (y : Node), document.at? other = some y →
        other.instancePath = location.instancePath → other = location := by
  constructor
  · rw [resolve?, resolveText?_instancePath]
    exact walk?_of_leads (leads_parts hkeys hshort hat)
  · intro other y hother hpath
    have hparts : other.parts = location.parts := Location.pathOfSegments_injective hpath
    exact location_eq_of_parts_eq hkeys hother hat hparts

/-- A document whose keys look like separators, escapes and indices. -/
def keysLikePointers : Node :=
  .map [(.str "", .list [.null, .map [(.str "~01", .int 7), (.str "a/b", .tuple [.str "x"])]]),
    (.str "/1", .null)]

/-- An item below keys that look like pointers is found again, and no other place has its path. -/
theorem resolve?_instancePath_keysLikePointers :
    keysLikePointers.hasStringKeys = true ∧ keysLikePointers.hasShortSequences = true ∧
      keysLikePointers.at? [.str "", .int 1, .str "a/b", .int 0] = some (.str "x") ∧
      resolve? keysLikePointers
          (.str ("#" ++ Location.instancePath [.str "", .int 1, .str "a/b", .int 0])) =
        .ok (some (.str "x")) ∧
      ∀ (other : Location) (y : Node), keysLikePointers.at? other = some y →
        other.instancePath = Location.instancePath [.str "", .int 1, .str "a/b", .int 0] →
          other = [.str "", .int 1, .str "a/b", .int 0] :=
  ⟨by decide +kernel, by decide +kernel, rfl,
    resolve?_instancePath (by decide +kernel) (by decide +kernel) rfl⟩

end ApiLint.Pointer
