import ApiLint.Pointer.Reading
import ApiLint.Proofs.Pointer.Index
import ApiLint.Proofs.Pointer.Path

/-!
# Laws of resolving

A walk along segments ends at the node that they lead to, and it is broken off by an error exactly
when some of the segments lead to a sequence and the next one names an index with too many digits.
In all other cases the segments lead nowhere.

Main results:

- Theorem `walk?_append`: a walk may stop on its way and go on from there.
- Theorem `walk?_eq_ok_some_iff`: a walk ends where its segments lead.
- Theorem `walk?_eq_error_iff`: a walk is broken off exactly at an index with too many digits.
-/

namespace ApiLint.Pointer

/-! ## Single steps -/

variable {node next x : Node} {items : List Node} {key : String} {keys : List String}

/-- A step from a mapping looks the segment up. -/
theorem step?_map (entries : List (Node × Node)) (key : String) :
    step? (.map entries) key = .ok (Node.lookup key entries) :=
  rfl

/-- A step from a sequence takes the segment for an index. -/
theorem step?_sequence {sequence : Node} (h : sequence.items? = some items) (key : String) :
    step? sequence key = item? items key := by
  cases sequence with
  | list xs =>
      cases h
      rfl
  | tuple xs =>
      cases h
      rfl
  | _ => cases h

/-- A step that finds a node is one that segments may take. -/
theorem leads_of_step? (h : step? node key = .ok (some next)) : Leads node [key] next := by
  have hitem : ∀ {items : List Node}, node.items? = some items → item? items key = .ok (some next) →
      Leads node [key] next := by
    intro items hitems hfound
    rcases item?_cases items key with ⟨i, hi, hshort, heq⟩ | ⟨i, -, -, heq⟩ | heq
    · exact .item hitems hi hshort (Except.ok.inj (heq.symm.trans hfound)) (.here next)
    · cases heq.symm.trans hfound
    · cases heq.symm.trans hfound
  cases node with
  | map entries => exact .entry (Except.ok.inj h) (.here next)
  | list xs => exact hitem rfl h
  | tuple xs => exact hitem rfl h
  | _ => cases h

/-- A step is refused exactly when it would take an index with too many digits. -/
theorem step?_eq_error_iff {e : LongNumeral} :
    step? node key = .error e ↔
      ∃ items i, node.items? = some items ∧ IsIndex key i ∧ leastLong ≤ i ∧
        e = .toRead (Nat.toDigits 10 i).length := by
  constructor
  · intro h
    have hitem : ∀ {items : List Node}, node.items? = some items → item? items key = .error e →
        ∃ items i, node.items? = some items ∧ IsIndex key i ∧ leastLong ≤ i ∧
          e = .toRead (Nat.toDigits 10 i).length := by
      intro items hitems hfails
      rcases item?_cases items key with ⟨i, -, -, heq⟩ | ⟨i, hi, hlong, heq⟩ | heq
      · cases heq.symm.trans hfails
      · exact ⟨items, i, hitems, hi, hlong, Except.error.inj (hfails.symm.trans heq)⟩
      · cases heq.symm.trans hfails
    cases node with
    | list xs => exact hitem rfl h
    | tuple xs => exact hitem rfl h
    | _ => cases h
  · rintro ⟨items, i, hitems, hi, hlong, rfl⟩
    rw [step?_sequence hitems, item?_of_long hi hlong]

/-! ## Walks -/

/-- A walk goes on from the node that its first step finds. -/
theorem walk?_cons_of_ok (h : step? node key = .ok (some next)) :
    walk? node (key :: keys) = walk? next keys := by
  rw [walk?, h]

/-- A walk may stop on its way and go on from there; one that fails on its way fails as a whole. -/
theorem walk?_append (node : Node) (keys more : List String) :
    walk? node (keys ++ more) =
      match walk? node keys with
      | .ok (some next) => walk? next more
      | outcome => outcome := by
  induction keys generalizing node with
  | nil => rfl
  | cons key keys ih =>
      rw [List.cons_append, walk?, walk?]
      cases step? node key with
      | error e => rfl
      | ok found =>
          cases found with
          | none => rfl
          | some next => exact ih next

/-- A walk ends where its segments lead. -/
theorem walk?_of_leads (h : Leads node keys x) : walk? node keys = .ok (some x) := by
  induction h with
  | here node => rfl
  | entry hlookup _ ih =>
      rw [walk?_cons_of_ok (by rw [step?_map, hlookup]), ih]
  | item hitems hindex hshort hget _ ih =>
      rw [walk?_cons_of_ok
        (by rw [step?_sequence hitems, item?_of_isIndex hindex hshort, hget]), ih]

/-- Ways along segments can be joined. -/
theorem Leads.append {more : List String} (h : Leads node keys next) (hmore : Leads next more x) :
    Leads node (keys ++ more) x := by
  induction h with
  | here node => exact hmore
  | entry hlookup _ ih => exact .entry hlookup (ih hmore)
  | item hitems hindex hshort hget _ ih => exact .item hitems hindex hshort hget (ih hmore)

/-- A walk ends at a node exactly when its segments lead there. -/
theorem walk?_eq_ok_some_iff : walk? node keys = .ok (some x) ↔ Leads node keys x := by
  constructor
  · intro h
    induction keys generalizing node with
    | nil =>
        rw [walk?, Except.ok.injEq, Option.some.injEq] at h
        subst h
        exact .here node
    | cons key keys ih =>
        rw [walk?] at h
        split at h
        · cases h
        · cases h
        · rename_i hstep
          exact (leads_of_step? hstep).append (ih h)
  · exact walk?_of_leads

/-- A walk is broken off exactly at an index with too many digits. -/
theorem walk?_eq_error_iff {e : LongNumeral} :
    walk? node keys = .error e ↔
      ∃ i, MeetsLongIndex node keys i ∧ e = .toRead (Nat.toDigits 10 i).length := by
  constructor
  · intro h
    induction keys generalizing node with
    | nil =>
        rw [walk?] at h
        cases h
    | cons key keys ih =>
        rw [walk?] at h
        split at h
        · rename_i hstep
          cases h
          obtain ⟨items, i, hitems, hi, hlong, rfl⟩ := step?_eq_error_iff.mp hstep
          exact ⟨i, ⟨[], key, keys, node, items, rfl, .here node, hitems, hi, hlong⟩, rfl⟩
        · cases h
        · rename_i hstep
          obtain ⟨i, ⟨before, bad, after, sequence, items, rfl, hlead, hrest⟩, he⟩ := ih h
          exact ⟨i, ⟨key :: before, bad, after, sequence, items, rfl,
            (leads_of_step? hstep).append hlead, hrest⟩, he⟩
  · rintro ⟨i, ⟨before, bad, after, sequence, items, rfl, hlead, hitems, hi, hlong⟩, rfl⟩
    rw [walk?_append, walk?_of_leads hlead]
    dsimp only
    rw [walk?, step?_eq_error_iff.mpr ⟨items, i, hitems, hi, hlong, rfl⟩]

end ApiLint.Pointer
