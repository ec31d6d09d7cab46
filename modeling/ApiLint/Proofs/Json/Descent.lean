import ApiLint.Proofs.Json.LongInteger

/-!
# Reading JSON without a bound

What is left of a text after a value was read is an end of that text.  So the bound on nested calls is never
met if it is twice the length of the text, and reading stops at an integer with too many digits exactly if it
comes to one.

Main results:

- Theorem `suffix_of_reads`: what is left is an end of the text.
- Theorem `readValue_eq_readOne`: calls that are enough are as good as all others.
- Theorem `read_eq_longNumeral_iff`: a text is refused for an integer exactly if reading comes to one.
-/

namespace ApiLint.Json

variable {cs rest : List Char}

/-! ## How values and entries start -/

/--
A value is read without nested calls, with a step that does not depend on how many there may be, or it is an
array or an object that is not empty.
-/
inductive Opening : List Char → Prop where
  | flat {cs : List Char} (step : Step Node) (hread : ∀ fuel, readValue (fuel + 1) cs = step)
      (hsuffix : ∀ x rest, step = .ok (x, rest) → rest <:+ cs)
      (hlong : (∃ e, step = .error (.longNumeral e)) ↔ StartsWithLongInteger cs) : Opening cs
  | array {more : List Char} (hsome : (skipBlanks more).head? ≠ some ']')
      (hread : ∀ fuel, readValue (fuel + 1) ('[' :: more) = readItems fuel [] (skipBlanks more)) :
      Opening ('[' :: more)
  | object {more : List Char} (hsome : (skipBlanks more).head? ≠ some '\x7d')
      (hread : ∀ fuel, readValue (fuel + 1) ('\x7b' :: more) = readEntries fuel [] (skipBlanks more)) :
      Opening ('\x7b' :: more)

/-- A step without nested calls behind a mark that starts no integer. -/
theorem Opening.of_mark {c : Char} {more : List Char} (hc : c ∈ ['"', '[', '\x7b']) (step : Step Node)
    (hread : ∀ fuel, readValue (fuel + 1) (c :: more) = step)
    (hsuffix : ∀ x rest, step = .ok (x, rest) → rest <:+ more)
    (hne : ∀ e, step ≠ .error (.longNumeral e)) : Opening (c :: more) := by
  refine .flat step hread (fun x rest h => (hsuffix x rest h).trans (List.suffix_cons _ _)) ?_
  constructor
  · rintro ⟨e, he⟩
    exact absurd he (hne e)
  · intro hlong
    have hother : c ≠ '-' ∧ Text.isAsciiDigit c = false := by
      simp only [List.mem_cons, List.not_mem_nil, or_false] at hc
      rcases hc with rfl | rfl | rfl <;> decide
    exact absurd rfl (hlong.head?_ne hother.1 hother.2)

theorem Opening.of_quote (more : List Char) : Opening ('"' :: more) := by
  refine .of_mark (by decide) _ (fun fuel => rfl) ?_ ?_
  · intro x rest h
    split at h
    · rename_i hstring
      cases h
      exact suffix_of_readString hstring
    · cases h
  · intro e h
    split at h
    · cases h
    · rename_i herror
      exact readString_ne_longNumeral e (herror.trans (congrArg Except.error (Except.error.inj h)))

/-- An array is read at once if its bracket closes at once. -/
theorem Opening.of_bracket (more : List Char) : Opening ('[' :: more) := by
  by_cases hsome : (skipBlanks more).head? = some ']'
  · obtain ⟨after, hafter⟩ := List.head?_eq_some_iff.mp hsome
    refine .of_mark (by decide) (.ok (.list [], after)) (fun fuel => ?_) ?_ (by simp)
    · simp only [readValue, hafter]
    · rintro x rest ⟨⟩
      exact suffix_of_skipBlanks hafter
  · refine .array hsome fun fuel => ?_
    rw [readValue]
    split
    · rename_i hafter
      exact absurd (congrArg List.head? hafter) hsome
    · rfl

theorem Opening.of_brace (more : List Char) : Opening ('\x7b' :: more) := by
  by_cases hsome : (skipBlanks more).head? = some '\x7d'
  · obtain ⟨after, hafter⟩ := List.head?_eq_some_iff.mp hsome
    refine .of_mark (by decide) (.ok (.map [], after)) (fun fuel => ?_) ?_ (by simp)
    · simp only [readValue, hafter]
    · rintro x rest ⟨⟩
      exact suffix_of_skipBlanks hafter
  · refine .object hsome fun fuel => ?_
    rw [readValue]
    split
    · rename_i hafter
      exact absurd (congrArg List.head? hafter) hsome
    · rfl

/-- Every value is read in one of these ways. -/
theorem Opening.all (cs : List Char) : Opening cs := by
  have hword : (∀ fuel, readValue (fuel + 1) cs = readWord cs) → Opening cs := by
    intro hread
    exact .flat _ hread (fun x rest h => suffix_of_readWord h) readWord_eq_longNumeral_iff
  cases cs with
  | nil => exact hword fun fuel => rfl
  | cons c more =>
      by_cases hc : c ∈ ['"', '[', '\x7b']
      · simp only [List.mem_cons, List.not_mem_nil, or_false] at hc
        rcases hc with rfl | rfl | rfl
        · exact .of_quote more
        · exact .of_bracket more
        · exact .of_brace more
      · exact hword fun fuel => readValue_eq_readWord hc fuel more

/-- What items are when some have been read, with the text behind the last of them. -/
def itemsBehind (fuel : Nat) (done : List Node) (rest : List Char) : Step Node :=
  match skipBlanks rest with
  | ']' :: after => .ok (.list done.reverse, after)
  | ',' :: after => readItems fuel done (skipBlanks after)
  | after => .error (.malformed .comma after)

/-- Reading an item goes on behind it. -/
theorem readItems_succ (fuel : Nat) (done : List Node) (cs : List Char) :
    readItems (fuel + 1) done cs =
      match readValue fuel cs with
      | .error e => .error e
      | .ok (x, rest) => itemsBehind fuel (x :: done) rest := rfl

/-- Reading an entry goes on behind its value. -/
theorem readEntries_of_hasValueAt {value : List Char} (h : HasValueAt cs value) :
    ∃ name, ∀ fuel done, readEntries (fuel + 1) done cs =
      match readValue fuel value with
      | .error e => .error e
      | .ok (x, rest) => entriesBehind fuel (Node.insertEntry (.str name) x done) rest := by
  obtain ⟨rest, name, afterName, afterColon, rfl, hname, hcolon, rfl⟩ := h
  refine ⟨name, fun fuel done => ?_⟩
  rw [readEntries, hname]
  simp only [hcolon]
  rfl

/-- An entry without a value is malformed. -/
theorem readEntries_of_not_hasValueAt (h : ∀ value, ¬HasValueAt cs value) :
    ∃ problem rest, ∀ fuel done, readEntries (fuel + 1) done cs = .error (.malformed problem rest) := by
  by_cases hquote : cs.head? = some '"'
  · obtain ⟨more, rfl⟩ := List.head?_eq_some_iff.mp hquote
    cases hname : readString ('"' :: more) more with
    | error stop =>
        cases stop with
        | malformed problem rest =>
            exact ⟨problem, rest, fun fuel done => by rw [readEntries, hname]⟩
        | longNumeral e => exact absurd hname (readString_ne_longNumeral e)
    | ok read =>
        obtain ⟨name, afterName⟩ := read
        refine ⟨.colon, skipBlanks afterName, fun fuel done => ?_⟩
        rw [readEntries, hname]
        split
        · rename_i hread
          cases hread
        · rename_i hread
          cases hread
          split
          · rename_i hcolon
            exact absurd ⟨_, _, _, _, rfl, hname, hcolon, rfl⟩ (h _)
          · rfl
  · refine ⟨.propertyName, cs, fun fuel done => ?_⟩
    rw [readEntries.eq_def]
    split
    · rename_i hfuel
      cases hfuel
    · exact absurd rfl hquote
    · rfl

/-- An entry has a value, or it is malformed. -/
theorem hasValueAt_or_malformed (cs : List Char) :
    (∃ value, HasValueAt cs value) ∨
      ∃ problem rest, ∀ fuel done, readEntries (fuel + 1) done cs = .error (.malformed problem rest) := by
  by_cases hvalue : ∃ value, HasValueAt cs value
  · exact .inl hvalue
  · exact .inr (readEntries_of_not_hasValueAt fun value h => hvalue ⟨value, h⟩)

/-! ## The bound on nested calls -/

/-- Reading on behind an item or an entry leaves an end of the text, if reading the others does. -/
theorem suffix_of_itemsBehind {fuel : Nat} {done : List Node} {after : List Char} {x : Node}
    (hitems : ∀ done cs, readItems fuel done cs = .ok (x, after) → after <:+ cs)
    (h : itemsBehind fuel done rest = .ok (x, after)) : after <:+ rest := by
  rw [itemsBehind] at h
  split at h
  · rename_i hend
    cases h
    exact suffix_of_skipBlanks hend
  · rename_i more hcomma
    exact (hitems _ _ h).trans ((skipBlanks_suffix more).trans (suffix_of_skipBlanks hcomma))
  · cases h

theorem suffix_of_entriesBehind {fuel : Nat} {done : List (Node × Node)} {after : List Char} {x : Node}
    (hentries : ∀ done cs, readEntries fuel done cs = .ok (x, after) → after <:+ cs)
    (h : entriesBehind fuel done rest = .ok (x, after)) : after <:+ rest := by
  rw [entriesBehind] at h
  split at h
  · rename_i hend
    cases h
    exact suffix_of_skipBlanks hend
  · rename_i more hcomma
    exact (hentries _ _ h).trans ((skipBlanks_suffix more).trans (suffix_of_skipBlanks hcomma))
  · cases h

/-- The value of an entry is an end of its text. -/
theorem HasValueAt.suffix {value : List Char} (h : HasValueAt cs value) : value <:+ cs := by
  obtain ⟨rest, name, afterName, afterColon, rfl, hname, hcolon, rfl⟩ := h
  exact (skipBlanks_suffix afterColon).trans ((suffix_of_skipBlanks hcolon).trans
    ((suffix_of_readString hname).trans (List.suffix_cons '"' rest)))

/-- What is left after a value, items or entries is an end of the text. -/
theorem suffix_of_reads (fuel : Nat) :
    (∀ {cs rest x}, readValue fuel cs = .ok (x, rest) → rest <:+ cs) ∧
    (∀ {done cs rest x}, readItems fuel done cs = .ok (x, rest) → rest <:+ cs) ∧
    (∀ {done cs rest x}, readEntries fuel done cs = .ok (x, rest) → rest <:+ cs) := by
  induction fuel with
  | zero => exact ⟨nofun, nofun, nofun⟩
  | succ fuel ih =>
      obtain ⟨hvalues, hitems, hentries⟩ := ih
      refine ⟨?_, ?_, ?_⟩
      · intro cs rest x h
        cases Opening.all cs with
        | flat step hread hsuffix => exact hsuffix x rest ((hread fuel).symm.trans h)
        | array hsome hread =>
            rw [hread] at h
            exact (hitems h).trans ((skipBlanks_suffix _).trans (List.suffix_cons _ _))
        | object hsome hread =>
            rw [hread] at h
            exact (hentries h).trans ((skipBlanks_suffix _).trans (List.suffix_cons _ _))
      · intro done cs rest x h
        rw [readItems_succ] at h
        split at h
        · cases h
        · rename_i hitem
          exact (suffix_of_itemsBehind (fun _ _ => hitems) h).trans (hvalues hitem)
      · intro done cs rest x h
        rcases hasValueAt_or_malformed cs with ⟨value, hvalue⟩ | ⟨problem, at', hrefused⟩
        · obtain ⟨name, hread⟩ := readEntries_of_hasValueAt hvalue
          rw [hread] at h
          split at h
          · cases h
          · rename_i hentry
            exact (suffix_of_entriesBehind (fun _ _ => hentries) h).trans
              ((hvalues hentry).trans hvalue.suffix)
        · rw [hrefused] at h
          cases h

/-- The text from a later item or entry on is shorter. -/
theorem length_skipBlanks_lt {more : List Char} {c : Char} (hrest : rest <:+ cs)
    (hmore : skipBlanks rest = c :: more) : (skipBlanks more).length < cs.length := by
  have h₁ := hrest.length_le
  have h₂ := (skipBlanks_suffix rest).length_le
  have h₃ := (skipBlanks_suffix more).length_le
  rw [hmore, List.length_cons] at h₂
  omega

/-- One call more changes nothing behind an item or an entry if it changes nothing for the others. -/
theorem itemsBehind_succ {fuel : Nat} {done : List Node}
    (hitems : ∀ done more, skipBlanks rest = ',' :: more →
      readItems (fuel + 1) done (skipBlanks more) = readItems fuel done (skipBlanks more)) :
    itemsBehind (fuel + 1) done rest = itemsBehind fuel done rest := by
  rw [itemsBehind, itemsBehind]
  split
  · rfl
  · rename_i more hcomma
    exact hitems done more hcomma
  · rfl

theorem entriesBehind_succ {fuel : Nat} {done : List (Node × Node)}
    (hentries : ∀ done more, skipBlanks rest = ',' :: more →
      readEntries (fuel + 1) done (skipBlanks more) = readEntries fuel done (skipBlanks more)) :
    entriesBehind (fuel + 1) done rest = entriesBehind fuel done rest := by
  rw [entriesBehind, entriesBehind]
  split
  · rfl
  · rename_i more hcomma
    exact hentries done more hcomma
  · rfl

/-- One call more changes nothing if there are calls enough for the text. -/
theorem reads_succ (fuel : Nat) :
    (∀ {cs}, 2 * cs.length + 1 ≤ fuel → readValue (fuel + 1) cs = readValue fuel cs) ∧
    (∀ {done cs}, 2 * cs.length + 2 ≤ fuel →
      readItems (fuel + 1) done cs = readItems fuel done cs) ∧
    (∀ {done cs}, 2 * cs.length + 2 ≤ fuel →
      readEntries (fuel + 1) done cs = readEntries fuel done cs) := by
  induction fuel with
  | zero => exact ⟨nofun, nofun, nofun⟩
  | succ fuel ih =>
      obtain ⟨hvalues, hitems, hentries⟩ := ih
      refine ⟨?_, ?_, ?_⟩
      · intro cs hfuel
        cases Opening.all cs with
        | flat step hread => rw [hread, hread]
        | @array more hsome hread =>
            have hlength := (skipBlanks_suffix more).length_le
            rw [List.length_cons] at hfuel
            rw [hread, hread, hitems (by omega)]
        | @object more hsome hread =>
            have hlength := (skipBlanks_suffix more).length_le
            rw [List.length_cons] at hfuel
            rw [hread, hread, hentries (by omega)]
      · intro done cs hfuel
        rw [readItems_succ, readItems_succ, hvalues (by omega)]
        split
        · rfl
        · rename_i x rest hitem
          refine itemsBehind_succ fun done more hcomma => hitems ?_
          have hlength := length_skipBlanks_lt ((suffix_of_reads fuel).1 hitem) hcomma
          omega
      · intro done cs hfuel
        rcases hasValueAt_or_malformed cs with ⟨value, hvalue⟩ | ⟨problem, at', hrefused⟩
        · obtain ⟨name, hread⟩ := readEntries_of_hasValueAt hvalue
          have hlength := hvalue.suffix.length_le
          rw [hread, hread, hvalues (by omega)]
          split
          · rfl
          · rename_i x rest hentry
            refine entriesBehind_succ fun done more hcomma => hentries ?_
            have hleft := ((suffix_of_reads fuel).1 hentry).trans hvalue.suffix
            have hlength := length_skipBlanks_lt hleft hcomma
            omega
        · rw [hrefused, hrefused]

/-- Calls that are enough for a value are as good as all others. -/
theorem readValue_eq_readOne {fuel : Nat} (h : 2 * cs.length + 1 ≤ fuel) :
    readValue fuel cs = readOne cs := by
  induction h with
  | refl => rfl
  | @step fuel hfuel ih => rw [(reads_succ fuel).1 hfuel, ih]

/-- The items from the first one that is left, with calls enough. -/
def itemsFrom (done : List Node) (cs : List Char) : Step Node := readItems (2 * cs.length + 2) done cs

/-- The entries from the first one that is left, with calls enough. -/
def entriesFrom (done : List (Node × Node)) (cs : List Char) : Step Node :=
  readEntries (2 * cs.length + 2) done cs

theorem readItems_eq_itemsFrom {fuel : Nat} (done : List Node) (h : 2 * cs.length + 2 ≤ fuel) :
    readItems fuel done cs = itemsFrom done cs := by
  induction h with
  | refl => rfl
  | @step fuel hfuel ih => rw [(reads_succ fuel).2.1 hfuel, ih]

theorem readEntries_eq_entriesFrom {fuel : Nat} (done : List (Node × Node))
    (h : 2 * cs.length + 2 ≤ fuel) : readEntries fuel done cs = entriesFrom done cs := by
  induction h with
  | refl => rfl
  | @step fuel hfuel ih => rw [(reads_succ fuel).2.2 hfuel, ih]

/-! ## Reading up to an integer -/

/-- What is left after a value is an end of its text. -/
theorem suffix_of_readOne {x : Node} (h : readOne cs = .ok (x, rest)) : rest <:+ cs :=
  (suffix_of_reads _).1 h

/-- An item that is refused is refused as an item. -/
theorem itemsFrom_of_error {stop : Stop} (done : List Node) (h : readOne cs = .error stop) :
    itemsFrom done cs = .error stop := by
  rw [itemsFrom, readItems_succ, readValue_eq_readOne (Nat.le_refl _), h]

/-- Behind an item and a comma the others are read. -/
theorem itemsFrom_of_comma {x : Node} {more : List Char} (done : List Node)
    (h : readOne cs = .ok (x, rest)) (hcomma : skipBlanks rest = ',' :: more) :
    itemsFrom done cs = itemsFrom (x :: done) (skipBlanks more) := by
  have hlength := length_skipBlanks_lt (suffix_of_readOne h) hcomma
  rw [itemsFrom, readItems_succ, readValue_eq_readOne (Nat.le_refl _), h]
  simp only [itemsBehind, hcomma]
  exact readItems_eq_itemsFrom _ (by omega)

/-- A value that is refused is refused as the value of an entry. -/
theorem entriesFrom_of_error {value : List Char} {stop : Stop} (done : List (Node × Node))
    (hvalue : HasValueAt cs value) (h : readOne value = .error stop) :
    entriesFrom done cs = .error stop := by
  obtain ⟨name, hread⟩ := readEntries_of_hasValueAt hvalue
  have hlength := hvalue.suffix.length_le
  rw [entriesFrom, hread, readValue_eq_readOne (by omega), h]

/-- Behind an entry and a comma the others are read. -/
theorem entriesFrom_of_comma {value more : List Char} {x : Node} (done : List (Node × Node))
    (hvalue : HasValueAt cs value) (h : readOne value = .ok (x, rest))
    (hcomma : skipBlanks rest = ',' :: more) :
    ∃ done', entriesFrom done cs = entriesFrom done' (skipBlanks more) := by
  obtain ⟨name, hread⟩ := readEntries_of_hasValueAt hvalue
  have hlength := hvalue.suffix.length_le
  have hmore := length_skipBlanks_lt ((suffix_of_readOne h).trans hvalue.suffix) hcomma
  refine ⟨Node.insertEntry (.str name) x done, ?_⟩
  rw [entriesFrom, hread, readValue_eq_readOne (by omega), h]
  simp only [entriesBehind, hcomma]
  exact readEntries_eq_entriesFrom _ (by omega)

/-- An array that is not empty is read as its items. -/
theorem readOne_array (hsome : (skipBlanks rest).head? ≠ some ']') :
    readOne ('[' :: rest) = itemsFrom [] (skipBlanks rest) := by
  have hitems : readItems (2 * ('[' :: rest).length) [] (skipBlanks rest) =
      itemsFrom [] (skipBlanks rest) := by
    have hlength := (skipBlanks_suffix rest).length_le
    exact readItems_eq_itemsFrom [] (by rw [List.length_cons]; omega)
  rw [← hitems, readOne, readValue]
  split
  · rename_i hend
    exact absurd (congrArg List.head? hend) hsome
  · rfl

/-- An object that is not empty is read as its entries. -/
theorem readOne_object (hsome : (skipBlanks rest).head? ≠ some '\x7d') :
    readOne ('\x7b' :: rest) = entriesFrom [] (skipBlanks rest) := by
  have hentries : readEntries (2 * ('\x7b' :: rest).length) [] (skipBlanks rest) =
      entriesFrom [] (skipBlanks rest) := by
    have hlength := (skipBlanks_suffix rest).length_le
    exact readEntries_eq_entriesFrom [] (by rw [List.length_cons]; omega)
  rw [← hentries, readOne, readValue]
  split
  · rename_i hend
    exact absurd (congrArg List.head? hend) hsome
  · rfl

/-- An array is read as its items from any of them on, if those before it are read. -/
theorem ItemAt.readOne_eq {item : List Char} (h : ItemAt cs item) :
    ∃ done, readOne cs = itemsFrom done item := by
  induction h with
  | first hsome => exact ⟨[], readOne_array hsome⟩
  | next hitem hleaves hcomma ih =>
      obtain ⟨done, ih⟩ := ih
      obtain ⟨x, hx⟩ := hleaves
      exact ⟨x :: done, ih.trans (itemsFrom_of_comma done hx hcomma)⟩

/-- An object is read as its entries from any of them on, if those before it are read. -/
theorem EntryAt.readOne_eq {entry : List Char} (h : EntryAt cs entry) :
    ∃ done, readOne cs = entriesFrom done entry := by
  induction h with
  | first hsome => exact ⟨[], readOne_object hsome⟩
  | next hentry hvalue hleaves hcomma ih =>
      obtain ⟨done, ih⟩ := ih
      obtain ⟨x, hx⟩ := hleaves
      obtain ⟨done', hdone⟩ := entriesFrom_of_comma done hvalue hx hcomma
      exact ⟨done', ih.trans hdone⟩

/-- A value that reading comes to is refused with the whole. -/
theorem ComesTo.readOne_eq_error {stop : Stop} (h : ComesTo cs rest)
    (hstop : readOne rest = .error stop) : readOne cs = .error stop := by
  induction h with
  | here => exact hstop
  | item hitem _ ih =>
      obtain ⟨done, hread⟩ := hitem.readOne_eq
      rw [hread, itemsFrom_of_error done (ih hstop)]
  | value hentry hvalue _ ih =>
      obtain ⟨done, hread⟩ := hentry.readOne_eq
      rw [hread, entriesFrom_of_error done hvalue (ih hstop)]

/-- Reading on behind an item or an entry stops at an integer only if reading the others does. -/
theorem exists_of_itemsBehind {fuel : Nat} {done : List Node} {e : LongNumeral}
    (h : itemsBehind fuel done rest = .error (.longNumeral e)) :
    ∃ done' more, skipBlanks rest = ',' :: more ∧
      readItems fuel done' (skipBlanks more) = .error (.longNumeral e) := by
  rw [itemsBehind] at h
  split at h
  · cases h
  · rename_i more hcomma
    exact ⟨done, more, hcomma, h⟩
  · cases h

theorem exists_of_entriesBehind {fuel : Nat} {done : List (Node × Node)} {e : LongNumeral}
    (h : entriesBehind fuel done rest = .error (.longNumeral e)) :
    ∃ done' more, skipBlanks rest = ',' :: more ∧
      readEntries fuel done' (skipBlanks more) = .error (.longNumeral e) := by
  rw [entriesBehind] at h
  split at h
  · cases h
  · rename_i more hcomma
    exact ⟨done, more, hcomma, h⟩
  · cases h

/-- Reading that stops at an integer has come to it. -/
theorem comesTo_of_reads (fuel : Nat) (e : LongNumeral) :
    (∀ {cs}, 2 * cs.length + 1 ≤ fuel → readValue fuel cs = .error (.longNumeral e) →
      ∃ rest, ComesTo cs rest ∧ StartsWithLongInteger rest) ∧
    (∀ {cs done item}, 2 * item.length + 2 ≤ fuel → ItemAt cs item →
      readItems fuel done item = .error (.longNumeral e) →
        ∃ rest, ComesTo cs rest ∧ StartsWithLongInteger rest) ∧
    (∀ {cs done entry}, 2 * entry.length + 2 ≤ fuel → EntryAt cs entry →
      readEntries fuel done entry = .error (.longNumeral e) →
        ∃ rest, ComesTo cs rest ∧ StartsWithLongInteger rest) := by
  induction fuel with
  | zero => exact ⟨nofun, nofun, nofun⟩
  | succ fuel ih =>
      obtain ⟨hvalues, hitems, hentries⟩ := ih
      refine ⟨?_, ?_, ?_⟩
      · intro cs hfuel h
        cases Opening.all cs with
        | flat step hread _ hlong =>
            exact ⟨cs, .here cs, hlong.mp ⟨e, (hread fuel).symm.trans h⟩⟩
        | @array more hsome hread =>
            have hlength := (skipBlanks_suffix more).length_le
            rw [List.length_cons] at hfuel
            exact hitems (by omega) (.first hsome) ((hread fuel).symm.trans h)
        | @object more hsome hread =>
            have hlength := (skipBlanks_suffix more).length_le
            rw [List.length_cons] at hfuel
            exact hentries (by omega) (.first hsome) ((hread fuel).symm.trans h)
      · intro cs done item hfuel hitem h
        rw [readItems_succ] at h
        split at h
        · rename_i hstop
          cases h
          obtain ⟨rest, hcomes, hlong⟩ := hvalues (by omega) hstop
          exact ⟨rest, .item hitem hcomes, hlong⟩
        · rename_i x rest hread
          rw [readValue_eq_readOne (by omega)] at hread
          obtain ⟨done', more, hcomma, hmore⟩ := exists_of_itemsBehind h
          have hlength := length_skipBlanks_lt (suffix_of_readOne hread) hcomma
          exact hitems (by omega) (.next hitem ⟨x, hread⟩ hcomma) hmore
      · intro cs done entry hfuel hentry h
        rcases hasValueAt_or_malformed entry with ⟨value, hvalue⟩ | ⟨problem, at', hrefused⟩
        · obtain ⟨name, hentries'⟩ := readEntries_of_hasValueAt hvalue
          have hsuffix := hvalue.suffix.length_le
          rw [hentries'] at h
          split at h
          · rename_i hstop
            cases h
            obtain ⟨rest, hcomes, hlong⟩ := hvalues (by omega) hstop
            exact ⟨rest, .value hentry hvalue hcomes, hlong⟩
          · rename_i x rest hread
            rw [readValue_eq_readOne (by omega)] at hread
            obtain ⟨done', more, hcomma, hmore⟩ := exists_of_entriesBehind h
            have hlength := length_skipBlanks_lt ((suffix_of_readOne hread).trans hvalue.suffix) hcomma
            exact hentries (by omega) (.next hentry hvalue ⟨x, hread⟩ hcomma) hmore
        · rw [hrefused] at h
          cases h

/-- A value is refused for an integer exactly if reading it comes to one with too many digits. -/
theorem readOne_eq_longNumeral_iff :
    (∃ e, readOne cs = .error (.longNumeral e)) ↔
      ∃ rest, ComesTo cs rest ∧ StartsWithLongInteger rest := by
  constructor
  · rintro ⟨e, he⟩
    exact (comesTo_of_reads _ e).1 (Nat.le_refl _) he
  · rintro ⟨rest, hcomes, hlong⟩
    obtain ⟨e, he⟩ : ∃ e, readOne rest = .error (.longNumeral e) := by
      cases Opening.all rest with
      | flat step hread _ hstep =>
          obtain ⟨e, he⟩ := hstep.mpr hlong
          exact ⟨e, (hread _).trans he⟩
      | array => exact absurd rfl (hlong.head?_ne (by decide) (by decide))
      | object => exact absurd rfl (hlong.head?_ne (by decide) (by decide))
    exact ⟨e, hcomes.readOne_eq_error he⟩

/-- A text is refused for an integer exactly if reading comes to one with too many digits. -/
theorem read_eq_longNumeral_iff (text : String) :
    (∃ e, read text = .error (.longNumeral e)) ↔ ComesToLongInteger text := by
  have hlength := (skipBlanks_suffix text.toList).length_le
  have hread : (∃ e, read text = .error (.longNumeral e)) ↔
      ∃ e, readText text.toList = .error (.longNumeral e) := by
    unfold read
    cases readText text.toList with
    | ok x => simp
    | error stop => cases stop <;> simp
  rw [hread, ComesToLongInteger, ← readOne_eq_longNumeral_iff]
  unfold readText
  split
  · rename_i more htext
    -- The mark is no blank, and nothing that starts with it is a value.
    have hmark : ∀ e, readOne (skipBlanks text.toList) ≠ .error (.longNumeral e) := by
      intro e he
      rw [htext] at he
      cases he
    refine iff_of_false (by simp) ?_
    rintro ⟨e, he⟩
    exact hmark e he
  · rw [readValue_eq_readOne (by omega)]
    cases readOne (skipBlanks text.toList) with
    | error stop => simp only [Except.error.injEq]
    | ok read =>
        obtain ⟨x, rest⟩ := read
        simp only [reduceCtorEq, exists_false, iff_false]
        rintro ⟨e, he⟩
        split at he <;> cases he

end ApiLint.Json
