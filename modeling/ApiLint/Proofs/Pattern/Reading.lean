import ApiLint.Pattern.Portable
import ApiLint.Pattern.Reader
import ApiLint.Proofs.Pattern.Alike

/-!
# Reading a pattern inside a longer text

A portable pattern that is read on its own is read in the same way in front of a bar and behind
other patterns, except that its groups have other numbers.  A judgement relates the two ways of
reading, and each reading function keeps to it.

Main results:

- Theorem `within_bind`: parts of a pattern are read one after the other.
- Theorems `within_readClass`, `within_readEscape` and the others: what stands in a sequence.
-/

namespace ApiLint.Pattern

/-! ## Portable texts -/

/-- What is left of a portable text is portable. -/
theorem isPortable_of_suffix {cs ds : List Char} (hsuffix : ds <:+ cs) (h : isPortable cs = true) :
    isPortable ds = true := by
  induction cs with
  | nil =>
      rw [List.suffix_nil.mp hsuffix]
      rfl
  | cons c cs ih =>
      rw [isPortable, Bool.and_eq_true] at h
      rcases List.suffix_cons_iff.mp hsuffix with rfl | hrest
      · rw [isPortable, h.1, h.2]
        rfl
      · exact ih hrest h.2

theorem isPortable_of_cons {c : Char} {cs : List Char} (h : isPortable (c :: cs) = true) :
    isPortable cs = true :=
  isPortable_of_suffix (List.suffix_cons c cs) h

/-- What may stand behind a pattern: nothing, or a bar. -/
inductive IsTail : List Char → Prop where
  | nil : IsTail []
  | bar (cs : List Char) : IsTail ('|' :: cs)

/-! ## Reading in front of a tail -/

/-- The state of reading a portable pattern on its own, and its state in front of a tail. -/
structure Within (tail : List Char) (r r' : Reading) : Prop where
  rest : r'.rest = r.rest ++ tail
  portable : isPortable r.rest = true
  flags : r.flags = {}
  flags' : r'.flags = {}
  lookBehind : r'.hasVariableLookBehind = r.hasVariableLookBehind
  conditions : r'.conditions = []
  isUnlimited : r'.isUnlimited = false

/--
Where the first reading function succeeds on a text alone, the second one succeeds in front of the
tail, with a result that is related to the first one.
-/
def ReadsWithin (tail cs : List Char) {α β : Type} (S : α → β → Prop) (m : Read α) (m' : Read β) : Prop :=
  ∀ r r' a s, Within tail r r' → r.rest = cs → m r = .ok (a, s) →
    ∃ b s', m' r' = .ok (b, s') ∧ S a b ∧ Within tail s s'

variable {tail cs ds : List Char} {α β γ δ : Type} {S : α → β → Prop} {T : γ → δ → Prop}

/-- Two functions one after the other. -/
theorem run_bind (m : Read α) (f : α → Read γ) (r : Reading) :
    (m >>= f) r = match m r with
      | .ok (a, s) => f a s
      | .error e => .error e := by
  show (m r >>= fun p => f p.1 p.2) = _
  cases m r <;> rfl

/-- The results of one after the other come from results of each. -/
theorem run_bind_eq_ok_iff {m : Read α} {f : α → Read γ} {r t : Reading} {c : γ} :
    (m >>= f) r = .ok (c, t) ↔ ∃ a s, m r = .ok (a, s) ∧ f a s = .ok (c, t) := by
  rw [run_bind]
  cases h : m r with
  | error e => simp
  | ok p =>
      obtain ⟨a, s⟩ := p
      constructor
      · intro hf
        exact ⟨a, s, rfl, hf⟩
      · rintro ⟨_, _, heq, hf⟩
        cases heq
        exact hf

theorem run_rest (r : Reading) : rest r = .ok (r.rest, r) := rfl

theorem within_pure {a : α} {b : β} (h : S a b) : ReadsWithin tail cs S (pure a) (pure b) := by
  intro r r' c s hwithin _ hrun
  cases hrun
  exact ⟨b, r', rfl, h, hwithin⟩

theorem within_throw (e : PatternError) (m' : Read β) :
    ReadsWithin tail cs S (throw e : Read α) m' := by
  intro r r' a s _ _ hrun
  cases hrun

/-- Parts are read one after the other. -/
theorem within_bind {m : Read α} {m' : Read β} {f : α → Read γ} {f' : β → Read δ}
    (hfirst : ReadsWithin tail cs S m m')
    (hnext : ∀ a b ds, S a b → isPortable ds = true → ReadsWithin tail ds T (f a) (f' b)) :
    ReadsWithin tail cs T (m >>= f) (m' >>= f') := by
  intro r r' c t hwithin hcs hrun
  obtain ⟨a, s, hm, hf⟩ := run_bind_eq_ok_iff.mp hrun
  obtain ⟨b, s', hm', hab, hs⟩ := hfirst _ _ _ _ hwithin hcs hm
  obtain ⟨d, t', hf', hcd, ht⟩ := hnext a b s.rest hab hs.portable _ _ _ _ hs rfl hf
  exact ⟨d, t', run_bind_eq_ok_iff.mpr ⟨b, s', hm', hf'⟩, hcd, ht⟩

/-- What is still to be read has the tail behind it. -/
theorem within_rest {f : List Char → Read γ} {f' : List Char → Read δ}
    (h : ReadsWithin tail cs T (f cs) (f' (cs ++ tail))) :
    ReadsWithin tail cs T (rest >>= f) (rest >>= f') := by
  intro r r' c t hwithin hcs hrun
  obtain ⟨a, s, hrest, hf⟩ := run_bind_eq_ok_iff.mp hrun
  cases hrest
  rw [hcs] at hf
  obtain ⟨d, t', hf', hcd, ht⟩ := h _ _ _ _ hwithin hcs hf
  refine ⟨d, t', run_bind_eq_ok_iff.mpr ⟨r'.rest, r', rfl, ?_⟩, hcd, ht⟩
  rw [hwithin.rest, hcs]
  exact hf'

/-- Going on with a portable text, in front of the same tail. -/
theorem within_goOn {m : Read γ} {m' : Read δ} (hds : isPortable ds = true)
    (h : ReadsWithin tail ds T m m') :
    ReadsWithin tail cs T (goOn ds >>= fun _ => m) (goOn (ds ++ tail) >>= fun _ => m') := by
  intro r r' c t hwithin _ hrun
  obtain ⟨_, s, hgo, hm⟩ := run_bind_eq_ok_iff.mp hrun
  cases hgo
  have hnext : Within tail { r with rest := ds } { r' with rest := ds ++ tail } :=
    { hwithin with rest := rfl, portable := hds }
  obtain ⟨d, t', hm', hcd, ht⟩ := h _ _ _ _ hnext rfl hm
  exact ⟨d, t', run_bind_eq_ok_iff.mpr ⟨(), _, rfl, hm'⟩, hcd, ht⟩

/-- A check that does not touch the text. -/
theorem within_lift (x : Except PatternError α) :
    ReadsWithin tail cs Eq (liftM x : Read α) (liftM x : Read α) := by
  intro r r' a s hwithin _ hrun
  cases x with
  | error e => cases hrun
  | ok b =>
      cases hrun
      exact ⟨a, r', rfl, rfl, hwithin⟩

theorem ReadsWithin.mono {S' : α → β → Prop} {m : Read α} {m' : Read β}
    (h : ReadsWithin tail cs S m m') (himp : ∀ a b, S a b → S' a b) :
    ReadsWithin tail cs S' m m' := by
  intro r r' a s hwithin hcs hrun
  obtain ⟨b, s', hm', hab, hs⟩ := h _ _ _ _ hwithin hcs hrun
  exact ⟨b, s', hm', himp a b hab, hs⟩

/-! ## Characters -/

/-- A run of characters that another one ends, before the tail, ends there too. -/
theorem takeWhile_append_of_drop {test : Char → Bool} {c : Char} {more : List Char}
    (hdrop : cs.drop (cs.takeWhile test).length = c :: more) (tail : List Char) :
    (cs ++ tail).takeWhile test = cs.takeWhile test ∧
      (cs ++ tail).drop (cs.takeWhile test).length = c :: more ++ tail := by
  induction cs with
  | nil => cases hdrop
  | cons d cs ih =>
      by_cases hd : test d = true
      · rw [List.takeWhile_cons_of_pos hd, List.length_cons, List.drop_succ_cons] at hdrop
        obtain ⟨htake, hmore⟩ := ih hdrop
        rw [List.cons_append, List.takeWhile_cons_of_pos hd, List.takeWhile_cons_of_pos hd, htake,
          List.length_cons, List.drop_succ_cons]
        exact ⟨rfl, hmore⟩
      · rw [List.takeWhile_cons_of_neg hd] at hdrop ⊢
        rw [List.cons_append, List.takeWhile_cons_of_neg hd]
        exact ⟨rfl, by rw [← List.cons_append, ← hdrop]; rfl⟩

variable (htail : IsTail tail)

include htail

/-- A character other than a bar is not taken from the tail. -/
theorem within_skip {c : Char} (hc : c ≠ '|') (hcs : isPortable cs = true) :
    ReadsWithin tail cs Eq (skip c) (skip c) := by
  refine within_rest ?_
  cases cs with
  | nil =>
      cases htail with
      | nil => exact within_pure rfl
      | bar more =>
          dsimp only [List.nil_append]
          rw [if_neg hc]
          exact within_pure rfl
  | cons d cs =>
      dsimp only [List.cons_append]
      by_cases hd : c = d
      · rw [if_pos hd, if_pos hd]
        exact within_goOn (isPortable_of_cons hcs) (within_pure rfl)
      · rw [if_neg hd, if_neg hd]
        exact within_pure rfl

/-- Characters that pass a test end in front of the tail, if a bar does not pass. -/
theorem takeWhile_append_tail {test : Char → Bool} (hbar : test '|' = false) (cs : List Char) :
    (cs ++ tail).takeWhile test = cs.takeWhile test := by
  induction cs with
  | nil =>
      cases htail with
      | nil => rfl
      | bar more => exact List.takeWhile_cons_of_neg (by simp [hbar])
  | cons c cs ih =>
      rw [List.cons_append]
      by_cases hc : test c = true
      · rw [List.takeWhile_cons_of_pos hc, List.takeWhile_cons_of_pos hc, ih]
      · rw [List.takeWhile_cons_of_neg hc, List.takeWhile_cons_of_neg hc]

theorem take_takeWhile_append_tail {test : Char → Bool} (hbar : test '|' = false) (count : Nat)
    (cs : List Char) :
    ((cs ++ tail).take count).takeWhile test = (cs.take count).takeWhile test := by
  induction cs generalizing count with
  | nil =>
      cases htail with
      | nil => rfl
      | bar more => cases count <;> simp [hbar]
  | cons c cs ih => cases count <;> simp [List.takeWhile_cons, ih]

theorem within_readWhile {test : Char → Bool} (hbar : test '|' = false) (count : Nat)
    (hcs : isPortable cs = true) :
    ReadsWithin tail cs Eq (readWhile count test) (readWhile count test) := by
  refine within_rest ?_
  dsimp only
  rw [take_takeWhile_append_tail htail hbar]
  have hlength : ((cs.take count).takeWhile test).length ≤ cs.length := by
    have hrun := (List.takeWhile_prefix test (l := cs.take count)).length_le
    have htake := List.length_take_le' count cs
    omega
  rw [List.drop_append_of_le_length hlength]
  exact within_goOn (isPortable_of_suffix (List.drop_suffix _ _) hcs) (within_pure rfl)

/-! ## Escapes -/

omit htail in
theorem within_readName (stop : Char) (error : PatternError) (hcs : isPortable cs = true) :
    ReadsWithin tail cs Eq (readName stop error) (readName stop error) := by
  refine within_rest ?_
  dsimp only
  cases hdrop : cs.drop (cs.takeWhile (· ≠ stop)).length with
  | nil =>
      cases cs.takeWhile (· ≠ stop) <;> exact within_throw _ _
  | cons c more =>
      obtain ⟨htake, hmore⟩ := takeWhile_append_of_drop hdrop tail
      rw [htake, hmore]
      have hportable : isPortable more = true := by
        refine isPortable_of_suffix ?_ hcs
        exact (List.suffix_cons c more).trans (hdrop ▸ List.drop_suffix _ cs)
      cases cs.takeWhile (· ≠ stop) with
      | nil => exact within_throw _ _
      | cons d name => exact within_goOn hportable (within_pure rfl)

/-- An escape that refers to no group. -/
def Escaped.IsPlain : Escaped → Prop
  | .again _ => False
  | .place p => p.isLeaf = true
  | _ => True

/-- The same escape, which refers to no group. -/
def SameEscape (e e' : Escaped) : Prop := e = e' ∧ e.IsPlain

theorem within_readHex (count : Nat) (hcs : isPortable cs = true) :
    ReadsWithin tail cs SameEscape (readHex count) (readHex count) := by
  refine within_bind (within_readWhile htail rfl count hcs) ?_
  rintro digits _ ds rfl _
  dsimp only
  split
  · exact within_pure ⟨rfl, trivial⟩
  · exact within_throw _ _

theorem within_readCharacterName (hcs : isPortable cs = true) :
    ReadsWithin tail cs SameEscape readCharacterName readCharacterName := by
  refine within_bind (within_skip htail (by decide) hcs) ?_
  rintro found _ ds rfl hds
  cases found with
  | false => exact within_throw _ _
  | true =>
      refine within_bind (within_readName _ _ hds) ?_
      rintro name _ es rfl _
      split
      · exact within_pure ⟨rfl, trivial⟩
      · exact within_throw _ _

theorem within_readCommonEscape (c : Char) (hcs : isPortable cs = true) :
    ReadsWithin tail cs SameEscape (readCommonEscape c) (readCommonEscape c) := by
  unfold readCommonEscape
  split
  · exact within_pure ⟨rfl, trivial⟩
  · exact within_pure ⟨rfl, trivial⟩
  · repeat' split
    · exact within_readHex htail 2 hcs
    · exact within_readHex htail 4 hcs
    · exact within_readHex htail 8 hcs
    · exact within_readCharacterName htail hcs
    · exact within_throw _ _
    · exact within_pure ⟨rfl, trivial⟩

omit htail in
/-- After a backslash there is no digit. -/
theorem isAsciiDigit_of_isPortable {c : Char} (h : isPortable ('\\' :: c :: cs) = true) :
    Text.isAsciiDigit c = false := by
  rw [isPortable, Bool.and_eq_true] at h
  simpa [startsPortably] using h.1

theorem within_readEscape (hcs : isPortable ('\\' :: cs) = true) :
    ReadsWithin tail cs SameEscape (readEscape {}) (readEscape {}) := by
  refine within_rest ?_
  cases cs with
  | nil => exact within_throw _ _
  | cons c cs =>
      have hdigit := isAsciiDigit_of_isPortable hcs
      have hmore : isPortable cs = true := isPortable_of_cons (isPortable_of_cons hcs)
      refine within_goOn hmore ?_
      cases hplace : placeEscape? {} c with
      | some p =>
          refine within_pure ⟨rfl, ?_⟩
          unfold placeEscape? at hplace
          split at hplace <;> cases hplace <;> rfl
      | none =>
          have hzero : (c == '0') = false := by
            rw [beq_eq_false_iff_ne]
            rintro rfl
            cases hdigit
          simp only [hzero, hdigit, Bool.false_eq_true, if_false]
          exact within_readCommonEscape htail c hmore

/-! ## Classes -/

omit htail in
/-- What is no digit is no octal digit. -/
theorem isOctalDigit_of_isAsciiDigit {c : Char} (h : Text.isAsciiDigit c = false) :
    isOctalDigit c = false := by
  rw [isOctalDigit, Bool.and_eq_false_iff, decide_eq_false_iff_not, decide_eq_false_iff_not]
  rw [Text.isAsciiDigit, Bool.and_eq_false_iff, decide_eq_false_iff_not, decide_eq_false_iff_not] at h
  refine h.imp_right fun hnine hseven => hnine ?_
  exact Char.le_trans hseven (by decide)

theorem within_readClassEscape (hcs : isPortable ('\\' :: cs) = true) :
    ReadsWithin tail cs Eq readClassEscape readClassEscape := by
  refine within_rest ?_
  cases cs with
  | nil => exact within_throw _ _
  | cons c cs =>
      have hdigit := isAsciiDigit_of_isPortable hcs
      have hmore : isPortable cs = true := isPortable_of_cons (isPortable_of_cons hcs)
      have hoctal : isOctalDigit c = false := isOctalDigit_of_isAsciiDigit hdigit
      refine within_goOn hmore ?_
      by_cases hb : (c == 'b') = true
      · simp only [hb, if_true]
        exact within_pure rfl
      · simp only [hb, hoctal, Bool.false_eq_true, if_false]
        exact (within_readCommonEscape htail c hmore).mono fun _ _ h => h.1

theorem within_readClassAtom (hcs : isPortable cs = true) :
    ReadsWithin tail cs Eq readClassAtom readClassAtom := by
  refine within_rest ?_
  cases cs with
  | nil => exact within_throw _ _
  | cons c cs =>
      by_cases hc : c = '\\'
      · subst hc
        exact within_goOn (isPortable_of_cons hcs) (within_readClassEscape htail hcs)
      · have hchar : ReadsWithin tail (c :: cs) Eq _ _ := within_goOn (isPortable_of_cons hcs)
          (within_pure (rfl : Escaped.char c.toNat = .char c.toNat))
        simpa [hc] using hchar

section Members

variable {readMore readMore' : List ClassMember → Read (List ClassMember)}

/-- Read the other end of a range, and then the members after it. -/
def readRange (first : Escaped) (done : List ClassMember)
    (readMore : List ClassMember → Read (List ClassMember)) : Read (List ClassMember) := do
  match first, ← readClassAtom with
  | .char a, .char b => if b < a then throw .badRange else readMore (.range a b :: done)
  | _, _ => throw .badRange

/-- Read a member or a range, and then the members after it. -/
def readMember (done : List ClassMember) (readMore : List ClassMember → Read (List ClassMember)) :
    Read (List ClassMember) := do
  let first ← readClassAtom
  match ← rest with
  | '-' :: ']' :: cs =>
    goOn cs
    return (.range '-'.toNat '-'.toNat :: first.toMember {} :: done).reverse
  | '-' :: cs =>
    goOn cs
    readRange first done readMore
  | _ => readMore (first.toMember {} :: done)

variable (hmore : ∀ done ds, isPortable ds = true →
  ReadsWithin tail ds Eq (readMore done) (readMore' done))

include hmore

theorem within_readRange (first : Escaped) (done : List ClassMember) (hcs : isPortable cs = true) :
    ReadsWithin tail cs Eq (readRange first done readMore) (readRange first done readMore') := by
  refine within_bind (within_readClassAtom htail hcs) ?_
  rintro second _ ds rfl hds
  split
  · split
    · exact within_throw _ _
    · exact hmore _ ds hds
  · exact within_throw _ _

theorem within_readMember (done : List ClassMember) (hcs : isPortable cs = true) :
    ReadsWithin tail cs Eq (readMember done readMore) (readMember done readMore') := by
  refine within_bind (within_readClassAtom htail hcs) ?_
  rintro first _ ds rfl hds
  refine within_rest ?_
  cases ds with
  | nil => cases htail <;> exact hmore _ [] rfl
  | cons c ds =>
      by_cases hc : c = '-'
      · subst hc
        have hds' := isPortable_of_cons hds
        have hrange : ReadsWithin tail ('-' :: ds) _ _ _ :=
          within_goOn hds' (within_readRange htail hmore first done hds')
        cases ds with
        | nil => cases htail <;> exact hrange
        | cons d ds =>
            by_cases hd : d = ']'
            · subst hd
              exact within_goOn (isPortable_of_cons hds') (within_pure rfl)
            · simpa [hd] using hrange
      · simpa [hc] using hmore _ _ hds

end Members

omit htail in
/-- Reading members starts with a bracket behind another member, or with a member. -/
theorem readMembers_succ (n : Nat) (done : List ClassMember) :
    readMembers {} (n + 1) done = (do
      match ← rest, done with
      | ']' :: cs, _ :: _ =>
        goOn cs
        return done.reverse
      | _, _ => readMember done (readMembers {} n)) :=
  rfl

/-- Members are read in the same way with more fuel. -/
theorem within_readMembers {n n' : Nat} (hn : n ≤ n') (done : List ClassMember)
    (hcs : isPortable cs = true) :
    ReadsWithin tail cs Eq (readMembers {} n done) (readMembers {} n' done) := by
  induction n generalizing n' done cs with
  | zero => exact within_throw _ _
  | succ n ih =>
      obtain ⟨n', rfl⟩ := Nat.exists_eq_add_one_of_ne_zero (by omega : n' ≠ 0)
      rw [readMembers_succ, readMembers_succ]
      have hle : n ≤ n' := by omega
      have hmember := within_readMember htail (fun done _ hds => ih hle done hds) done hcs
      refine within_rest ?_
      cases cs with
      | nil => cases htail <;> exact hmember
      | cons c cs =>
          cases done with
          | nil => simpa using hmember
          | cons first done =>
              by_cases hc : c = ']'
              · subst hc
                exact within_goOn (isPortable_of_cons hcs) (within_pure rfl)
              · simpa [hc] using hmember

theorem within_readClass (hcs : isPortable cs = true) :
    ReadsWithin tail cs Alike (readClass {}) (readClass {}) := by
  refine within_bind (within_skip htail (by decide) hcs) ?_
  rintro negated _ ds rfl hds
  refine within_rest ?_
  have hfuel : ds.length + 1 ≤ (ds ++ tail).length + 1 := by simp
  refine within_bind (within_readMembers htail hfuel [] hds) ?_
  rintro members _ es rfl _
  exact within_pure (.leaf rfl)

/-! ## Repetitions -/

omit htail in
/-- What is behind a run of characters has the tail behind it. -/
theorem drop_append_tail {test : Char → Bool} (cs : List Char) :
    (cs ++ tail).drop (cs.takeWhile test).length = cs.drop (cs.takeWhile test).length ++ tail :=
  List.drop_append_of_le_length (List.takeWhile_prefix test).length_le

/-- Bounds in braces end before the tail. -/
theorem bracedBounds?_append (cs : List Char) :
    bracedBounds? (cs ++ tail) =
      (bracedBounds? cs).map fun (low, high, after) => (low, high, after ++ tail) := by
  simp only [bracedBounds?, takeWhile_append_tail htail (rfl : Text.isAsciiDigit '|' = false),
    drop_append_tail]
  generalize cs.takeWhile Text.isAsciiDigit = low
  cases cs.drop low.length with
  | nil => cases htail <;> rfl
  | cons c ds =>
      by_cases hbrace : c = '\x7d'
      · subst hbrace
        cases low <;> rfl
      by_cases hcomma : c = ','
      · subst hcomma
        simp only [List.cons_append, takeWhile_append_tail htail (rfl : Text.isAsciiDigit '|' = false),
          drop_append_tail]
        generalize ds.takeWhile Text.isAsciiDigit = high
        cases ds.drop high.length with
        | nil => cases htail <;> rfl
        | cons d es =>
            by_cases hend : d = '\x7d'
            · subst hend
              rfl
            · simp [hend]
      · simp [hbrace, hcomma]

omit htail in
/-- What stands behind bounds in braces is the end of the text. -/
theorem suffix_of_bracedBounds? {low high after : List Char}
    (h : bracedBounds? cs = some (low, high, after)) : after <:+ cs := by
  simp only [bracedBounds?] at h
  split at h
  · rename_i heq
    split at h
    · cases h
    · cases h
      exact (List.suffix_cons _ _).trans (heq ▸ List.drop_suffix _ _)
  · rename_i more heq
    split at h
    · rename_i heq'
      cases h
      have hmore : more <:+ cs := (List.suffix_cons _ _).trans (heq ▸ List.drop_suffix _ _)
      exact ((List.suffix_cons _ _).trans (heq' ▸ List.drop_suffix _ _)).trans hmore
    · cases h
  · cases h

/-- Read bounds in braces after the opening one, if they stand here. -/
def readBraced? (cs : List Char) : Read (Option Bounds) := do
  match bracedBounds? cs with
  | none => return none
  | some (low, high, after) => goOn after; return some (← checkBounds low high)

theorem within_readBraced? (hds : isPortable ds = true) :
    ReadsWithin tail cs Eq (readBraced? ds) (readBraced? (ds ++ tail)) := by
  rw [readBraced?, readBraced?, bracedBounds?_append htail]
  cases hbounds : bracedBounds? ds with
  | none => exact within_pure rfl
  | some bounds =>
      obtain ⟨low, high, after⟩ := bounds
      refine within_goOn (isPortable_of_suffix (suffix_of_bracedBounds? hbounds) hds) ?_
      refine within_bind (within_lift _) ?_
      rintro bounds _ es rfl _
      exact within_pure rfl

theorem within_readBounds? (hcs : isPortable cs = true) :
    ReadsWithin tail cs Eq readBounds? readBounds? := by
  refine within_rest ?_
  cases cs with
  | nil => cases htail <;> exact within_pure rfl
  | cons c cs =>
      have hmore := isPortable_of_cons hcs
      by_cases hstar : c = '*'
      · subst hstar
        exact within_goOn hmore (within_pure rfl)
      by_cases hplus : c = '+'
      · subst hplus
        exact within_goOn hmore (within_pure rfl)
      by_cases hquestion : c = '?'
      · subst hquestion
        exact within_goOn hmore (within_pure rfl)
      by_cases hbrace : c = '\x7b'
      · subst hbrace
        exact within_readBraced? htail hmore
      · simpa [hstar, hplus, hquestion, hbrace] using within_pure rfl

theorem within_readGreed (hcs : isPortable cs = true) :
    ReadsWithin tail cs Eq readGreed readGreed := by
  refine within_bind (within_skip htail (by decide) hcs) ?_
  rintro isFewest _ ds rfl hds
  cases isFewest with
  | true => exact within_pure rfl
  | false =>
      refine within_bind (within_skip htail (by decide) hds) ?_
      rintro isPossessive _ es rfl _
      cases isPossessive <;> exact within_pure rfl

/-! ## Groups -/

/-- A group that can stand anywhere: it has no name and changes no flags. -/
def GroupKind.IsPlain : GroupKind → Prop
  | .capture name => name = none
  | .plain flags => flags = {}
  | .atomic | .look _ _ | .comment => True
  | _ => False

/-- The same kind of group, which can stand anywhere. -/
def SameKind (kind kind' : GroupKind) : Prop := kind = kind' ∧ kind.IsPlain

omit htail in
/-- What is dropped through a character is dropped in front of the tail, too. -/
theorem dropThrough_append {stop : Char} (hstop : stop ≠ '\\') {after : List Char}
    (h : dropThrough stop cs = some after) (tail : List Char) :
    dropThrough stop (cs ++ tail) = some (after ++ tail) ∧ after <:+ cs := by
  induction cs using dropThrough.induct stop with
  | case1 => cases h
  | case2 c cs ih =>
      rw [dropThrough] at h
      obtain ⟨hdrop, hsuffix⟩ := ih h
      exact ⟨hdrop, hsuffix.trans ((List.suffix_cons _ _).trans (List.suffix_cons _ _))⟩
  | case3 cs hnot =>
      obtain rfl : cs = after := by simpa [dropThrough, hstop] using h
      exact ⟨by simp [dropThrough, hstop], List.suffix_cons _ _⟩
  | case4 c cs hnot hc ih =>
      have hback : c ≠ '\\' := by
        -- A backslash here would be the last character, and the other one would be missing.
        rintro rfl
        cases cs with
        | nil => simp [dropThrough, hc] at h
        | cons d cs => exact hnot d cs rfl rfl
      have hcs : dropThrough stop cs = some after := by simpa [dropThrough, hback, hc] using h
      obtain ⟨hdrop, hsuffix⟩ := ih hcs
      exact ⟨by simpa [dropThrough, hback, hc] using hdrop, hsuffix.trans (List.suffix_cons _ _)⟩

omit htail in
/-- A comment ends in front of the tail. -/
theorem within_comment (hds : isPortable ds = true) :
    ReadsWithin tail cs SameKind
      (match dropThrough ')' ds with
        | some after => goOn after >>= fun _ => return .comment
        | none => throw .missingParenthesis)
      (match dropThrough ')' (ds ++ tail) with
        | some after => goOn after >>= fun _ => return .comment
        | none => throw .missingParenthesis) := by
  cases hdrop : dropThrough ')' ds with
  | none => exact within_throw _ _
  | some after =>
      obtain ⟨happend, hsuffix⟩ := dropThrough_append (by decide) hdrop tail
      rw [happend]
      exact within_goOn (isPortable_of_suffix hsuffix hds) (within_pure ⟨rfl, trivial⟩)

omit htail in
/-- A group without name and flags starts in one of a few ways. -/
theorem cases_of_startsPlainGroup (h : startsPlainGroup cs = true) :
    (∃ c more, cs = c :: more ∧ c ∈ [':', '=', '!', '>', '#']) ∨
      ∃ c more, cs = '<' :: c :: more ∧ c ∈ ['=', '!'] := by
  unfold startsPlainGroup at h
  split at h
  · exact .inr ⟨_, _, rfl, by simpa using h⟩
  · exact .inl ⟨_, _, rfl, by simpa [or_assoc] using h⟩
  · cases h

theorem within_readGroupKind (hcs : isPortable ('(' :: cs) = true) :
    ReadsWithin tail cs SameKind (readGroupKind {}) (readGroupKind {}) := by
  refine within_rest ?_
  cases cs with
  | nil => cases htail <;> exact within_pure ⟨rfl, rfl⟩
  | cons c cs =>
      by_cases hc : c = '?'
      · subst hc
        have hrest := isPortable_of_cons (isPortable_of_cons hcs)
        rw [isPortable, Bool.and_eq_true] at hcs
        rcases cases_of_startsPlainGroup hcs.1 with ⟨d, ds, rfl, hd⟩ | ⟨d, ds, rfl, hd⟩
        · have hds := isPortable_of_cons hrest
          simp only [List.mem_cons, List.not_mem_nil, or_false] at hd
          rcases hd with rfl | rfl | rfl | rfl | rfl
          · exact within_goOn hds (within_pure ⟨rfl, rfl⟩)
          · exact within_goOn hds (within_pure ⟨rfl, trivial⟩)
          · exact within_goOn hds (within_pure ⟨rfl, trivial⟩)
          · exact within_goOn hds (within_pure ⟨rfl, trivial⟩)
          · exact within_comment hds
        · have hds := isPortable_of_cons (isPortable_of_cons hrest)
          simp only [List.mem_cons, List.not_mem_nil, or_false] at hd
          rcases hd with rfl | rfl <;> exact within_goOn hds (within_pure ⟨rfl, trivial⟩)
      · simpa [hc] using within_pure ⟨rfl, rfl⟩

end ApiLint.Pattern
