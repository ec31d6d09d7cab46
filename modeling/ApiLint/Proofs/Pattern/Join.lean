import ApiLint.Proofs.Pattern.Sequence
import Mathlib.Data.List.Forall2

/-!
# Joined patterns

Portable patterns with bars between them are one pattern, and it is found where any of them is
found.  The reading of the joined text follows the reading of each pattern on its own up to its end,
and goes on with the next one behind the bar.

Main results:

- Theorem `goesOn_bar`: behind a bar another pattern is read as a further alternative.
- Theorem `exists_read_intercalate`: joined portable patterns are a pattern that is found where one
  of them is.
-/

namespace ApiLint.Pattern

/-! ## The end of reading -/

/-- What is wrong with a text that has been read. -/
def Reading.fault? (r : Reading) : Option PatternError :=
  if r.flags.asciiOnly && r.isUnlimited then some .incompatibleFlags
  else if !r.rest.isEmpty then some .unbalancedParenthesis
  else if r.conditions.any (r.widths.length < ·) then some .badGroupReference
  else if r.hasVariableLookBehind then some .variableLookBehind
  else none

/-- A text is a pattern if it can be read and nothing is wrong at the end. -/
theorem read_of_run {s : String} {p : Pattern} {r : Reading}
    (hrun : readAlternatives (3 * s.toList.length + 3) true {} (.start s.toList) = .ok (p, r)) :
    read s = match r.fault? with
      | some e => .error e
      | none => .ok p := by
  simp only [read, StateT.run, hrun, Reading.fault?]
  dsimp only [bind, Except.bind]
  cases r.flags.asciiOnly && r.isUnlimited with
  | true => rfl
  | false =>
      cases r.rest.isEmpty with
      | false => rfl
      | true =>
          cases r.conditions.any (r.widths.length < ·) with
          | true => rfl
          | false => cases r.hasVariableLookBehind <;> rfl

/-- A text that is a pattern has been read to its end. -/
theorem exists_of_read_eq_ok {s : String} {p : Pattern} (h : read s = .ok p) :
    ∃ r, readAlternatives (3 * s.toList.length + 3) true {} (.start s.toList) = .ok (p, r) ∧
      r.rest = [] ∧ r.hasVariableLookBehind = false := by
  cases hrun : readAlternatives (3 * s.toList.length + 3) true {} (.start s.toList) with
  | error e =>
      simp only [read, StateT.run, hrun] at h
      cases h
  | ok result =>
      obtain ⟨q, r⟩ := result
      rw [read_of_run hrun] at h
      cases hfault : r.fault? with
      | some e =>
          rw [hfault] at h
          cases h
      | none =>
          rw [hfault] at h
          cases h
          refine ⟨r, rfl, ?_⟩
          simp only [Reading.fault?] at hfault
          split at hfault
          · cases hfault
          split at hfault
          · cases hfault
          rename_i hrest
          split at hfault
          · cases hfault
          split at hfault
          · cases hfault
          rename_i hbehind
          exact ⟨by simpa using hrest, by simpa using hbehind⟩

/-- A state of reading in which nothing is known that could be wrong at the end. -/
structure Reading.IsPlain (r : Reading) : Prop where
  flags : r.flags = {}
  lookBehind : r.hasVariableLookBehind = false
  conditions : r.conditions = []
  isUnlimited : r.isUnlimited = false

theorem isPlain_start (cs : List Char) : (Reading.start cs).IsPlain := ⟨rfl, rfl, rfl, rfl⟩

/-- At the end of the text nothing is wrong in a plain state. -/
theorem Reading.IsPlain.fault?_eq_none {r : Reading} (h : r.IsPlain) (hrest : r.rest = []) :
    r.fault? = none := by
  simp [Reading.fault?, h.isUnlimited, h.conditions, h.lookBehind, hrest]

/-! ## Going on behind a pattern -/

variable {tail : List Char} {found : Array Char → Nat → Bool}

/--
Wherever reading comes to this text, it goes on to the end, and the alternatives that it adds match
in the given places.
-/
def GoesOn (tail : List Char) (found : Array Char → Nat → Bool) : Prop :=
  ∀ (n : Nat) (first : Pattern) (r : Reading), 3 * tail.length + 1 ≤ n → r.rest = tail → r.IsPlain →
    ∃ p s, readMoreAlternatives n true {} first r = .ok (p, s) ∧ s.rest = [] ∧ s.IsPlain ∧
      ∀ text i, p.matchesAt text i = (first.matchesAt text i || found text i)

/-- At the end no alternatives are added. -/
theorem goesOn_nil : GoesOn [] fun _ _ => false := by
  intro n first r hn hrest hplain
  obtain ⟨n, rfl⟩ := Nat.exists_eq_add_one_of_ne_zero (by omega : n ≠ 0)
  refine ⟨first, r, run_readMoreAlternatives_of_head?_ne (by rw [hrest]; decide), hrest, hplain, ?_⟩
  intro text i
  rw [Bool.or_false]

/-- The states in front of a tail and at the end of a pattern, where the tail follows. -/
theorem Within.rest_eq_tail {r r' : Reading} (h : Within tail r r') (hrest : r.rest = []) :
    r'.rest = tail := by
  rw [h.rest, hrest, List.nil_append]

theorem Within.isPlain {r r' : Reading} (h : Within tail r r') (hbehind : r.hasVariableLookBehind = false) :
    r'.IsPlain :=
  ⟨h.flags', by rw [h.lookBehind, hbehind], h.conditions, h.isUnlimited⟩

/-- Behind the alternatives of a pattern that is read to its end, reading goes on with the tail. -/
theorem exists_readMoreAlternatives (htail : IsTail tail) (hgoes : GoesOn tail found) {n n' : Nat}
    (hn : n + 3 * tail.length ≤ n') {first first' p : Pattern} (hfirst : Alike first first')
    {r r' s : Reading} (hwithin : Within tail r r')
    (hrun : readMoreAlternatives n true {} first r = .ok (p, s)) (hrest : s.rest = [])
    (hbehind : s.hasVariableLookBehind = false) :
    ∃ p' s', readMoreAlternatives n' true {} first' r' = .ok (p', s') ∧ s'.rest = [] ∧ s'.IsPlain ∧
      ∀ text i, p'.matchesAt text i = (p.matchesAt text i || found text i) := by
  induction n generalizing n' first first' p r r' with
  | zero => cases hrun
  | succ n ih =>
      by_cases hbar : r.rest.head? = some '|'
      · obtain ⟨ds, hds, hds', hportable, hafter⟩ := hwithin.exists_of_bar hbar
        obtain ⟨n', rfl⟩ := Nat.exists_eq_add_one_of_ne_zero (by omega : n' ≠ 0)
        rw [run_readMoreAlternatives_of_rest hds hwithin.flags] at hrun
        rw [run_readMoreAlternatives_of_rest hds' hwithin.flags']
        obtain ⟨second, t, hsecond, hmore⟩ := run_bind_eq_ok_iff.mp hrun
        obtain ⟨q, u, hq, hp⟩ := run_bind_eq_ok_iff.mp hmore
        cases hp
        have hle : n ≤ n' := by omega
        obtain ⟨second', t', hsecond', halike, ht⟩ :=
          within_readSequence htail hle false false hportable _ _ _ _ hafter rfl hsecond
        have hfuel : n + 3 * tail.length ≤ n' := by omega
        obtain ⟨q', s', hq', hend, hplain, hmatches⟩ := ih hfuel halike ht hq
        refine ⟨.alt first' q', s', ?_, hend, hplain, fun text i => ?_⟩
        · exact run_bind_eq_ok_iff.mpr ⟨second', t', hsecond', run_bind_eq_ok_iff.mpr ⟨q', s', hq', rfl⟩⟩
        · rw [matchesAt_alt, matchesAt_alt, hmatches, hfirst.matchesAt_eq, Bool.or_assoc]
      · rw [run_readMoreAlternatives_of_head?_ne hbar] at hrun
        cases hrun
        obtain ⟨p', s', hp', hend, hplain, hmatches⟩ :=
          hgoes n' first' r' (by omega) (hwithin.rest_eq_tail hrest) (hwithin.isPlain hbehind)
        refine ⟨p', s', hp', hend, hplain, fun text i => ?_⟩
        rw [hmatches, hfirst.matchesAt_eq]

/-- A pattern in front of a tail is read to the end of all. -/
theorem exists_readAlternatives (htail : IsTail tail) (hgoes : GoesOn tail found) {cs : List Char}
    (hcs : isPortable cs = true) {p : Pattern} {s : Reading}
    (hrun : readAlternatives (3 * cs.length + 3) true {} (.start cs) = .ok (p, s)) (hrest : s.rest = [])
    (hbehind : s.hasVariableLookBehind = false) {n : Nat} (hn : 3 * (cs ++ tail).length + 2 ≤ n)
    (isStart : Bool) {r : Reading} (hr : r.rest = cs ++ tail) (hplain : r.IsPlain) :
    ∃ p' s', (readSequence n isStart {} .start >>= fun first => readMoreAlternatives n true {} first) r =
        .ok (p', s') ∧ s'.rest = [] ∧ s'.IsPlain ∧
      ∀ text i, p'.matchesAt text i = (p.matchesAt text i || found text i) := by
  rw [List.length_append] at hn
  have hwithin : Within tail (.start cs) r :=
    { rest := hr, portable := hcs, flags := rfl, flags' := hplain.flags, lookBehind := hplain.lookBehind
      conditions := hplain.conditions, isUnlimited := hplain.isUnlimited }
  obtain ⟨first, t, hfirst, hmore⟩ := run_bind_eq_ok_iff.mp
    (show (readSequence (3 * cs.length + 2) true {} .start >>= fun first =>
      readMoreAlternatives (3 * cs.length + 2) true {} first) (.start cs) = .ok (p, s) from hrun)
  have hle : 3 * cs.length + 2 ≤ n := by omega
  obtain ⟨first', t', hfirst', halike, ht⟩ :=
    within_readSequence htail hle true isStart hcs _ _ _ _ hwithin rfl hfirst
  have hfuel : 3 * cs.length + 2 + 3 * tail.length ≤ n := by omega
  obtain ⟨p', s', hp', hend, hdone, hmatches⟩ :=
    exists_readMoreAlternatives htail hgoes hfuel halike ht hmore hrest hbehind
  exact ⟨p', s', run_bind_eq_ok_iff.mpr ⟨first', t', hfirst', hp'⟩, hend, hdone, hmatches⟩

/-- Behind a bar another pattern is read as a further alternative. -/
theorem goesOn_bar (htail : IsTail tail) (hgoes : GoesOn tail found) {s : String}
    (hs : isPortable s.toList = true) {p : Pattern} (hp : read s = .ok p) :
    GoesOn ('|' :: (s.toList ++ tail)) fun text i => p.matchesAt text i || found text i := by
  intro n first r hn hrest hplain
  obtain ⟨t, hrun, hend, hbehind⟩ := exists_of_read_eq_ok hp
  rw [List.length_cons] at hn
  obtain ⟨n, rfl⟩ := Nat.exists_eq_add_one_of_ne_zero (by omega : n ≠ 0)
  rw [run_readMoreAlternatives_of_rest hrest hplain.flags]
  have hafter : ({ r with rest := s.toList ++ tail } : Reading).IsPlain :=
    ⟨hplain.flags, hplain.lookBehind, hplain.conditions, hplain.isUnlimited⟩
  obtain ⟨q, u, hq, hdone, hplain', hmatches⟩ :=
    exists_readAlternatives htail hgoes hs hrun hend hbehind (by omega : _ ≤ n) false rfl hafter
  obtain ⟨second, v, hsecond, hmore⟩ := run_bind_eq_ok_iff.mp hq
  refine ⟨.alt first q, u, ?_, hdone, hplain', fun text i => ?_⟩
  · exact run_bind_eq_ok_iff.mpr ⟨second, v, hsecond, run_bind_eq_ok_iff.mpr ⟨q, u, hmore, rfl⟩⟩
  · rw [matchesAt_alt, hmatches]

/-! ## Joined patterns -/

/-- The characters of texts behind the first one, each behind a bar. -/
def barred (texts : List String) : List Char := texts.flatMap fun s => '|' :: s.toList

theorem toList_intercalate_bar (s : String) (texts : List String) :
    ("|".intercalate (s :: texts)).toList = s.toList ++ barred texts := by
  induction texts generalizing s with
  | nil => simp [barred]
  | cons t texts ih =>
      rw [String.intercalate_cons_cons, String.toList_append, ih]
      simp [barred]

theorem isTail_barred (texts : List String) : IsTail (barred texts) := by
  cases texts with
  | nil => exact .nil
  | cons s texts => exact .bar _

/-- Is one of the patterns that texts write found at a place? -/
theorem goesOn_barred {texts : List String} (htexts : ∀ s ∈ texts, isPortable s.toList = true)
    {patterns : List Pattern} (hpatterns : List.Forall₂ (fun s p => read s = .ok p) texts patterns) :
    GoesOn (barred texts) fun text i => patterns.any fun p => p.matchesAt text i := by
  induction hpatterns with
  | nil => exact goesOn_nil
  | @cons s p texts patterns hp _ ih =>
      rw [List.forall_mem_cons] at htexts
      exact goesOn_bar (isTail_barred texts) (ih htexts.2) htexts.1 hp

/-- A pattern that matches where one of several patterns does is found where one of them is. -/
theorem foundIn_of_matchesAt {p : Pattern} {patterns : List Pattern}
    (h : ∀ text i, p.matchesAt text i = patterns.any fun q => q.matchesAt text i) (s : String) :
    p.foundIn s = patterns.any fun q => q.foundIn s := by
  rw [Bool.eq_iff_iff]
  simp only [foundIn, List.any_eq_true, h]
  constructor
  · rintro ⟨i, hi, q, hq, hmatch⟩
    exact ⟨q, hq, i, hi, hmatch⟩
  · rintro ⟨q, hq, i, hi, hmatch⟩
    exact ⟨i, hi, q, hq, hmatch⟩

/-- Joined portable patterns are a pattern that is found where one of them is. -/
theorem exists_read_intercalate {s : String} {texts : List String}
    (htexts : ∀ t ∈ s :: texts, isPortable t.toList = true) {patterns : List Pattern}
    (hpatterns : List.Forall₂ (fun t p => read t = .ok p) (s :: texts) patterns) :
    ∃ p, read ("|".intercalate (s :: texts)) = .ok p ∧
      ∀ text, p.foundIn text = patterns.any fun q => q.foundIn text := by
  cases hpatterns with
  | @cons _ q _ others hq hothers =>
      rw [List.forall_mem_cons] at htexts
      obtain ⟨t, hrun, hend, hbehind⟩ := exists_of_read_eq_ok hq
      obtain ⟨p, r, hp, hrest, hplain, hmatches⟩ :=
        exists_readAlternatives (isTail_barred texts) (goesOn_barred htexts.2 hothers) htexts.1 hrun hend
          hbehind (Nat.le_refl _) true rfl (isPlain_start _)
      rw [← toList_intercalate_bar] at hp
      refine ⟨p, ?_, foundIn_of_matchesAt hmatches⟩
      rw [read_of_run hp, hplain.fault?_eq_none hrest]

end ApiLint.Pattern
