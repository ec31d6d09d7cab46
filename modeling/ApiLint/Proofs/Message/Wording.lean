import ApiLint.Message.Wording
import Mathlib.Logic.Basic

/-!
# Laws of wordings

The normal form of a message is determined place by place: a single quote becomes a double quote,
the three letters of each shouted negation become small, and every other character stays.  The two
replacements do not meddle with each other, and no new negation arises where an old one ended.

Main results:

- Theorem `isQuietForm_normalizeChars`: what the normal form shows at each place.
- Theorem `normalizeChars_eq_self`: a text without single quotes and shouted negations is its own
  normal form.
- Theorem `isQuietForm_iff_eq_normalize`: the wording of a message is its only quiet form.
-/

namespace ApiLint.Wording

/-- A word stands in a text at a place. -/
def StandsAt (word cs : List Char) (i : Nat) : Prop := word <+: cs.drop i

/-- A negation as it is shouted. -/
def shout : List Char := ['N', 'O', 'T']

/-- A negation as it is shown. -/
def whisper : List Char := ['n', 'o', 't']

/-- A place belongs to a shouted negation. -/
def IsShouted (cs : List Char) (i : Nat) : Prop :=
  ∃ start k, StandsAt shout cs start ∧ k < shout.length ∧ i = start + k

/--
A text holds no single quotes and no shouted negations, and differs from another one only where that
has them: by double quotes and by negations in small letters.
-/
structure IsQuietForm (cs quiet : List Char) : Prop where
  length : quiet.length = cs.length
  noQuote : '\'' ∉ quiet
  noShout : ¬ shout <:+: quiet
  quote : ∀ i : Nat, cs[i]? = some '\'' → quiet[i]? = some '"'
  negation : ∀ i, StandsAt shout cs i → StandsAt whisper quiet i
  other : ∀ i : Nat, cs[i]? ≠ some '\'' → ¬ IsShouted cs i → quiet[i]? = cs[i]?

variable {cs quiet others : List Char} {c : Char} {i : Nat}

/-! ## Words in texts -/

/-- Where a word stands, its letters stand one after the other. -/
theorem standsAt_iff {word : List Char} :
    StandsAt word cs i ↔ ∀ k (hk : k < word.length), cs[i + k]? = some word[k] := by
  simp only [StandsAt, List.prefix_iff_getElem?, List.getElem?_drop]

/-- A word that is part of a text stands in it somewhere. -/
theorem exists_standsAt_of_infix {word : List Char} (h : word <:+: cs) : ∃ i, StandsAt word cs i := by
  obtain ⟨before, after, rfl⟩ := h
  refine ⟨before.length, ?_⟩
  rw [StandsAt, List.append_assoc, List.drop_left]
  exact List.prefix_append word after

/-! ## Negations -/

/-- Quiet negations have as many letters as shouted ones. -/
theorem length_quietNegation (cs : List Char) : (quietNegation cs).length = cs.length := by
  fun_induction quietNegation cs with
  | case1 rest ih => simp [ih]
  | case2 c rest _ ih => simp [ih]
  | case3 => rfl

/-- Every shouted negation becomes quiet where it stands. -/
theorem standsAt_quietNegation (h : StandsAt shout cs i) : StandsAt whisper (quietNegation cs) i := by
  fun_induction quietNegation cs generalizing i with
  | case1 rest ih =>
      match i with
      | 0 => exact List.prefix_append whisper (quietNegation rest)
      | 1 => cases standsAt_iff.mp h 0 (by decide)
      | 2 => cases standsAt_iff.mp h 0 (by decide)
      | j + 3 => exact ih h
  | case2 c rest hother ih =>
      cases i with
      | zero =>
          obtain ⟨after, hafter⟩ := h
          obtain ⟨rfl, rfl⟩ := List.cons.inj hafter
          exact absurd rfl (hother after rfl)
      | succ j => exact ih h
  | case3 => cases standsAt_iff.mp h 0 (by decide)

/-- No other place changes. -/
theorem getElem?_quietNegation (h : ¬ IsShouted cs i) : (quietNegation cs)[i]? = cs[i]? := by
  fun_induction quietNegation cs generalizing i with
  | case1 rest ih =>
      have hstart : StandsAt shout ('N' :: 'O' :: 'T' :: rest) 0 := List.prefix_append shout rest
      match i with
      | 0 => exact absurd ⟨0, 0, hstart, by decide, rfl⟩ h
      | 1 => exact absurd ⟨0, 1, hstart, by decide, rfl⟩ h
      | 2 => exact absurd ⟨0, 2, hstart, by decide, rfl⟩ h
      | j + 3 =>
          refine ih fun ⟨start, k, hrest, hk, hj⟩ => h ?_
          exact ⟨start + 3, k, hrest, hk, by omega⟩
  | case2 c rest _ ih =>
      cases i with
      | zero => rfl
      | succ j =>
          refine ih fun ⟨start, k, hrest, hk, hj⟩ => h ?_
          exact ⟨start + 1, k, hrest, hk, by omega⟩
  | case3 => rfl

/-- A character that no quiet negation has was there before. -/
theorem getElem?_of_notMem_whisper (hc : c ∉ whisper) (h : (quietNegation cs)[i]? = some c) :
    cs[i]? = some c := by
  by_cases hshouted : IsShouted cs i
  · obtain ⟨start, k, hstart, hk, rfl⟩ := hshouted
    have hletter := standsAt_iff.mp (standsAt_quietNegation hstart) k hk
    rw [h, Option.some.injEq] at hletter
    have hsmall : c ∈ whisper := hletter ▸ List.getElem_mem (l := whisper) hk
    exact absurd hsmall hc
  · rwa [getElem?_quietNegation hshouted] at h

/-- No shouted negation is left, nor does a new one arise. -/
theorem not_standsAt_quietNegation (i : Nat) : ¬ StandsAt shout (quietNegation cs) i := by
  intro h
  have hcapital : ∀ c ∈ shout, c ∉ whisper := by simp [shout, whisper]
  have hbefore : StandsAt shout cs i := standsAt_iff.mpr fun k hk =>
    getElem?_of_notMem_whisper (hcapital _ (List.getElem_mem hk)) (standsAt_iff.mp h k hk)
  have hsmall := standsAt_iff.mp (standsAt_quietNegation hbefore) 0 (by decide)
  rw [standsAt_iff.mp h 0 (by decide)] at hsmall
  cases hsmall

/-! ## Quotes -/

/-- A character that is no quote stands where it stood before. -/
theorem getElem?_map_unifyQuote (hsingle : c ≠ '\'') (hdouble : c ≠ '"') :
    (cs.map unifyQuote)[i]? = some c ↔ cs[i]? = some c := by
  rw [List.getElem?_map, Option.map_eq_some_iff]
  constructor
  · rintro ⟨d, hd, hunify⟩
    rw [unifyQuote] at hunify
    split at hunify
    · exact absurd hunify.symm hdouble
    · rwa [← hunify]
  · intro h
    exact ⟨c, h, if_neg hsingle⟩

/-- Quotes do not matter for negations. -/
theorem standsAt_map_unifyQuote : StandsAt shout (cs.map unifyQuote) i ↔ StandsAt shout cs i := by
  have hletter : ∀ c ∈ shout, c ≠ '\'' ∧ c ≠ '"' := by simp [shout]
  rw [standsAt_iff, standsAt_iff]
  refine forall₂_congr fun k hk => ?_
  obtain ⟨hsingle, hdouble⟩ := hletter _ (List.getElem_mem hk)
  exact getElem?_map_unifyQuote hsingle hdouble

theorem isShouted_map_unifyQuote : IsShouted (cs.map unifyQuote) i ↔ IsShouted cs i := by
  simp only [IsShouted, standsAt_map_unifyQuote]

/-- A quote belongs to no negation. -/
theorem not_isShouted_of_quote (h : cs[i]? = some '\'') : ¬ IsShouted cs i := by
  rintro ⟨start, k, hstart, hk, rfl⟩
  have hquote : '\'' ∉ shout := by decide
  rw [standsAt_iff.mp hstart k hk, Option.some.injEq] at h
  exact hquote (h ▸ List.getElem_mem hk)

/-- No single quote is left. -/
theorem quote_notMem_map_unifyQuote (cs : List Char) : '\'' ∉ cs.map unifyQuote := by
  rw [List.mem_map]
  rintro ⟨c, -, hc⟩
  rw [unifyQuote] at hc
  split at hc
  · cases hc
  · contradiction

/-! ## Normal forms -/

/-- The normal form is quiet. -/
theorem isQuietForm_normalizeChars (cs : List Char) : IsQuietForm cs (normalizeChars cs) where
  length := by rw [normalizeChars, length_quietNegation, List.length_map]
  noQuote := by
    intro hmem
    obtain ⟨i, hi⟩ := List.mem_iff_getElem?.mp hmem
    have hbefore := getElem?_of_notMem_whisper (by decide) hi
    exact quote_notMem_map_unifyQuote cs (List.mem_of_getElem? hbefore)
  noShout h := by
    obtain ⟨i, hi⟩ := exists_standsAt_of_infix h
    exact not_standsAt_quietNegation i hi
  quote i h := by
    have hother : ¬ IsShouted (cs.map unifyQuote) i := by
      rw [isShouted_map_unifyQuote]
      exact not_isShouted_of_quote h
    rw [normalizeChars, getElem?_quietNegation hother, List.getElem?_map, h]
    rfl
  negation i h := standsAt_quietNegation (standsAt_map_unifyQuote.mpr h)
  other i hquote hshouted := by
    rw [normalizeChars, getElem?_quietNegation (isShouted_map_unifyQuote.not.mpr hshouted),
      List.getElem?_map]
    cases hc : cs[i]? with
    | none => rfl
    | some c =>
        have hne : c ≠ '\'' := by
          rintro rfl
          exact hquote hc
        rw [Option.map_some, unifyQuote, if_neg hne]

/-- A text has only one quiet form. -/
theorem IsQuietForm.unique (h : IsQuietForm cs quiet) (hothers : IsQuietForm cs others) :
    others = quiet := by
  apply List.ext_getElem?
  intro i
  by_cases hquote : cs[i]? = some '\''
  · rw [h.quote i hquote, hothers.quote i hquote]
  · by_cases hshouted : IsShouted cs i
    · obtain ⟨start, k, hstart, hk, rfl⟩ := hshouted
      rw [standsAt_iff.mp (h.negation start hstart) k hk,
        standsAt_iff.mp (hothers.negation start hstart) k hk]
    · rw [h.other i hquote hshouted, hothers.other i hquote hshouted]

/-- A text without single quotes and shouted negations is its own normal form. -/
theorem normalizeChars_eq_self (hquote : '\'' ∉ cs) (hshout : ¬ shout <:+: cs) : normalizeChars cs = cs := by
  have hnone : ∀ i, ¬ StandsAt shout cs i := by
    intro i hi
    exact hshout (hi.isInfix.trans (List.drop_suffix i cs).isInfix)
  have hself : IsQuietForm cs cs := {
    length := rfl
    noQuote := hquote
    noShout := hshout
    quote := fun i h => absurd (List.mem_of_getElem? h) hquote
    negation := fun i h => absurd h (hnone i)
    other := fun i _ _ => rfl }
  exact hself.unique (isQuietForm_normalizeChars cs)

/--
The wording of a message is its only quiet form: as long as the message, without single quotes and
shouted negations, and different only where the message has them.  To bring a wording into its
normal form changes nothing, and a property named in front of it is shown as it is.
-/
theorem isQuietForm_iff_eq_normalize (message : String) :
    (∀ quiet : String, IsQuietForm message.toList quiet.toList ↔ quiet = normalize none (.str message)) ∧
      normalize none (.str (normalize none (.str message))) = normalize none (.str message) ∧
      ∀ name, normalize (some name) (.str message) =
        "\"" ++ name ++ "\" property " ++ normalize none (.str message) := by
  have hchars : (normalize none (.str message)).toList = normalizeChars message.toList :=
    String.toList_ofList
  have hform := isQuietForm_normalizeChars message.toList
  refine ⟨fun quiet => ⟨fun h => ?_, ?_⟩, ?_, fun name => rfl⟩
  · rw [← String.toList_inj, hchars]
    exact hform.unique h
  · rintro rfl
    rwa [hchars]
  · have hself := normalizeChars_eq_self hform.noQuote hform.noShout
    rw [← String.toList_inj, hchars, normalize, normalizeText, String.toList_ofList, hchars, hself]

/-- Letters that are left over beside a negation, or parted by a quote, make no new one. -/
example : normalize (some "it's NOT") (.str "NNOTOT N'OT") = "\"it's NOT\" property NnotOT N\"OT" := by
  decide

end ApiLint.Wording
