import ApiLint.Settings
import ApiLint.Proofs.Keyed
import Mathlib.Data.List.Forall2
import Mathlib.Data.List.Induction
import Mathlib.Data.List.Nodup
import Mathlib.Data.List.TakeWhile

/-!
# Laws of schema options

An option mentions a format and a path, or it cannot be used, for one of three reasons.  Options
that can all be used are folded into one path for each format that is mentioned: the first mention
gives its place, the last one its path.  The first option that cannot be used spoils them all.

Main results:

- Theorems `parseOption_eq_ok_iff` and `parseOption_eq_error_iff`: what a single option says, and why
  it cannot be used.
- Theorem `isFold_putMentions`: putting mentions one after the other folds them.
- Theorem `IsFold.unique`: mentions are folded in one way only.
- Theorem `ofOptions_isFold`: what options make, and when they make nothing.
-/

namespace ApiLint

namespace Text

/-! ## Blanks -/

/-- Nothing is left of a text after trimming exactly when it is blank throughout. -/
theorem trimChars_eq_nil_iff {cs : List Char} : trimChars cs = [] ↔ ∀ c ∈ cs, isBlank c = true := by
  have hstart : ∀ ds : List Char, trimStart ds = [] ↔ ∀ c ∈ ds, isBlank c = true :=
    fun ds => List.dropWhile_eq_nil_iff
  rw [trimChars, List.reverse_eq_nil_iff, hstart, ← hstart cs]
  constructor
  · intro hblank
    -- What is left at the start does not begin with a blank.
    by_contra hne
    have hhead : isBlank ((trimStart cs).head hne) = false := List.head_dropWhile_not isBlank hne
    rw [hblank _ (List.mem_reverse.mpr (List.head_mem hne))] at hhead
    cases hhead
  · intro hnil c hmem
    rw [hnil] at hmem
    cases hmem

end Text

namespace Variant

/-! ## Formats by their tags -/

theorem ofTag?_eq_some_iff {name : String} {v : Variant} : ofTag? name = some v ↔ v.tag = name := by
  constructor
  · intro h
    have htag := List.find?_some h
    exact of_decide_eq_true htag
  · rintro rfl
    cases v <;> rfl

/-- A name is accepted as a format exactly when trimming leaves its tag. -/
theorem ofName_eq_ok_iff {name : String} {v : Variant} : ofName name = .ok v ↔ Text.trim name = v.tag := by
  rw [eq_comm (a := Text.trim name), ← ofTag?_eq_some_iff, ofName]
  cases ofTag? (Text.trim name) <;> simp

theorem ofName_eq_error_iff {name : String} {e : SettingsError} :
    ofName name = .error e ↔ e = .unknownVariant name ∧ ∀ v : Variant, Text.trim name ≠ v.tag := by
  have hnone : ofTag? (Text.trim name) = none ↔ ∀ v : Variant, Text.trim name ≠ v.tag := by
    rw [Option.eq_none_iff_forall_ne_some]
    exact forall_congr' fun v => not_congr (ofTag?_eq_some_iff.trans eq_comm)
  rw [← hnone, ofName]
  cases ofTag? (Text.trim name) <;> simp [eq_comm]

end Variant

namespace Settings

/-- An option is parted by its first equals sign into a name and a path. -/
def IsParted (option name path : String) : Prop := option = name ++ "=" ++ path ∧ '=' ∉ name.toList

/-- A text has no characters but blanks. -/
def IsBlankText (s : String) : Prop := ∀ c ∈ s.toList, Text.isBlank c = true

/-- An option mentions a format with a path; blanks around its name and the path do not count. -/
def Mentions (option : String) (v : Variant) (p : FilePath) : Prop :=
  ∃ name path, IsParted option name path ∧ ¬ IsBlankText path ∧ Text.trim name = v.tag ∧
    p = .ofText (Text.trim path)

/-- An option cannot be used: it has no equals sign, no path behind it, or no format in front of it. -/
def IsUnusable (option : String) : Prop :=
  '=' ∉ option.toList ∨
    ∃ name path, IsParted option name path ∧ (IsBlankText path ∨ ∀ v : Variant, Text.trim name ≠ v.tag)

/-- Why an option cannot be used; a missing path counts more than an unknown format. -/
inductive IsRefused (option : String) : SettingsError → Prop where
  | noSign : '=' ∉ option.toList → IsRefused option (.badOption option)
  | noPath {name path : String} :
    IsParted option name path → IsBlankText path → IsRefused option (.badOption option)
  | noVariant {name path : String} :
    IsParted option name path → ¬ IsBlankText path → (∀ v : Variant, Text.trim name ≠ v.tag) →
      IsRefused option (.unknownVariant name)

variable {option name path : String} {v : Variant} {p : FilePath} {e : SettingsError}

/-! ## Single options -/

theorem isBlankText_iff : IsBlankText path ↔ (Text.trimChars path.toList).isEmpty = true := by
  rw [List.isEmpty_iff, Text.trimChars_eq_nil_iff]
  exact Iff.rfl

/-- What is parted in front of and behind its first equals sign. -/
theorem isParted_iff : IsParted option name path ↔
    option.toList.takeWhile (· != '=') = name.toList ∧
      option.toList.dropWhile (· != '=') = '=' :: path.toList := by
  have hsign : (name ++ "=" ++ path).toList = name.toList ++ '=' :: path.toList := by
    rw [String.toList_append, String.toList_append, List.append_assoc]
    rfl
  constructor
  · rintro ⟨rfl, hname⟩
    have hall : ∀ c ∈ name.toList, (c != '=') = true := by
      intro c hc
      rw [bne_iff_ne]
      rintro rfl
      exact hname hc
    rw [hsign, List.takeWhile_append_of_pos hall, List.dropWhile_append_of_pos hall]
    simp
  · rintro ⟨hname, hpath⟩
    constructor
    · rw [← String.toList_inj, hsign, ← hname, ← hpath, List.takeWhile_append_dropWhile]
    · intro hmem
      rw [← hname] at hmem
      have hne := List.mem_takeWhile_imp hmem
      simp at hne

/-- An option with an equals sign is parted by the first one. -/
theorem exists_isParted (h : '=' ∈ option.toList) : ∃ name path, IsParted option name path := by
  have hne : option.toList.dropWhile (· != '=') ≠ [] := by
    intro hnil
    have hsign := List.dropWhile_eq_nil_iff.mp hnil '=' h
    simp at hsign
  obtain ⟨c, rest, hrest⟩ := List.exists_cons_of_ne_nil hne
  have hc := List.head_dropWhile_not (· != '=') hne
  simp only [hrest, List.head_cons, bne_eq_false_iff_eq] at hc
  subst hc
  refine ⟨.ofList (option.toList.takeWhile (· != '=')), .ofList rest, isParted_iff.mpr ?_⟩
  rw [String.toList_ofList, String.toList_ofList]
  exact ⟨rfl, hrest⟩

/-- Every option mentions a format or is refused. -/
theorem mentions_or_isRefused (option : String) :
    (∃ v p, Mentions option v p) ∨ ∃ e, IsRefused option e := by
  by_cases hsign : '=' ∈ option.toList
  · obtain ⟨name, path, hparted⟩ := exists_isParted hsign
    by_cases hpath : IsBlankText path
    · exact .inr ⟨_, .noPath hparted hpath⟩
    · by_cases hname : ∃ v : Variant, Text.trim name = v.tag
      · obtain ⟨v, hv⟩ := hname
        exact .inl ⟨v, _, name, path, hparted, hpath, hv, rfl⟩
      · exact .inr ⟨_, .noVariant hparted hpath (not_exists.mp hname)⟩
  · exact .inr ⟨_, .noSign hsign⟩

/-- The options that are refused are those that cannot be used. -/
theorem exists_isRefused_iff : (∃ e, IsRefused option e) ↔ IsUnusable option := by
  constructor
  · rintro ⟨e, h⟩
    cases h with
    | noSign hsign => exact .inl hsign
    | noPath hparted hpath => exact .inr ⟨_, _, hparted, .inl hpath⟩
    | noVariant hparted hpath hname => exact .inr ⟨_, _, hparted, .inr hname⟩
  · rintro (hsign | ⟨name, path, hparted, hreason⟩)
    · exact ⟨_, .noSign hsign⟩
    · by_cases hpath : IsBlankText path
      · exact ⟨_, .noPath hparted hpath⟩
      · exact ⟨_, .noVariant hparted hpath (hreason.resolve_left hpath)⟩

/-- With a path behind its equals sign an option is decided by its name. -/
theorem parseOption_of_isParted (h : IsParted option name path) (hpath : ¬ IsBlankText path) :
    parseOption option =
      match Variant.ofName name with
      | .ok v => .ok (v, .ofText (Text.trim path))
      | .error e => .error e := by
  obtain ⟨hbefore, hbehind⟩ := isParted_iff.mp h
  rw [isBlankText_iff] at hpath
  simp only [parseOption, hbefore, hbehind, if_neg hpath, String.ofList_toList]
  rfl

theorem parseOption_of_mentions (h : Mentions option v p) : parseOption option = .ok (v, p) := by
  obtain ⟨name, path, hparted, hpath, hname, rfl⟩ := h
  rw [parseOption_of_isParted hparted hpath, Variant.ofName_eq_ok_iff.mpr hname]

theorem parseOption_of_isRefused (h : IsRefused option e) : parseOption option = .error e := by
  cases h with
  | noSign hsign =>
      have hall : option.toList.dropWhile (· != '=') = [] := by
        rw [List.dropWhile_eq_nil_iff]
        intro c hc
        rw [bne_iff_ne]
        rintro rfl
        exact hsign hc
      simp only [parseOption, hall]
  | noPath hparted hpath =>
      simp only [parseOption, (isParted_iff.mp hparted).2, isBlankText_iff.mp hpath, if_true]
  | noVariant hparted hpath hname =>
      rw [parseOption_of_isParted hparted hpath, Variant.ofName_eq_error_iff.mpr ⟨rfl, hname⟩]

/-- An option is read as what it mentions. -/
theorem parseOption_eq_ok_iff : parseOption option = .ok (v, p) ↔ Mentions option v p := by
  refine ⟨fun h => ?_, parseOption_of_mentions⟩
  rcases mentions_or_isRefused option with ⟨w, q, hmentions⟩ | ⟨e, hrefused⟩
  · rw [parseOption_of_mentions hmentions] at h
    cases h
    exact hmentions
  · rw [parseOption_of_isRefused hrefused] at h
    cases h

/-- An option is refused for the reason that it cannot be used for. -/
theorem parseOption_eq_error_iff : parseOption option = .error e ↔ IsRefused option e := by
  refine ⟨fun h => ?_, parseOption_of_isRefused⟩
  rcases mentions_or_isRefused option with ⟨v, p, hmentions⟩ | ⟨fault, hrefused⟩
  · rw [parseOption_of_mentions hmentions] at h
    cases h
  · rw [parseOption_of_isRefused hrefused] at h
    cases h
    exact hrefused

/-! ## Options one after the other -/

variable {options before after : List String} {paths others mentions : List (Variant × FilePath)}

/-- Options mention formats and paths, one after the other. -/
abbrev MentionAll (options : List String) (mentions : List (Variant × FilePath)) : Prop :=
  List.Forall₂ (fun option mention => Mentions option mention.1 mention.2) options mentions

/-- Put the paths of mentions one after the other. -/
def putMentions (paths mentions : List (Variant × FilePath)) : List (Variant × FilePath) :=
  mentions.foldl (fun done mention => putPath mention.1 mention.2 done) paths

/-- Options that can all be used mention something. -/
theorem exists_mentionAll (h : ∀ option ∈ options, ¬ IsUnusable option) :
    ∃ mentions, MentionAll options mentions := by
  induction options with
  | nil => exact ⟨[], .nil⟩
  | cons option options ih =>
      obtain ⟨husable, hrest⟩ := List.forall_mem_cons.mp h
      obtain ⟨mentions, hmentions⟩ := ih hrest
      obtain ⟨v, p, hmention⟩ : ∃ v p, Mentions option v p :=
        (mentions_or_isRefused option).resolve_right (mt exists_isRefused_iff.mp husable)
      exact ⟨(v, p) :: mentions, .cons hmention hmentions⟩

/-- All options can be used, or one of them is the first that cannot. -/
theorem usable_or_exists_first (options : List String) :
    (∀ option ∈ options, ¬ IsUnusable option) ∨
      ∃ before option after e, options = before ++ option :: after ∧
        (∀ other ∈ before, ¬ IsUnusable other) ∧ IsRefused option e := by
  induction options with
  | nil => exact .inl fun option h => absurd h List.not_mem_nil
  | cons option options ih =>
      by_cases hoption : IsUnusable option
      · obtain ⟨e, hrefused⟩ := exists_isRefused_iff.mpr hoption
        exact .inr ⟨[], option, options, e, rfl, fun other h => absurd h List.not_mem_nil, hrefused⟩
      · rcases ih with hall | ⟨before, first, after, e, rfl, hbefore, hrefused⟩
        · exact .inl (List.forall_mem_cons.mpr ⟨hoption, hall⟩)
        · exact .inr ⟨option :: before, first, after, e, rfl,
            List.forall_mem_cons.mpr ⟨hoption, hbefore⟩, hrefused⟩

/-- Options that can be used put the paths that they mention, whatever follows them. -/
theorem putOptions_append (h : MentionAll before mentions) (after : List String) :
    putOptions paths (before ++ after) = putOptions (putMentions paths mentions) after := by
  induction h generalizing paths with
  | nil => rfl
  | cons hmention _ ih =>
      rw [List.cons_append, putOptions, parseOption_of_mentions hmention]
      exact ih

theorem putOptions_of_mentionAll (h : MentionAll options mentions) :
    putOptions paths options = .ok (putMentions paths mentions) := by
  have happend : putOptions paths (options ++ []) = _ := putOptions_append h []
  rwa [List.append_nil, putOptions] at happend

/-- The first option that cannot be used spoils all. -/
theorem putOptions_of_first (hbefore : ∀ other ∈ before, ¬ IsUnusable other)
    (hrefused : IsRefused option e) : putOptions paths (before ++ option :: after) = .error e := by
  obtain ⟨mentions, hmentions⟩ := exists_mentionAll hbefore
  rw [putOptions_append hmentions, putOptions, parseOption_of_isRefused hrefused]

theorem putOptions_eq_ok_iff : putOptions paths options = .ok others ↔
    ∃ mentions, MentionAll options mentions ∧ others = putMentions paths mentions := by
  constructor
  · intro h
    rcases usable_or_exists_first options with hall | ⟨before, first, after, e, rfl, hbefore, hrefused⟩
    · obtain ⟨mentions, hmentions⟩ := exists_mentionAll hall
      rw [putOptions_of_mentionAll hmentions] at h
      exact ⟨mentions, hmentions, (Except.ok.inj h).symm⟩
    · rw [putOptions_of_first hbefore hrefused] at h
      cases h
  · rintro ⟨mentions, hmentions, rfl⟩
    exact putOptions_of_mentionAll hmentions

theorem putOptions_eq_error_iff : putOptions paths options = .error e ↔
    ∃ before option after, options = before ++ option :: after ∧
      (∀ other ∈ before, ¬ IsUnusable other) ∧ IsRefused option e := by
  constructor
  · intro h
    rcases usable_or_exists_first options with hall | ⟨before, first, after, fault, rfl, hbefore, hrefused⟩
    · obtain ⟨mentions, hmentions⟩ := exists_mentionAll hall
      rw [putOptions_of_mentionAll hmentions] at h
      cases h
    · rw [putOptions_of_first hbefore hrefused] at h
      cases h
      exact ⟨before, first, after, rfl, hbefore, hrefused⟩
  · rintro ⟨before, option, after, rfl, hbefore, hrefused⟩
    exact putOptions_of_first hbefore hrefused

/-! ## Folding mentions -/

/-- The last mention of a format names a path. -/
def IsLastMention (mentions : List (Variant × FilePath)) (v : Variant) (p : FilePath) : Prop :=
  ∃ before after, mentions = before ++ (v, p) :: after ∧ v ∉ after.map (·.1)

/--
Paths are folded from mentions: there is one for each format that is mentioned, in the order of the
first mentions, and it is the path of the last mention.
-/
structure IsFold (mentions paths : List (Variant × FilePath)) : Prop where
  formats : ∀ v, v ∈ paths.map (·.1) ↔ v ∈ mentions.map (·.1)
  order : (paths.map (·.1)).Pairwise fun v w =>
    (mentions.map (·.1)).idxOf v < (mentions.map (·.1)).idxOf w
  last : ∀ v p, (v, p) ∈ paths ↔ IsLastMention mentions v p

variable {w : Variant} {q : FilePath}

theorem putPath_eq_put (v : Variant) (p : FilePath) (paths : List (Variant × FilePath)) :
    putPath v p paths = Keyed.put v p paths := by
  induction paths with
  | nil => rfl
  | cons entry paths ih => rw [putPath, Keyed.put, ih]

/-- A further mention is the last one of its format, and changes no other format. -/
theorem isLastMention_append_singleton : IsLastMention (mentions ++ [(v, p)]) w q ↔
    (w = v ∧ q = p) ∨ (w ≠ v ∧ IsLastMention mentions w q) := by
  constructor
  · rintro ⟨before, after, hsplit, hlast⟩
    rcases List.eq_nil_or_concat after with rfl | ⟨rest, mention, rfl⟩
    · obtain ⟨-, hmention⟩ := List.append_singleton_inj.mp hsplit
      exact .inl ⟨(Prod.mk.inj hmention).1.symm, (Prod.mk.inj hmention).2.symm⟩
    · rw [List.concat_eq_append, ← List.cons_append, ← List.append_assoc] at hsplit
      obtain ⟨hmentions, hmention⟩ := List.append_singleton_inj.mp hsplit
      rw [List.concat_eq_append, List.map_append, List.mem_append, not_or] at hlast
      refine .inr ⟨?_, before, rest, hmentions, hlast.1⟩
      rintro rfl
      exact hlast.2 (by simp [← hmention])
  · rintro (⟨rfl, rfl⟩ | ⟨hne, before, after, rfl, hlast⟩)
    · exact ⟨mentions, [], rfl, List.not_mem_nil⟩
    · refine ⟨before, after ++ [(v, p)], by simp, ?_⟩
      rw [List.map_append, List.mem_append]
      rintro (hmem | hmem)
      · exact hlast hmem
      · exact hne (List.mem_singleton.mp hmem)

/-- In a fold no format has two paths. -/
theorem IsFold.nodup (h : IsFold mentions paths) : (paths.map (·.1)).Nodup :=
  h.order.imp fun hlt => by
    rintro rfl
    exact absurd hlt (Nat.lt_irrefl _)

/-- A path that is put by a further mention folds this mention, too. -/
theorem IsFold.putPath (h : IsFold mentions paths) (v : Variant) (p : FilePath) :
    IsFold (mentions ++ [(v, p)]) (putPath v p paths) := by
  have hformats : ∀ w ∈ paths.map (·.1), w ∈ mentions.map (·.1) := fun w => (h.formats w).mp
  -- The places of first mentions stay, and that of a new format is behind them.
  have hplace : ∀ w ∈ paths.map (·.1),
      ((mentions ++ [(v, p)]).map (·.1)).idxOf w = (mentions.map (·.1)).idxOf w := by
    intro w hw
    rw [List.map_append, List.idxOf_append_of_mem (hformats w hw)]
  have horder : (paths.map (·.1)).Pairwise fun u w =>
      ((mentions ++ [(v, p)]).map (·.1)).idxOf u < ((mentions ++ [(v, p)]).map (·.1)).idxOf w := by
    refine h.order.imp_of_mem fun hu hw hlt => ?_
    rwa [hplace _ hu, hplace _ hw]
  refine ⟨fun w => ?_, ?_, fun w q => ?_⟩
  · rw [putPath_eq_put, Keyed.mem_map_fst_put, List.map_append, List.mem_append, ← h.formats w, or_comm]
    exact or_congr_right List.mem_singleton.symm
  · rw [putPath_eq_put, Keyed.map_fst_put]
    split
    · exact horder
    · rename_i hnew
      rw [List.pairwise_append]
      refine ⟨horder, List.pairwise_singleton _ _, fun u hu w hw => ?_⟩
      obtain rfl := List.mem_singleton.mp hw
      have hnone : w ∉ mentions.map (·.1) := mt (h.formats w).mpr hnew
      rw [hplace u hu, List.map_append, List.idxOf_append_of_notMem hnone]
      exact Nat.lt_add_right _ (List.idxOf_lt_length_iff.mpr (hformats u hu))
  · rw [putPath_eq_put, Keyed.mem_put_iff h.nodup, isLastMention_append_singleton, h.last]

/-- Putting mentions one after the other folds them. -/
theorem isFold_putMentions (mentions : List (Variant × FilePath)) :
    IsFold mentions (putMentions [] mentions) := by
  induction mentions using List.reverseRecOn with
  | nil => exact ⟨fun v => Iff.rfl, .nil, fun v p => by simp [putMentions, IsLastMention]⟩
  | append_singleton mentions mention ih =>
      rw [putMentions, List.foldl_append]
      exact ih.putPath mention.1 mention.2

/-- Mentions are folded in one way only. -/
theorem IsFold.unique (h : IsFold mentions paths) (hothers : IsFold mentions others) :
    others = paths := by
  have hmem : ∀ entry, entry ∈ others ↔ entry ∈ paths := by
    rintro ⟨v, p⟩
    rw [h.last, hothers.last]
  have hperm : others.Perm paths :=
    (List.perm_ext_iff_of_nodup hothers.nodup.of_map h.nodup.of_map).mpr hmem
  -- Both lists are in the order of the first mentions, in which no two entries are at one place.
  have hsorted : ∀ {folded}, IsFold mentions folded → folded.Pairwise fun a b =>
      (mentions.map (·.1)).idxOf a.1 < (mentions.map (·.1)).idxOf b.1 := by
    intro folded hfold
    have horder := hfold.order
    rwa [List.pairwise_map] at horder
  refine hperm.eq_of_pairwise (fun a b _ _ hlt hgt => ?_) (hsorted hothers) (hsorted h)
  exact absurd hlt (Nat.lt_asymm hgt)

/-! ## Settings -/

theorem ofOptions_eq_error_iff {failOnFindings : Bool} :
    ofOptions options failOnFindings = .error e ↔ putOptions [] options = .error e := by
  rw [ofOptions]
  cases putOptions [] options <;> simp

theorem ofOptions_eq_ok_iff {failOnFindings : Bool} {settings : Settings} :
    ofOptions options failOnFindings = .ok settings ↔
      settings.failOnFindings = failOnFindings ∧ putOptions [] options = .ok settings.schemaPaths := by
  rw [ofOptions]
  cases putOptions [] options with
  | error e => simp
  | ok paths =>
      obtain ⟨schemaPaths, fails⟩ := settings
      simp [eq_comm, and_comm]

/--
Options make settings exactly when all of them can be used, and otherwise the first one that cannot
is the reason.  The settings have one path for each format that is mentioned, in the order of the
first mentions, and it is the path of the last mention.
-/
theorem ofOptions_isFold (options : List String) (failOnFindings : Bool) :
    ((∃ e, ofOptions options failOnFindings = .error e) ↔ ∃ option ∈ options, IsUnusable option) ∧
      (∀ e, ofOptions options failOnFindings = .error e ↔
        ∃ before option after, options = before ++ option :: after ∧
          (∀ other ∈ before, ¬ IsUnusable other) ∧ IsRefused option e ∧ parseOption option = .error e) ∧
      ∀ settings, ofOptions options failOnFindings = .ok settings ↔
        settings.failOnFindings = failOnFindings ∧
          ∃ mentions, MentionAll options mentions ∧ IsFold mentions settings.schemaPaths := by
  refine ⟨?_, fun e => ?_, fun settings => ?_⟩
  · simp only [ofOptions_eq_error_iff, putOptions_eq_error_iff]
    constructor
    · rintro ⟨e, before, option, after, rfl, -, hrefused⟩
      exact ⟨option, by simp, exists_isRefused_iff.mp ⟨e, hrefused⟩⟩
    · rintro ⟨option, hmem, hunusable⟩
      rcases usable_or_exists_first options with hall | ⟨before, first, after, e, hfirst⟩
      · exact absurd hunusable (hall option hmem)
      · exact ⟨e, before, first, after, hfirst⟩
  · rw [ofOptions_eq_error_iff, putOptions_eq_error_iff]
    simp only [parseOption_eq_error_iff, and_self]
  · rw [ofOptions_eq_ok_iff, putOptions_eq_ok_iff]
    refine and_congr_right fun _ => exists_congr fun mentions => and_congr_right fun _ => ?_
    constructor
    · intro hpaths
      rw [hpaths]
      exact isFold_putMentions mentions
    · exact (isFold_putMentions mentions).unique

/-- The second path of a format takes the place of its first one; a path may hold equals signs. -/
example : ofOptions ["oas3_0=a.json", " oas2_0 = b=c.yaml ", "oas3_0=d.json"] true =
    .ok ⟨[(.openApi30, .ofText "d.json"), (.swagger20, .ofText "b=c.yaml")], true⟩ := by
  rfl

end Settings

end ApiLint
