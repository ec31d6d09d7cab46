import ApiLint.Proofs.Schema.Carry
import ApiLint.Proofs.Schema.Evaluate

/-!
# Names that have been counted

A violation of `additionalProperties` is reported only after the additional names have been counted,
and only if there are any.  What made the counting succeed is still true of the value and the schema
that the violation shows, wherever in a document and a schema it stands, and whatever stands around
them.

Main results:

- Theorem `ensures_isCounted`: a check of any depth reports only violations whose names have been
  counted.
- Theorem `Compiled.isCounted_of_checker`: so have the names of everything that a schema finds.
-/

namespace ApiLint.Schema

open Outcome

namespace Violation

/--
The names of an object that a schema counts as additional, and what made the counting succeed.
-/
structure Counts (v : Violation) (keywords entries : List (Node × Node)) (names : List Node) : Prop where
  schema : v.schema = .map keywords
  subject : v.subject = .map entries
  searchable : IsSearchable keywords entries
  counted : ∃ site : Site, site.entries = keywords ∧ site.additionalNames entries = .ok names
  ne_nil : names ≠ []

/-- If a violation is one of additional names, they have been counted. -/
def IsCounted (v : Violation) : Prop :=
  v.keyword = "additionalProperties" → ∃ keywords entries names, v.Counts keywords entries names

/-- A violation keeps its names wherever it is moved. -/
theorem IsCounted.under {v : Violation} (path schemaPath : Option Node) (h : v.IsCounted) :
    (v.under path schemaPath).IsCounted := by
  intro hkeyword
  obtain ⟨keywords, entries, names, hcounts⟩ := h hkeyword
  exact ⟨keywords, entries, names, ⟨hcounts.schema, hcounts.subject, hcounts.searchable,
    hcounts.counted, hcounts.ne_nil⟩⟩

end Violation

open Violation

/-! ## Keywords -/

/--
What a keyword reports has been counted, if names can be searched beside `additionalProperties`.
-/
theorem Site.ensures_isCounted {site : Site} (hcarries : site.Carries IsCounted)
    (hsearchable : site.keyword = "additionalProperties" → ∀ entries, site.subject = .map entries →
      IsSearchable site.entries entries) :
    site.outcome.Ensures IsCounted := by
  apply hcarries.ensures_outcome
  · intro keyword value message hne
    exact ensures_one fun hkeyword => absurd hkeyword hne
  · intro entries extras hsubject hnames hne message
    refine ensures_one fun hkeyword => ⟨site.entries, entries, extras, ?_⟩
    exact {
      schema := rfl
      subject := hsubject
      searchable := hsearchable hkeyword entries hsubject
      counted := ⟨site, rfl, hnames⟩
      ne_nil := hne }

/-! ## Schemas -/

variable {depth : Nat} {setting : Setting} {outer draft : Draft} {entries : List (Node × Node)}
  {subject : Node}

/-- What an entry of a schema reports has been counted, if checks of less depth report such only. -/
theorem ensures_isCounted_entryOutcome {entry : Node × Node}
    (hcheck : ∀ schema x, (evaluate depth setting draft schema x).Ensures IsCounted)
    (hsearchable : entry.1 = .str "additionalProperties" → ∀ items, subject = .map items →
      IsSearchable entries items) :
    (entryOutcome depth setting draft entries subject entry).Ensures IsCounted := by
  obtain ⟨key, value⟩ := entry
  cases key with
  | str keyword =>
      refine ensures_ite (fun _ => ?_) fun _ => ensures_valid
      have hsite : (siteAt depth setting draft entries subject keyword value).outcome.Ensures
          IsCounted := by
        refine Site.ensures_isCounted ⟨IsCounted.under, hcheck⟩ fun hkeyword => ?_
        exact hsearchable (congrArg Node.str hkeyword)
      exact ensures_ite (fun _ => ensures_map (hsite.mono fun _ h => h.under _ _)) fun _ => hsite
  | _ => exact ensures_valid

/-- A check of any depth reports only violations whose names have been counted. -/
theorem ensures_isCounted (depth : Nat) {setting : Setting} (huntil : setting.untilFirst = false)
    (outer : Draft) (schema subject : Node) :
    (evaluate depth setting outer schema subject).Ensures IsCounted := by
  have hrefused : ∀ subject, (refused subject).Ensures IsCounted :=
    fun subject => Site.ensures_showing fun _ text => ensures_one fun hkeyword =>
      absurd hkeyword (by decide : "None" ≠ "additionalProperties")
  have hentries : EntriesEnsure setting (fun _ _ => True) fun _ => IsCounted := by
    rintro depth outer draft entries subject - hcheck hfault ⟨key, value⟩ hmem
    refine ensures_isCounted_entryOutcome (fun schema x => hcheck schema x trivial) ?_
    intro hkey items hsubject
    obtain rfl : key = .str "additionalProperties" := hkey
    subst hsubject
    exact isSearchable_of_fault huntil hfault hmem
  exact hentries.ensures_evaluate huntil hrefused depth outer trivial

/-- The names of everything that a schema finds have been counted. -/
theorem Compiled.isCounted_of_checker {c : Compiled} {document : Node} {vs : List Violation}
    (h : c.checker document = .ok vs) : ∀ v ∈ vs, v.IsCounted :=
  fun _ hmem => (ensures_isCounted _ rfl c.draft c.schema document).of_all h hmem

end ApiLint.Schema
