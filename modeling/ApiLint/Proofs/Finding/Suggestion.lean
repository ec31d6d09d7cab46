import ApiLint.Lint.Group
import ApiLint.Proofs.Finding.Report
import ApiLint.Proofs.Pointer.Location
import ApiLint.Proofs.Suggest.Ranking

/-!
# Suggestions for the value that failed

A string outside an enumeration is not handed on with its violation: its location is written as a
path, and the path is followed again.  The suggestion is made for the string that failed only if the
path leads back to it, which the text of a key that is no string never does.

Main results:

- Theorem `some_str_eq_of_suggestion_eq`: suggestions tell the values that they are made for apart.
- Theorem `findings_outside_eq_iff`: when the finding of an enumeration is about the string that
  failed.
-/

namespace ApiLint

namespace RawError

/-! ## Offers -/

/-- The words that offer a value. -/
def offerOf (value : String) : String := ". Did you mean \"" ++ value ++ "\"?"

/-- The offer of the allowed value closest to a string, if there is one. -/
def offer (value : String) (allowed : List Node) : String :=
  match Candidate.bestMatch? value allowed with
  | some best => offerOf best
  | none => ""

theorem suggestion_str (allowed : List Node) (value : String) :
    suggestion allowed (some (.str value)) = offer value allowed :=
  rfl

theorem offerOf_ne_empty (value : String) : offerOf value ≠ "" := by
  intro h
  have hlist : (offerOf value).toList = "".toList := by rw [h]
  unfold offerOf at hlist
  rw [String.toList_append, String.toList_append] at hlist
  cases hlist

theorem offerOf_injective {first second : String} (h : offerOf first = offerOf second) :
    first = second := by
  unfold offerOf at h
  rw [String.append_left_inj, String.append_right_inj] at h
  exact h

/-- The only allowed value is offered. -/
theorem offer_singleton (value s : String) : offer value [.str s] = offerOf s := by
  rw [offer, Candidate.bestMatch?_singleton]

/-- A string that is one of several allowed values is offered itself, unless it is empty. -/
theorem offer_of_mem {value : String} {allowed : List Node} (hmem : .str value ∈ allowed)
    (hseveral : allowed.length ≠ 1) :
    offer value allowed = if 0 < value.length then offerOf value else "" := by
  rw [offer, Candidate.bestMatch?_of_mem hmem hseveral]
  by_cases hvalue : 0 < value.length
  · rw [if_pos hvalue, if_pos hvalue]
  · rw [if_neg hvalue, if_neg hvalue]

/-- Two strings that get the same offers from the pair of them are the same. -/
theorem eq_of_offer_pair_eq {first second : String}
    (h : offer first [.str first, .str second] = offer second [.str first, .str second]) :
    first = second := by
  have hseveral : [Node.str first, Node.str second].length ≠ 1 := Nat.succ_ne_self 1
  rw [offer_of_mem List.mem_cons_self hseveral,
    offer_of_mem (List.mem_cons_of_mem _ List.mem_cons_self) hseveral] at h
  by_cases hfirst : 0 < first.length
  · rw [if_pos hfirst] at h
    by_cases hsecond : 0 < second.length
    · rw [if_pos hsecond] at h
      exact offerOf_injective h
    · rw [if_neg hsecond] at h
      exact absurd h (offerOf_ne_empty first)
  · rw [if_neg hfirst] at h
    by_cases hsecond : 0 < second.length
    · rw [if_pos hsecond] at h
      exact absurd h.symm (offerOf_ne_empty second)
    · rw [String.length_eq_zero_iff.mp (Nat.eq_zero_of_not_pos hfirst),
        String.length_eq_zero_iff.mp (Nat.eq_zero_of_not_pos hsecond)]

/-- A value that gets the offers of a string from all enumerations is that string. -/
theorem some_str_eq_of_suggestion_eq {found : Option Node} {value : String}
    (h : ∀ allowed, Node.anyLongInteger allowed = false →
      suggestion allowed found = offer value allowed) :
    found = some (.str value) := by
  have hlone : suggestion [.str value] found = offerOf value := by
    rw [h _ rfl, offer_singleton]
  -- Only a string gets an offer at all.
  have hstr : ∃ other, found = some (.str other) := by
    rcases found with _ | x
    · exact absurd hlone.symm (offerOf_ne_empty value)
    · cases x with
      | str other => exact ⟨other, rfl⟩
      | _ => exact absurd hlone.symm (offerOf_ne_empty value)
  obtain ⟨other, rfl⟩ := hstr
  have hpair := h [.str other, .str value] rfl
  rw [suggestion_str] at hpair
  rw [eq_of_offer_pair_eq hpair]

end RawError

namespace Schema.Violation

variable {document : Node} {v : Violation} {value : String} {allowed : List Node}

/-! ## Findings of enumerations -/

/-- Can both places of a violation be written? -/
def hasWritablePlaces (v : Violation) : Bool := !Node.anyLongInteger (v.path ++ v.schemaPath)

/-- The violation of an enumeration by a string, at the places of a given one. -/
def outside (v : Violation) (value : String) (allowed : List Node) : Violation :=
  { v with keyword := "enum", keywordValue := .list allowed, subject := .str value }

/-- The finding that shows the allowed values and ends with an offer. -/
def shownWith (v : Violation) (allowed : List Node) (ending : String) : Finding where
  message :=
    Wording.normalize v.path.parts.getLast? (.str "must be equal to one of the allowed values")
      ++ ": " ++ ", ".intercalate (allowed.map RawError.allowedValueText) ++ ending
  path := v.path.parts

theorem shownWith_injective {first second : String}
    (h : v.shownWith allowed first = v.shownWith allowed second) : first = second := by
  rw [shownWith, shownWith, Finding.mk.injEq, String.append_right_inj] at h
  exact h.1

/-- The raw error of such a violation. -/
def outsideError (v : Violation) (allowed : List Node) : RawError where
  keyword := "enum"
  instancePath := v.path.instancePath
  message := .str "must be equal to one of the allowed values"
  params := [("allowedValues", .list allowed)]
  schemaPath := v.schemaPath.schemaPath

/-- The raw error is written unless one of the places cannot be. -/
theorem rawErrors_outside (v : Violation) (value : String) (allowed : List Node) :
    (v.outside value allowed).rawErrors =
      if v.hasWritablePlaces then .ok [v.outsideError allowed]
      else .error (.longNumeral .toWrite) := by
  rw [rawErrors, hasWritablePlaces, outside]
  cases Node.anyLongInteger (v.path ++ v.schemaPath) <;> rfl

/-- The finding shows the suggestion for what the path of the location leads to. -/
theorem toFinding_outsideError (document : Node) (v : Violation) (allowed : List Node) :
    (v.outsideError allowed).toFinding document =
      if Node.anyLongInteger allowed then .error .toWrite
      else match Pointer.resolveText? document ("#" ++ v.path.instancePath) with
        | .error e => .error e
        | .ok found => .ok (v.shownWith allowed (RawError.suggestion allowed found)) := by
  have hshown : ∀ found, (⟨(v.outsideError allowed).enumMessage found,
      Location.segmentsOfPath v.path.instancePath⟩ : Finding) =
        v.shownWith allowed (RawError.suggestion allowed found) := by
    intro found
    rw [RawError.enumMessage, RawError.property?, shownWith]
    simp only [outsideError, Location.segmentsOfPath_instancePath]
    rfl
  rw [RawError.toFinding_enum document rfl]
  simp only [← hshown]
  rfl

/-- A finding has an ending exactly when the path leads to what that ending is suggested for. -/
theorem findings_outside_eq_iff {ending : String} :
    (v.outside value allowed).findings document = .ok [v.shownWith allowed ending] ↔
      v.hasWritablePlaces = true ∧ Node.anyLongInteger allowed = false ∧
        ∃ found, Pointer.resolveText? document ("#" ++ v.path.instancePath) = .ok found ∧
          RawError.suggestion allowed found = ending := by
  rw [findings_eq_ok_iff, rawErrors_outside]
  constructor
  · rintro ⟨errors, herrors, hfindings⟩
    cases hwritable : v.hasWritablePlaces with
    | false =>
        rw [hwritable] at herrors
        cases herrors
    | true =>
        rw [hwritable] at herrors
        cases herrors
        obtain ⟨finding, hfinding, heq⟩ := (Finding.ofErrors_singleton_eq_ok_iff rfl).mp hfindings
        cases heq
        rw [toFinding_outsideError] at hfinding
        cases hlong : Node.anyLongInteger allowed with
        | true =>
            rw [hlong] at hfinding
            cases hfinding
        | false =>
            cases hfound : Pointer.resolveText? document ("#" ++ v.path.instancePath) with
            | error e =>
                rw [hlong, hfound] at hfinding
                cases hfinding
            | ok found =>
                rw [hlong, hfound] at hfinding
                exact ⟨rfl, rfl, found, rfl, shownWith_injective (Except.ok.inj hfinding)⟩
  · rintro ⟨hwritable, hlong, found, hfound, rfl⟩
    refine ⟨_, if_pos hwritable, (Finding.ofErrors_singleton_eq_ok_iff rfl).mpr ⟨_, ?_, rfl⟩⟩
    rw [toFinding_outsideError, hlong, hfound]
    rfl

/--
All enumerations offer what is closest to a string exactly when the path leads to that string.
-/
theorem forall_findings_outside_iff_leads :
    (∀ allowed, Node.anyLongInteger allowed = false →
        (v.outside value allowed).findings document =
          .ok [v.shownWith allowed (RawError.offer value allowed)]) ↔
      v.hasWritablePlaces = true ∧ Pointer.Leads document v.path.parts (.str value) := by
  simp only [findings_outside_eq_iff]
  rw [Pointer.resolveText?_instancePath, ← Pointer.walk?_eq_ok_some_iff]
  constructor
  · intro hall
    obtain ⟨hwritable, -, found, hfound, -⟩ := hall [] rfl
    refine ⟨hwritable, ?_⟩
    have hsame : ∀ allowed, Node.anyLongInteger allowed = false →
        RawError.suggestion allowed found = RawError.offer value allowed := by
      intro allowed hlong
      obtain ⟨-, -, found', hfound', hoffer⟩ := hall allowed hlong
      rw [hfound, Except.ok.injEq] at hfound'
      rw [hfound', hoffer]
    rw [hfound, RawError.some_str_eq_of_suggestion_eq hsame]
  · rintro ⟨hwritable, hfound⟩ allowed hlong
    exact ⟨hwritable, hlong, some (.str value), hfound, RawError.suggestion_str allowed value⟩

/-- In a document with string keys the path of every location leads back. -/
theorem leads_of_hasStringKeys (hkeys : document.hasStringKeys = true)
    (hshort : document.hasShortSequences = true)
    (hschema : Node.anyLongInteger v.schemaPath = false)
    (hat : document.at? v.path = some (.str value)) :
    v.hasWritablePlaces = true ∧ Pointer.Leads document v.path.parts (.str value) := by
  refine ⟨?_, Pointer.leads_parts hkeys hshort hat⟩
  rw [hasWritablePlaces, Node.anyLongInteger_append, hschema,
    Pointer.anyLongInteger_of_at? hkeys hshort hat]
  rfl

/--
A string that failed at a location is the one that the suggestion is made for, whatever is allowed,
exactly when the texts of its keys and indices lead back to it; so it is in every document with
string keys.
-/
theorem findings_outside_offer_iff (hat : document.at? v.path = some (.str value)) :
    (∀ allowed,
      (v.outside value allowed).findings document =
          .ok [v.shownWith allowed (RawError.offer value allowed)] ↔
        v.hasWritablePlaces = true ∧ Node.anyLongInteger allowed = false ∧
          ∃ found, Pointer.resolveText? document ("#" ++ v.path.instancePath) = .ok found ∧
            RawError.suggestion allowed found = RawError.offer value allowed) ∧
    ((∀ allowed, Node.anyLongInteger allowed = false →
        (v.outside value allowed).findings document =
          .ok [v.shownWith allowed (RawError.offer value allowed)]) ↔
      v.hasWritablePlaces = true ∧ Pointer.Leads document v.path.parts (.str value)) ∧
    (document.hasStringKeys = true → document.hasShortSequences = true →
      Node.anyLongInteger v.schemaPath = false →
        v.hasWritablePlaces = true ∧ Pointer.Leads document v.path.parts (.str value)) :=
  ⟨fun _ => findings_outside_eq_iff, forall_findings_outside_iff_leads,
    fun hkeys hshort hschema => leads_of_hasStringKeys hkeys hshort hschema hat⟩

/-- The string `aple` at a location where only `apple` is allowed. -/
def misspelt (path : Location) : Violation where
  keyword := "enum"
  keywordValue := .list [.str "apple"]
  message := "'aple' is not one of ['apple']"
  subject := .str "aple"
  schema := .map [(.str "enum", .list [.str "apple"])]
  path
  schemaPath := [.str "additionalProperties", .str "enum"]

/-- A misspelt item below a key with a slash is shown with the value that was meant. -/
theorem findings_outside_offer_iff_slashKey :
    (Node.map [(.str "a/b", .list [.str "aple"])]).at? [.str "a/b", .int 0] = some (.str "aple") ∧
    ((misspelt [.str "a/b", .int 0]).outside "aple" [.str "apple"]).findings
        (.map [(.str "a/b", .list [.str "aple"])]) =
      .ok [(misspelt [.str "a/b", .int 0]).shownWith [.str "apple"]
        (RawError.offer "aple" [.str "apple"])] := by
  have hat : (Node.map [(.str "a/b", .list [.str "aple"])]).at?
      (misspelt [.str "a/b", .int 0]).path = some (.str "aple") := rfl
  obtain ⟨-, hiff, hstrings⟩ := findings_outside_offer_iff hat
  refine ⟨hat, hiff.mpr (hstrings ?_ ?_ rfl) [.str "apple"] rfl⟩
  · decide +kernel
  · decide +kernel

/--
Below the key `200`, an integer, the string that failed is not found again, and nothing is offered.
-/
theorem findings_outside_numberKey :
    (Node.map [(.int 200, .str "aple")]).at? [.int 200] = some (.str "aple") ∧
    Candidate.bestMatch? "aple" [.str "apple"] = some "apple" ∧
    ((misspelt [.int 200]).outside "aple" [.str "apple"]).findings
    (.map [(.int 200, .str "aple")]) =
      .ok [(misspelt [.int 200]).shownWith [.str "apple"] ""] ∧
    (misspelt [.int 200]).shownWith [.str "apple"] "" ≠
      (misspelt [.int 200]).shownWith [.str "apple"] (RawError.offer "aple" [.str "apple"]) := by
  refine ⟨rfl, Candidate.bestMatch?_singleton "aple" "apple", ?_, ?_⟩
  · refine findings_outside_eq_iff.mpr ⟨by decide +kernel, rfl, none, ?_, rfl⟩
    rw [Pointer.resolveText?_instancePath]
    rfl
  · intro h
    rw [RawError.offer_singleton] at h
    exact RawError.offerOf_ne_empty "apple" (shownWith_injective h).symm

end Schema.Violation

end ApiLint
