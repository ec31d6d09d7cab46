import ApiLint.Schema.RawErrors
import ApiLint.Proofs.Text.Quoted
import Mathlib.Data.Bool.AllAny
import Mathlib.Data.List.Basic

/-!
# Names of missing properties

The name of a missing property is read back from a message that shows it between quotes.  Quotes are
single ones unless the name holds such, and what cannot stand between them is escaped; reading
expects single quotes and undoes no escape.  So a name comes back exactly when none of its characters
needs an escape or other quotes.

Main results:

- Theorem `missingName?_missingMessage`: what is read of a quoted name.
- Theorem `Violation.missingProperty_iff`: when a raw error has the name that is missing.
-/

namespace ApiLint.Schema

/-! ## Messages -/

/-- The message that a property is missing. -/
def missingMessage (name : String) : String := Text.quoted name ++ " is a required property"

/-- The end of the message, with the quote in front of it. -/
def missingEnding : List Char := "' is a required property".toList

/-- What stands between a single quote and the ending, in one line, is read. -/
theorem missingName?_of_toList {message : String} {name : List Char}
    (hmessage : message.toList = '\'' :: (name ++ missingEnding)) (hline : '\n' ∉ name) :
    missingName? message = some (String.ofList name) := by
  have hlast : (name ++ missingEnding).getLast? ≠ some '\n' := by
    rw [List.getLast?_append_of_ne_nil _ (by decide)]
    decide
  have htake : (name ++ missingEnding).take ((name ++ missingEnding).length - missingEnding.length) =
      name := by
    rw [List.length_append, Nat.add_sub_cancel, List.take_left]
  have hending : "' is a required property".toList = missingEnding := rfl
  rw [missingName?, hmessage]
  simp only [if_neg hlast, hending]
  rw [htake, if_pos ⟨rfl, hline⟩]

theorem missingName?_of_doubleQuote {message : String} {cs : List Char}
    (hmessage : message.toList = '"' :: cs) : missingName? message = none := by
  rw [missingName?, hmessage]
  rfl

theorem toList_missingMessage (name : String) : (missingMessage name).toList =
    Text.quoteFor name.toList :: (name.toList.flatMap (Text.quotedChar (Text.quoteFor name.toList)) ++
      Text.quoteFor name.toList :: " is a required property".toList) := by
  rw [missingMessage, String.toList_append, Text.quoted, String.toList_ofList, Text.quotedChars]
  simp only [List.cons_append, List.append_assoc, List.nil_append]

/-- A name is read as what its quoted form shows, if that has single quotes. -/
theorem missingName?_missingMessage (name : String) : missingName? (missingMessage name) =
    if Text.quoteFor name.toList = '\'' then some (String.ofList (Text.shownChars name.toList))
    else none := by
  have hmessage := toList_missingMessage name
  rcases Text.quoteFor_cases name.toList with hquote | ⟨hquote, -⟩
  · rw [hquote] at hmessage
    rw [if_pos hquote]
    exact missingName?_of_toList hmessage (Text.lineFeed_notMem_shownChars name.toList)
  · rw [hquote] at hmessage ⊢
    rw [if_neg (by decide)]
    exact missingName?_of_doubleQuote hmessage

/-- A name is read back exactly when all its characters stand for themselves. -/
theorem missingName?_missingMessage_eq_iff (name : String) :
    missingName? (missingMessage name) = some name ↔ ∀ c ∈ name.toList, Text.IsPlain c := by
  rw [missingName?_missingMessage]
  rcases Text.quoteFor_cases name.toList with hquote | ⟨hquote, hmem⟩
  · rw [if_pos hquote, Option.some.injEq, ← String.toList_inj, String.toList_ofList,
      Text.shownChars_eq_self_iff]
  · rw [hquote, if_neg (by decide)]
    exact iff_of_false (fun hnone => nomatch hnone) fun hplain => (hplain _ hmem).1 rfl

/-! ## Raw errors -/

namespace Violation

variable {v : Violation} {name : String}

/-- The parameters of a missing property: the name that is read from its message, if one is. -/
def missingParams (message : String) : List (String × Node) :=
  match missingName? message with
  | some name => [("missingProperty", .str name)]
  | none => []

/-- A missing property has a single raw error, if its places can be written. -/
theorem rawErrors_of_required (hkeyword : v.keyword = "required") :
    v.rawErrors =
      if Node.anyLongInteger (v.path ++ v.schemaPath) then .error (.longNumeral .toWrite)
      else .ok [v.rawError v.message (missingParams v.message)] := by
  have hparams : v.params = missingParams v.message := by
    rw [params, hkeyword]
    rfl
  have hmessage : v.shownMessage = v.message := by
    rw [shownMessage, hkeyword]
    rfl
  rw [rawErrors, hkeyword, ← hparams, ← hmessage]
  refine ite_congr rfl (fun _ => rfl) fun _ => ?_
  split
  · rename_i hname _
    exact absurd hname (by decide)
  · rfl

/--
The raw error of a missing property has exactly its name for a parameter if and only if all
characters of the name stand for themselves between single quotes: none is a single quote, a
backslash or unprintable.  Of any other name it has what the message shows between single quotes, or
nothing if the quotes are double ones.
-/
theorem missingProperty_iff (hkeyword : v.keyword = "required")
    (hmessage : v.message = missingMessage name) :
    ((∃ e, v.rawErrors = .ok [e] ∧ e.params = [("missingProperty", .str name)]) ↔
      Node.anyLongInteger (v.path ++ v.schemaPath) = false ∧ ∀ c ∈ name.toList, Text.IsPlain c) ∧
    (Node.anyLongInteger (v.path ++ v.schemaPath) = false →
      v.rawErrors = .ok [v.rawError v.message
        (if Text.quoteFor name.toList = '\'' then
          [("missingProperty", .str (String.ofList (Text.shownChars name.toList)))]
        else [])]) := by
  have hparams : missingParams v.message = [("missingProperty", .str name)] ↔
      ∀ c ∈ name.toList, Text.IsPlain c := by
    rw [← missingName?_missingMessage_eq_iff, hmessage, missingParams]
    cases missingName? (missingMessage name) <;> simp
  rw [rawErrors_of_required hkeyword, ← hparams]
  cases Node.anyLongInteger (v.path ++ v.schemaPath) with
  | true => simp
  | false =>
      refine ⟨?_, fun _ => ?_⟩
      · simp [rawError]
      · rw [if_neg (by decide), missingParams, hmessage, missingName?_missingMessage]
        split_ifs <;> rfl

/-- A property is missing whose name holds quotes and letters, but nothing that is escaped. -/
def missingQuoted : Violation where
  keyword := "required"
  keywordValue := .list [.str "x-\"é/~1\""]
  message := "'x-\"é/~1\"' is a required property"
  subject := .map []
  schema := .map [(.str "required", .list [.str "x-\"é/~1\""])]
  path := [.str "paths", .int 0]
  schemaPath := [.str "required"]

/-- A missing name with double quotes and an accent in it is among the parameters. -/
theorem missingProperty_iff_missingQuoted :
    missingQuoted.keyword = "required" ∧ missingQuoted.message = missingMessage "x-\"é/~1\"" ∧
      ∃ e, missingQuoted.rawErrors = .ok [e] ∧
        e.params = [("missingProperty", .str "x-\"é/~1\"")] := by
  have hmessage : missingQuoted.message = missingMessage "x-\"é/~1\"" := by
    decide +kernel
  refine ⟨rfl, hmessage, (missingProperty_iff rfl hmessage).1.mpr ⟨rfl, ?_⟩⟩
  exact List.all_iff_forall_prop.mp (by decide +kernel)

/-- A schema that requires a name with a single quote and one with a backslash. -/
def awkwardNames : Compiled where
  draft := .draft202012
  schema := .map [(.str "required", .list [.str "it's", .str "a\\b"])]

/-- The violation of an empty object by a missing name. -/
def missingAwkward (message : String) : Violation where
  keyword := "required"
  keywordValue := .list [.str "it's", .str "a\\b"]
  message
  subject := .map []
  schema := awkwardNames.schema
  path := []
  schemaPath := [.str "required"]

/--
A name with a single quote is shown in double quotes and lost, and one with a backslash comes back
with two of them.
-/
theorem missingProperty_lost :
    awkwardNames.violations (.map []) =
        .ok [missingAwkward (missingMessage "it's"), missingAwkward (missingMessage "a\\b")] ∧
      (missingAwkward (missingMessage "it's")).rawErrors =
        .ok [⟨"required", "", .str "\"it's\" is a required property", [], "#/required"⟩] ∧
      (missingAwkward (missingMessage "a\\b")).rawErrors =
        .ok [⟨"required", "", .str "'a\\\\b' is a required property",
          [("missingProperty", .str "a\\\\b")], "#/required"⟩] ∧
      ¬ ∃ e, (missingAwkward (missingMessage "it's")).rawErrors = .ok [e] ∧
        e.params = [("missingProperty", .str "it's")] := by
  have hlost : (missingAwkward (missingMessage "it's")).rawErrors =
      .ok [⟨"required", "", .str "\"it's\" is a required property", [], "#/required"⟩] := rfl
  refine ⟨rfl, hlost, rfl, ?_⟩
  rintro ⟨e, he, hparams⟩
  rw [hlost] at he
  cases he
  cases hparams

end Violation

end ApiLint.Schema
