import ApiLint.Finding.Report
import ApiLint.Proofs.Finding.Report
import ApiLint.Proofs.Json.RoundTrip
import ApiLint.Proofs.Load.Document

/-!
# Allowed values in messages

The message of a value outside its enumeration shows the allowed values one after the other, each as
JSON, with a comma and a blank between them.  Neither occurs in what is shown in a way that could be
mistaken for the end of a value, so the text between brackets is an array, which is read as the
values that were shown.

Main results:

- Theorem `readsAs_shownValues`: the shown values between brackets are read as an array.
- Theorem `parseDocument_shownValues`: allowed values are read back from a message.
-/

namespace ApiLint.RawError

open Json

/-- The allowed values as a message shows them. -/
def shownValues (values : List Node) : String := ", ".intercalate (values.map allowedValueText)

/-! ## Single values -/

variable {x : Node} {xs : List Node}

/-- A value that JSON holds is shown as its JSON text, which is read as that value. -/
theorem readsAs_allowedValueText (h : x.everywhere Node.isJsonPart = true) :
    ReadsAs (allowedValueText x).toList x := by
  obtain ⟨cs, hcs, hreads⟩ := readsAs_valueChars? isBlank_compact 0 h
  have htext : allowedValueText x = String.ofList cs := by
    rw [allowedValueText, write?, hcs]
    rfl
  rwa [htext, String.toList_ofList]

/-! ## Values one after the other -/

/-- The characters of values behind the first one, each behind a comma and a blank. -/
def furtherChars (values : List Node) : List Char :=
  values.flatMap fun x => ',' :: ' ' :: (allowedValueText x).toList

theorem toList_shownValues_cons (x : Node) (xs : List Node) :
    (shownValues (x :: xs)).toList = (allowedValueText x).toList ++ furtherChars xs := by
  induction xs generalizing x with
  | nil => simp [shownValues, furtherChars]
  | cons y ys ih =>
      have hsplit : shownValues (x :: y :: ys) = allowedValueText x ++ ", " ++ shownValues (y :: ys) :=
        String.intercalate_cons_cons
      rw [hsplit, String.toList_append, String.toList_append, ih]
      simp [furtherChars]

/-- Further values are read behind a value. -/
theorem itemsFollow_furtherChars (h : Node.inItems Node.isJsonPart xs = true) :
    ItemsFollow (furtherChars xs) xs := by
  induction xs with
  | nil => exact itemsFollow_nil
  | cons x xs ih =>
      rw [Node.inItems, Bool.and_eq_true] at h
      have hblank : AreBlank [' '] := by simp [AreBlank]
      exact itemsFollow_cons (readsAs_allowedValueText h.1) (ih h.2) hblank

/-- Shown values between brackets are read as an array. -/
theorem readsAs_shownValues (h : Node.inItems Node.isJsonPart xs = true) :
    ReadsAs ('[' :: (shownValues xs).toList ++ [']']) (.list xs) := by
  cases xs with
  | nil => exact readsAs_nil
  | cons x xs =>
      rw [Node.inItems, Bool.and_eq_true] at h
      have hblank : AreBlank [] := by simp [AreBlank]
      have harray := readsAs_list (readsAs_allowedValueText h.1) (itemsFollow_furtherChars h.2)
        hblank hblank
      rw [toList_shownValues_cons]
      simpa using harray

/-- So they are a JSON text of the array. -/
theorem read_shownValues (h : (Node.list xs).isJson = true) :
    Json.read ("[" ++ shownValues xs ++ "]") = .ok (.list xs) := by
  rw [Node.isJson, Node.everywhere, Bool.and_eq_true] at h
  have htext : "[" ++ shownValues xs ++ "]" = String.ofList ('[' :: (shownValues xs).toList ++ [']']) := by
    rw [← String.toList_inj, String.toList_ofList, String.toList_append, String.toList_append]
    rfl
  rw [htext, (readsAs_shownValues h.2).read_eq]

/-! ## Messages -/

/-- The finding of an enumeration shows the allowed values, unless its place cannot be resolved. -/
theorem toFinding_eq_shownValues {e : RawError} (hkeyword : e.keyword = "enum")
    (h : (Node.list e.allowedValues).isJson = true) (document : Node) :
    e.toFinding document =
      match Pointer.resolveText? document ("#" ++ e.instancePath) with
      | .error fault => .error fault
      | .ok found => .ok ⟨Wording.normalize e.property? e.message ++ ": " ++ shownValues e.allowedValues
          ++ suggestion e.allowedValues found, Location.segmentsOfPath e.instancePath⟩ := by
  have hshort : Node.anyLongInteger e.allowedValues = false := by
    rw [Node.isJson, Node.everywhere, Bool.and_eq_true] at h
    exact Node.anyLongInteger_of_isJson h.2
  rw [toFinding_enum document hkeyword, hshort, if_neg Bool.false_ne_true]
  rfl

/--
The allowed values that the message of an enumeration shows, between its heading and the suggestion,
are read back from it: between brackets they are a JSON document, which is the list of these values.
So no two such lists are shown as the same text.
-/
theorem parseDocument_shownValues {e : RawError} (hkeyword : e.keyword = "enum")
    (hjson : (Node.list e.allowedValues).isJson = true) :
    (∀ document, e.toFinding document =
      match Pointer.resolveText? document ("#" ++ e.instancePath) with
      | .error fault => .error fault
      | .ok found => .ok ⟨Wording.normalize e.property? e.message ++ ": " ++ shownValues e.allowedValues
          ++ suggestion e.allowedValues found, Location.segmentsOfPath e.instancePath⟩) ∧
      parseDocument ("[" ++ shownValues e.allowedValues ++ "]") ".json" = .ok (.list e.allowedValues) ∧
      ∀ values, (Node.list values).isJson = true → shownValues values = shownValues e.allowedValues →
        values = e.allowedValues := by
  have hread := read_shownValues hjson
  refine ⟨toFinding_eq_shownValues hkeyword hjson, parseDocument_of_read (by decide) hread, ?_⟩
  intro values hvalues hsame
  have hother := read_shownValues hvalues
  rw [hsame, hread] at hother
  cases hother
  rfl

/-- An enumeration whose values look like several others, and like the ends of values. -/
def hostileValues : RawError where
  keyword := "enum"
  instancePath := "/a~1b/0"
  message := .str "must be equal to one of the allowed values"
  params := [("allowedValues", .list [.str "a\", \"b", .int (-10), .str "[\\\x01\r\n\u2028]",
    .map [(.str "z", .list []), (.str "], ", .map [(.str "", .bool false)])], .null, .list [.list []]])]
  schemaPath := "#/enum"

/-- Allowed values with quotes, brackets and commas in them are read back from the message. -/
theorem parseDocument_shownValues_hostileValues :
    hostileValues.toFinding .null =
        .ok ⟨"\"0\" property must be equal to one of the allowed values: \"a\\\", \\\"b\", -10, "
          ++ "\"[\\\\\\u0001\\r\\n\u2028]\", \x7b\"z\":[],\"], \":\x7b\"\":false\x7d\x7d, null, [[]]",
          ["a/b", "0"]⟩ ∧
      (Node.list hostileValues.allowedValues).isJson = true ∧
      parseDocument ("[" ++ shownValues hostileValues.allowedValues ++ "]") ".json" =
        .ok (.list hostileValues.allowedValues) := by
  have hjson : (Node.list hostileValues.allowedValues).isJson = true := by decide +kernel
  obtain ⟨hfinding, hparse, -⟩ := parseDocument_shownValues rfl hjson
  refine ⟨?_, hjson, hparse⟩
  rw [hfinding .null]
  decide +kernel

end ApiLint.RawError
