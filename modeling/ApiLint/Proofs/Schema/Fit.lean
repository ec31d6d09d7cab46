import ApiLint.Proofs.Node.Size
import ApiLint.Proofs.Pointer.Location
import ApiLint.Proofs.Schema.Outcome
import ApiLint.Schema.RawErrors

/-!
# Violations that fit a value

What makes a violation reportable: its path leads to a place in the value, both of its places can be
written, and what its keyword shows beside the message can be found and written.  A violation that
fits a part of a value fits the value when it is moved below the part.

Main results:

- Theorem `Fits.below`: a violation of a part, below the part.
- Theorem `ensures_descend_below`: a subschema for a part of the value.
- Theorem `ensures_descend_beside`: a subschema for the value itself.
-/

namespace ApiLint.Schema

namespace Violation

/-- Everything that reporting a violation by a value relies on. -/
structure Fits (subject : Node) (v : Violation) : Prop where
  place : ∃ x, subject.at? v.path = some x
  keyword : v.keyword ≠ "if"
  values : v.keyword = "enum" → v.keywordValue.hasLongInteger = false
  names : v.keyword = "additionalProperties" →
    ∃ names : List String, unexpectedNames v.subject v.schema = .ok (names.map .str)
  schemaPlace : Node.anyLongInteger v.schemaPath = false

variable {x y : Node} {v : Violation}

/-- A violation at the root of a value fits any other value too. -/
theorem Fits.at_root (h : v.Fits x) (hpath : v.path = []) (y : Node) : v.Fits y where
  place := ⟨y, by rw [hpath]; rfl⟩
  keyword := h.keyword
  values := h.values
  names := h.names
  schemaPlace := h.schemaPlace

/-- A violation by a part of a value fits the value below the part. -/
theorem Fits.below {part : Node} {schemaPart : Option Node} (h : v.Fits x)
    (hchild : y.child? part = some x) (hschema : Node.anyLongInteger schemaPart.toList = false) :
    (v.under (some part) schemaPart).Fits y where
  place := by
    obtain ⟨z, hz⟩ := h.place
    have hpath : (v.under (some part) schemaPart).path = part :: v.path := rfl
    refine ⟨z, ?_⟩
    rw [hpath, Node.at?, hchild]
    exact hz
  keyword := h.keyword
  values := h.values
  names := h.names
  schemaPlace := by
    rw [under, Node.anyLongInteger_append, hschema, h.schemaPlace]
    rfl

/-- A violation fits the value wherever in the schema it is placed. -/
theorem Fits.beside {schemaPart : Option Node} (h : v.Fits x)
    (hschema : Node.anyLongInteger schemaPart.toList = false) :
    (v.under none schemaPart).Fits x where
  place := h.place
  keyword := h.keyword
  values := h.values
  names := h.names
  schemaPlace := by
    rw [under, Node.anyLongInteger_append, hschema, h.schemaPlace]
    rfl

/-- Below a string there are no places. -/
theorem Fits.path_eq_nil {s : String} (h : v.Fits (.str s)) : v.path = [] := by
  obtain ⟨z, hz⟩ := h.place
  cases hpath : v.path with
  | nil => rfl
  | cons part rest =>
      rw [hpath] at hz
      cases hz

end Violation

namespace Site

open Outcome Violation

/--
A site in a schema of writable size, for a plain value, whose subschemas report fitting violations.
-/
structure IsSound (site : Site) : Prop where
  subject : site.subject.IsPlain
  entries : (Node.map site.entries).size ≤ site.root.size
  value : site.value.size ≤ site.root.size
  root : site.root.size < leastLong
  check : ∀ schema x, schema.size ≤ site.root.size → x.IsPlain →
    (site.check schema x).Ensures (Fits x)
  refuse : ∀ b x, (site.check (.bool b) x).Ensures fun v => v.path = []

variable {site : Site} {P : Violation → Prop}

/-! ## Reports -/

/-- What a keyword reports fits the value, if what it shows can be found and written. -/
theorem ensures_reportAs {keyword : String} {value : Node} (message : String) (hif : keyword ≠ "if")
    (hvalues : keyword = "enum" → value.hasLongInteger = false)
    (hnames : keyword = "additionalProperties" →
      ∃ names : List String,
        unexpectedNames site.subject (.map site.entries) = .ok (names.map .str)) :
    (site.reportAs keyword value message).Ensures (Fits site.subject) :=
  ensures_one {
    place := ⟨site.subject, rfl⟩
    keyword := hif
    values := hvalues
    names := hnames
    schemaPlace := rfl }

/-! ## Subschemas -/

theorem ensures_descendFreely {schema x : Node} {path schemaPath : Option Node}
    (hbool : ∀ b, schema = .bool b → (site.check schema x).Ensures P)
    (hmoved : (site.check schema x).Ensures fun v => P (v.under path schemaPath)) :
    (site.descendFreely schema x path schemaPath).Ensures P := by
  cases schema with
  | bool b => exact hbool b rfl
  | _ => exact ensures_map hmoved

theorem ensures_descend {schema x : Node} {path schemaPath : Option Node}
    (h : subschemaFault? site.draft schema = none →
      (site.descendFreely schema x path schemaPath).Ensures P) :
    (site.descend schema x path schemaPath).Ensures P := by
  rw [descend, withSubschema]
  cases hfault : subschemaFault? site.draft schema with
  | some fault => exact ensures_fail fault
  | none => exact h hfault

variable {schema x part : Node} {schemaPart : Option Node} (hsound : site.IsSound)

include hsound

/-- The violation of a schema that nothing satisfies fits any value. -/
theorem ensures_check_bool {b : Bool} (hsize : (Node.bool b).size ≤ site.root.size)
    (hplain : x.IsPlain)
    (y : Node) : (site.check (.bool b) x).Ensures (Fits y) :=
  ((hsound.check (.bool b) x hsize hplain).and (hsound.refuse b x)).mono
    fun _ h => h.1.at_root h.2 y

/-- A subschema for a part of the value. -/
theorem ensures_descend_below (hsize : schema.size ≤ site.root.size)
    (hchild : site.subject.child? part = some x)
    (hschema : Node.anyLongInteger schemaPart.toList = false) :
    (site.descend schema x (some part) schemaPart).Ensures (Fits site.subject) := by
  have hplain : x.IsPlain := hsound.subject.child hchild
  refine ensures_descend fun _ => ensures_descendFreely ?_ ?_
  · rintro b rfl
    exact ensures_check_bool hsound hsize hplain site.subject
  · exact (hsound.check schema x hsize hplain).mono fun v h => h.below hchild hschema

/-- A subschema for the value itself, freely. -/
theorem ensures_descendFreely_beside (hsize : schema.size ≤ site.root.size)
    (hschema : Node.anyLongInteger schemaPart.toList = false) :
    (site.descendFreely schema site.subject none schemaPart).Ensures (Fits site.subject) := by
  refine ensures_descendFreely ?_ ?_
  · rintro b rfl
    exact ensures_check_bool hsound hsize hsound.subject site.subject
  · exact (hsound.check schema site.subject hsize hsound.subject).mono fun v h => h.beside hschema

/-- A subschema for the value itself. -/
theorem ensures_descend_beside (hsize : schema.size ≤ site.root.size)
    (hschema : Node.anyLongInteger schemaPart.toList = false) :
    (site.descend schema site.subject none schemaPart).Ensures (Fits site.subject) :=
  ensures_descend fun _ => ensures_descendFreely_beside hsound hsize hschema

/-- A subschema for a name, whose violations stay at the root of the value. -/
theorem ensures_descend_name (hsize : schema.size ≤ site.root.size) (s : String) :
    (site.descend schema (.str s) none none).Ensures (Fits site.subject) := by
  have hplain : (Node.str s).IsPlain := Node.isPlain_str s
  refine ensures_descend fun _ => ensures_descendFreely ?_ ?_
  · rintro b rfl
    exact ensures_check_bool hsound hsize hplain site.subject
  · exact (hsound.check schema (.str s) hsize hplain).mono fun v h => h.at_root h.path_eq_nil _

end Site

end ApiLint.Schema
