import ApiLint.Load.Document

/-!
# Laws of loading documents

The text of a file that was written from a string is that string, if the string has no carriage
returns.  A text that is JSON is the document that it holds, whatever its suffix is, unless the
suffix says YAML.

Main results:

- Theorem `decodeFile_toUTF8`: a text without carriage returns is decoded as it was encoded.
- Theorem `parseDocument_of_read`: JSON is read as JSON unless the suffix says YAML.
- Theorem `loadDocument_of_read`: a JSON file that can be read is loaded.
-/

namespace ApiLint

/-! ## The text of a file -/

namespace Text

/-- An encoded string is decoded. -/
theorem decodeUtf8_toUTF8 (s : String) : decodeUtf8 s.toUTF8 = .ok s := by
  have hdecode : String.fromUTF8? s.toUTF8 = some s := by
    simp only [String.fromUTF8?, String.toUTF8_eq_toByteArray, dif_pos s.isValidUTF8]
    rfl
  rw [decodeUtf8, hdecode]

/-- Lines that are ended by nothing but line feeds are left alone. -/
theorem unifyNewlines_of_notMem {cs : List Char} (h : '\r' ∉ cs) : unifyNewlines cs = cs := by
  induction cs with
  | nil => rfl
  | cons c cs ih =>
      simp only [List.mem_cons, not_or] at h
      rw [unifyNewlines.eq_def]
      split
      · rename_i heq
        exact absurd (List.cons.inj heq).1.symm h.1
      · rename_i heq
        exact absurd (List.cons.inj heq).1.symm h.1
      · rename_i heq
        obtain ⟨rfl, rfl⟩ := List.cons.inj heq
        rw [ih h.2]
      · rename_i heq
        cases heq

end Text

/-- A text without carriage returns is decoded as it was encoded. -/
theorem decodeFile_toUTF8 {s : String} (h : '\r' ∉ s.toList) : decodeFile s.toUTF8 = .ok s := by
  simp only [decodeFile, Text.decodeUtf8_toUTF8, Text.unifyNewlines_of_notMem h, String.ofList_toList]

/-! ## The form of a text -/

/-- A small letter stays as it is. -/
theorem toLower_toLower (c : Char) : c.toLower.toLower = c.toLower := by
  have hsmall : ¬(c.toLower.val ≥ 'A'.val ∧ c.toLower.val ≤ 'Z'.val) := by
    by_cases hcapital : c.val ≥ 'A'.val ∧ c.val ≤ 'Z'.val
    · have hval : c.toLower.val = c.val + ('a'.val - 'A'.val) := congrArg Char.val (dif_pos hcapital)
      rw [hval]
      grind [UInt32.toNat_add]
    · have hsame : c.toLower = c := dif_neg hcapital
      rwa [hsame]
  exact dif_neg hsmall

namespace FilePath

/-- A suffix has no capital letters. -/
theorem map_toLower_suffix (p : FilePath) : p.suffix.toList.map Char.toLower = p.suffix.toList := by
  rw [suffix, String.toList_ofList, List.map_map]
  exact List.map_congr_left fun c _ => toLower_toLower c

end FilePath

/-- A path whose suffix does not say YAML leads to a text that is not YAML alone. -/
theorem TextForm.ofSuffix_ne_yaml {p : FilePath} (hyaml : p.suffix ≠ ".yaml")
    (hyml : p.suffix ≠ ".yml") : TextForm.ofSuffix p.suffix ≠ .yaml := by
  have hne : ∀ {name : String}, p.suffix ≠ name → p.suffix.toList ≠ name.toList := by
    intro name hname heq
    exact hname (String.toList_injective heq)
  simp only [TextForm.ofSuffix, FilePath.map_toLower_suffix, hne hyaml, hne hyml, or_self, if_false]
  split <;> exact TextForm.noConfusion

/-- JSON is read as JSON unless the suffix says YAML. -/
theorem parseDocument_of_read {text suffix : String} {x : Node}
    (hform : TextForm.ofSuffix suffix ≠ .yaml) (hread : Json.read text = .ok x) :
    parseDocument text suffix = .ok x := by
  have hjson : Readers.standard.readJson text = .ok x := by
    rw [Readers.readJson, if_neg Bool.false_ne_true, hread]
  rw [parseDocument, Readers.parseDocument]
  cases hsuffix : TextForm.ofSuffix suffix with
  | yaml => exact absurd hsuffix hform
  | json =>
      dsimp only
      rw [hjson]
      rfl
  | either =>
      dsimp only
      rw [hjson]
      rfl

namespace FileTree

variable {t : FileTree} {p : FilePath} {text : String}

/-- A file that can be read is loaded as the document of its text. -/
theorem loadDocument_of_holds (hfile : t.Holds p text.toUTF8) (hreturn : '\r' ∉ text.toList) :
    t.loadDocument p = (parseDocument text p.suffix).mapError (Reported.map id .value) := by
  simp only [loadDocument, Readers.loadDocument, hfile.isFile, hfile.read, decodeFile_toUTF8 hreturn,
    parseDocument]

/-- A text without carriage returns that is JSON is loaded, unless the suffix says YAML. -/
theorem loadDocument_of_read {x : Node} (hfile : t.Holds p text.toUTF8) (hreturn : '\r' ∉ text.toList)
    (hread : Json.read text = .ok x) (hform : TextForm.ofSuffix p.suffix ≠ .yaml) :
    t.loadDocument p = .ok x := by
  rw [loadDocument_of_holds hfile hreturn, parseDocument_of_read hform hread]
  rfl

end FileTree

end ApiLint
