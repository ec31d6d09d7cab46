import ApiLint.CommandLine.Saying
import ApiLint.Proofs.Console.Faithful
import ApiLint.Proofs.Number.Numeral

/-!
# What lint commands say literally

Each line is a markup in one style: a text stands between the tags or behind them, with ordinary words around it.  All
texts from outside are escaped but one, the path that findings were saved at.  So a faithful printer can print all that
is said unless a tag stands in that path, and its lines have what is said just if none does.

Main results:

- Theorem `Saying.exists_printed`: what can be printed.
- Theorem `Saying.isOn_iff`: what is printed literally.
-/

namespace ApiLint.CommandLine

open Console

/-! ## Ordinary words -/

/-- Digits are ordinary. -/
theorem isOrdinary_toDigits (n : Nat) : IsOrdinary (Nat.toDigits 10 n) := by
  intro c hmem
  obtain ⟨hlow, hhigh⟩ := Text.isAsciiDigit_iff.mp (Text.isAsciiDigit_of_mem_toDigits hmem)
  refine ⟨?_, ?_, ?_, ?_⟩
  · rintro rfl
    exact absurd hhigh (by decide)
  · rintro rfl
    exact absurd hhigh (by decide)
  · rintro rfl
    exact absurd hhigh (by decide)
  · rw [columns, if_pos (by omega)]

/-- So are the tags of formats. -/
theorem isOrdinary_tag (variant : Variant) : IsOrdinary variant.tag.toList := by
  cases variant <;> decide

/-- What stands on both sides of a markup in a style. -/
theorem styled_eq (style before markup behind : String) :
    styled style before markup behind =
      (before ++ "[" ++ style ++ "]") ++ markup ++ ("[/" ++ style ++ "]" ++ behind) := by
  simp only [styled, String.append_assoc]

/-! ## Remarks -/

namespace Remark

variable (escape : String → String)

/-- An error stands between two tags. -/
theorem markup_error (message : String) :
    (Remark.error message).markup escape = styled "red" "" (escape message) "" := by
  rw [styled_eq]
  rfl

/-- The path of a document stands between two tags. -/
theorem markup_linting (path : FilePath) (variant : Variant) :
    (Remark.linting path variant).markup escape =
      styled "bold" "Linting " (escape path.text) (" as " ++ variant.tag ++ "...") := by
  have hclose : "[/bold] as " = "[/" ++ "bold" ++ "]" ++ " as " := by decide
  have hopen : "Linting [bold]" = "Linting " ++ "[" ++ "bold" ++ "]" := by decide
  have hmarkup : (Remark.linting path variant).markup escape =
      "Linting [bold]" ++ escape path.text ++ "[/bold] as " ++ variant.tag ++ "..." := rfl
  rw [styled_eq, hmarkup, hclose, hopen]
  simp only [String.append_assoc]

/-- That a format has no schema is said in ordinary words. -/
theorem markup_skipping (variant : Variant) :
    (Remark.skipping variant).markup escape =
      styled "yellow" "" ("No schema configured for " ++ variant.tag ++ ", skipping.") "" := by
  cases variant <;> rfl

/-- The path that findings were saved at stands behind two tags. -/
theorem markup_saved (output : FilePath) :
    (Remark.saved output).markup escape =
      styled "green" "" ("Findings" ++ ":") (" " ++ output.text) := by
  have hlabel : "[green]Findings:[/green] " =
      "" ++ "[" ++ "green" ++ "]" ++ ("Findings" ++ ":") ++ ("[/" ++ "green" ++ "]" ++ " ") := by decide
  have hmarkup : (Remark.saved output).markup escape = "[green]Findings:[/green] " ++ output.text := rfl
  rw [styled_eq, hmarkup, hlabel]
  simp only [String.append_assoc]

/-- That nothing was found is said in ordinary words. -/
theorem markup_noFindings :
    Remark.noFindings.markup escape = styled "green" "" "No findings." "" :=
  rfl

/-- The number of findings stands between two tags. -/
theorem markup_found (count : Nat) :
    (Remark.found count).markup escape =
      styled "red" "" ("Found " ++ toString count ++ " finding(s).") "" := by
  have hopen : "[red]Found " = "" ++ "[" ++ "red" ++ "]" ++ "Found " := by decide
  have hclose : " finding(s).[/red]" = " finding(s)." ++ ("[/" ++ "red" ++ "]" ++ "") := by decide
  have hmarkup : (Remark.found count).markup escape =
      "[red]Found " ++ toString count ++ " finding(s).[/red]" := rfl
  rw [styled_eq, hmarkup, hopen, hclose]
  simp only [String.append_assoc]

end Remark

/-! ## Faithful printers -/

section

variable {kit : Kit} {scope : Printer.Scope}

namespace Remark

/-- The words behind the path of a document are ordinary. -/
theorem isOrdinary_behindPath (variant : Variant) :
    IsOrdinary (" as " ++ variant.tag ++ "...").toList := by
  rw [String.toList_append, String.toList_append]
  exact (IsOrdinary.append (by decide) (isOrdinary_tag variant)).append (by decide)

theorem isOrdinary_skipping (variant : Variant) : IsOrdinary (Remark.skipping variant).text.toList := by
  have htext : (Remark.skipping variant).text =
      "No schema configured for " ++ variant.tag ++ ", skipping." := rfl
  rw [htext, String.toList_append, String.toList_append]
  exact (IsOrdinary.append (by decide) (isOrdinary_tag variant)).append (by decide)

theorem isOrdinary_found (count : Nat) : IsOrdinary (Remark.found count).text.toList := by
  have hdigits : (toString count).toList = Nat.toDigits 10 count := by simp
  have htext : (Remark.found count).text = "Found " ++ toString count ++ " finding(s)." := rfl
  rw [htext, String.toList_append, String.toList_append, hdigits]
  exact (IsOrdinary.append (by decide) (isOrdinary_toDigits count)).append (by decide)

/-- All lines can be printed but that of a path in which a tag stands. -/
theorem canPrint (hfaithful : kit.printer.IsFaithful scope) (remark : Remark)
    (hraw : ¬ (Saying.line remark).HasRawTag) : kit.printer.CanPrint (remark.markup kit.escape) := by
  cases remark with
  | error message =>
      rw [markup_error]
      exact hfaithful.canPrint_escaped "red" (by decide) "" message "" (by decide) (by decide)
  | linting path variant =>
      rw [markup_linting]
      exact hfaithful.canPrint_escaped "bold" (by decide) _ path.text _ (by decide)
        (isOrdinary_behindPath variant)
  | skipping variant =>
      rw [markup_skipping]
      obtain ⟨lines, hlines, -⟩ := hfaithful.words "yellow" (by decide) _ (isOrdinary_skipping variant)
      exact ⟨lines, hlines⟩
  | saved output =>
      rw [markup_saved]
      exact hfaithful.canPrint_plain "green" (by decide) "Findings" output.text (by decide) hraw
  | noFindings =>
      rw [markup_noFindings]
      obtain ⟨lines, hlines, -⟩ := hfaithful.words "green" (by decide) "No findings." (by decide)
      exact ⟨lines, hlines⟩
  | found count =>
      rw [markup_found]
      obtain ⟨lines, hlines, -⟩ := hfaithful.words "red" (by decide) _ (isOrdinary_found count)
      exact ⟨lines, hlines⟩

/-- The lines have the text of what is said just if no tag stands in a text that is not escaped. -/
theorem shows_iff (hfaithful : kit.printer.IsFaithful scope) (remark : Remark)
    (hscope : (Saying.line remark).IsIn scope) :
    kit.printer.Shows (remark.markup kit.escape) remark.text ↔ ¬ (Saying.line remark).HasRawTag := by
  cases remark with
  | error message =>
      refine iff_of_true ?_ id
      have hshows := hfaithful.escaped "red" (by decide) "" message "" (by decide) (by decide) hscope
      rwa [String.empty_append, String.append_empty, ← markup_error] at hshows
  | linting path variant =>
      refine iff_of_true ?_ id
      have hshows := hfaithful.escaped "bold" (by decide) "Linting " path.text
        (" as " ++ variant.tag ++ "...") (by decide) (isOrdinary_behindPath variant) hscope
      have hdef : (Remark.linting path variant).text =
          "Linting " ++ path.text ++ " as " ++ variant.tag ++ "..." := rfl
      have htext : (Remark.linting path variant).text =
          "Linting " ++ path.text ++ (" as " ++ variant.tag ++ "...") := by
        rw [hdef]
        simp only [String.append_assoc]
      rw [markup_linting, htext]
      exact hshows
  | skipping variant =>
      refine iff_of_true ?_ id
      rw [markup_skipping]
      exact hfaithful.words "yellow" (by decide) _ (isOrdinary_skipping variant)
  | saved output =>
      rw [markup_saved]
      exact hfaithful.plain "green" (by decide) "Findings" output.text (by decide) hscope
  | noFindings =>
      refine iff_of_true ?_ id
      rw [markup_noFindings]
      exact hfaithful.words "green" (by decide) "No findings." (by decide)
  | found count =>
      refine iff_of_true ?_ id
      rw [markup_found]
      exact hfaithful.words "red" (by decide) _ (isOrdinary_found count)

end Remark

/-- The table of findings is that of their texts, each of them escaped. -/
theorem findingsTable_eq (findings : List Finding) :
    kit.findingsTable findings = (plainTable findings).mapRows kit.escape := by
  simp [Kit.findingsTable, plainTable, Table.mapRows, List.map_map, Function.comp_def]

/-- Its title and its headers are ordinary. -/
theorem isOrdinary_plainTable (findings : List Finding) :
    IsOrdinary (plainTable findings).title.toList ∧
      ∀ header ∈ (plainTable findings).headers, IsOrdinary header.toList := by
  have hheaders : ∀ header ∈ ["Path", "Message"], IsOrdinary header.toList := by decide
  exact ⟨show IsOrdinary "Findings".toList by decide, hheaders⟩

namespace Saying

/-- Whatever is said can be printed, but for a path in which a tag stands. -/
theorem exists_printed (hfaithful : kit.printer.IsFaithful scope) {saying : Saying}
    (hraw : ¬ saying.HasRawTag) : ∃ lines, saying.printed kit = .ok lines := by
  cases saying with
  | line remark => exact remark.canPrint hfaithful hraw
  | table findings =>
      obtain ⟨htitle, hheaders⟩ := isOrdinary_plainTable findings
      rw [printed, findingsTable_eq]
      exact hfaithful.canPrint_table (plainTable findings) htitle hheaders

/-- It is on the lines that are printed just if no tag stands in that path. -/
theorem isOn_iff (hfaithful : kit.printer.IsFaithful scope) {saying : Saying} (hscope : saying.IsIn scope) :
    (∃ lines, saying.printed kit = .ok lines ∧ saying.IsOn lines) ↔ ¬ saying.HasRawTag := by
  cases saying with
  | line remark => exact remark.shows_iff hfaithful hscope
  | table findings =>
      obtain ⟨htitle, hheaders⟩ := isOrdinary_plainTable findings
      refine iff_of_true ?_ id
      rw [printed, findingsTable_eq]
      exact hfaithful.table (plainTable findings) htitle hheaders hscope

end Saying

end

end ApiLint.CommandLine
