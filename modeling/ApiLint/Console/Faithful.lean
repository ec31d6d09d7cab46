import ApiLint.Console.Printer
import ApiLint.Console.Verbatim
import Mathlib.Data.List.Forall2

/-!
# Faithful printers

A text is on lines if they have its characters one after the other, with nothing but blanks between them: lines may
be broken anywhere and filled up.  A row of a table is on lines if each of its texts is, in a column of its own.

A printer is asked to be faithful in four ways.  Ordinary words between the tags of a style are on the lines; so is
an escaped text between such tags, whatever it is; a text behind them that is not escaped is on the lines just if no
tag stands in it; and the rows of a table of escaped texts are on the lines one below the other.  No printer needs to
be faithful to all texts, but escaping must make all of them such that they can be printed.
-/

namespace ApiLint.Console

/-! ## Texts on lines -/

/-- Do lines have the characters of a text, but for blanks? -/
def HasText (lines : List String) (text : String) : Prop :=
  inked (lines.flatMap String.toList) = inked text.toList

/-- A line in three parts: what stands before a column, in it and behind it. -/
structure Slice where
  before : List Char
  inside : List Char
  behind : List Char

/-- The whole line. -/
def Slice.line (s : Slice) : String := String.ofList (s.before ++ s.inside ++ s.behind)

/-- Where a column starts, and how wide it is. -/
structure Column where
  start : Nat
  size : Nat
deriving DecidableEq

namespace Column

/-- Does a column take the middle part of a line? -/
def Takes (column : Column) (s : Slice) : Prop :=
  width s.before = column.start ∧ width s.inside = column.size

/-- Do lines have the characters of a text in a column, but for blanks? -/
def HasText (column : Column) (lines : List String) (text : String) : Prop :=
  ∃ slices : List Slice, lines = slices.map Slice.line ∧ (∀ s ∈ slices, column.Takes s) ∧
    inked (slices.flatMap Slice.inside) = inked text.toList

end Column

/-- Do lines have the texts of a row, each in its column? -/
def HasRow (columns : List Column) (lines row : List String) : Prop :=
  List.Forall₂ (fun text column => column.HasText lines text) row columns

/--
Do lines have rows of texts?  The lines of each row stand together, below those of the rows before it, and the columns
are the same for all rows and stand side by side.
-/
def HasRows (lines : List String) (rows : List (List String)) : Prop :=
  ∃ columns : List Column, columns.Pairwise (fun c d => c.start + c.size ≤ d.start) ∧
    ∃ top blocks bottom, lines = top ++ blocks.flatten ++ bottom ∧ List.Forall₂ (HasRow columns) blocks rows

/-! ## Words in a style -/

/-- The styles that words and texts are printed in. -/
def styleWords : List String := ["red", "green", "yellow", "bold"]

/-- A markup in a style, with other markup before it and behind it. -/
def styled (style before markup behind : String) : String :=
  before ++ "[" ++ style ++ "]" ++ markup ++ "[/" ++ style ++ "]" ++ behind

/-- Do all characters of a text stand for themselves in a markup, and does each take one column? -/
def IsOrdinary (cs : List Char) : Prop := ∀ c ∈ cs, c ≠ '\\' ∧ c ≠ '[' ∧ c ≠ ':' ∧ columns c = 1

instance {cs : List Char} : Decidable (IsOrdinary cs) := List.decidableBAll _ cs

/-- A table with a change to the texts in its rows. -/
def Table.mapRows (f : String → String) (t : Table) : Table := { t with rows := t.rows.map (List.map f) }

/-! ## Printers -/

namespace Printer

variable {π : Type} (printer : Printer π)

/-- Can a markup be printed, whatever is shown of it? -/
def CanPrint (markup : String) : Prop := ∃ lines, printer.print markup = .ok lines

/-- Is a markup printed on lines that have a text? -/
def Shows (markup text : String) : Prop := ∃ lines, printer.print markup = .ok lines ∧ HasText lines text

/-- Is a table printed on lines that have rows of texts? -/
def ShowsRows (t : Table) (rows : List (List String)) : Prop :=
  ∃ lines, printer.printTable t = .ok lines ∧ HasRows lines rows

/-- The texts that a printer should be faithful to. -/
structure Scope where
  /-- Texts that are escaped and stand between tags. -/
  escaped : String → Prop
  /-- Texts that stand behind tags as they are. -/
  plain : String → Prop
  /-- Tables whose texts are escaped. -/
  table : Table → Prop

/-- Is a printer faithful to the texts in its scope?  Escaped texts can be printed also if they are not. -/
structure IsFaithful (scope : Scope) : Prop where
  words : ∀ style ∈ styleWords, ∀ words, IsOrdinary words.toList →
    printer.Shows (styled style "" words "") words
  canPrint_escaped : ∀ style ∈ styleWords, ∀ before text behind,
    IsOrdinary before.toList → IsOrdinary behind.toList →
      printer.CanPrint (styled style before (printer.escape text) behind)
  escaped : ∀ style ∈ styleWords, ∀ before text behind,
    IsOrdinary before.toList → IsOrdinary behind.toList → scope.escaped text →
      printer.Shows (styled style before (printer.escape text) behind) (before ++ text ++ behind)
  canPrint_plain : ∀ style ∈ styleWords, ∀ label text, IsOrdinary label.toList →
    ¬Markup.HasTag text.toList → printer.CanPrint (styled style "" (label ++ ":") (" " ++ text))
  plain : ∀ style ∈ styleWords, ∀ label text, IsOrdinary label.toList → scope.plain text →
    (printer.Shows (styled style "" (label ++ ":") (" " ++ text)) (label ++ ": " ++ text) ↔
      ¬Markup.HasTag text.toList)
  canPrint_table : ∀ t : Table, IsOrdinary t.title.toList → (∀ header ∈ t.headers, IsOrdinary header.toList) →
    ∃ lines, printer.printTable (t.mapRows printer.escape) = .ok lines
  table : ∀ t : Table, IsOrdinary t.title.toList → (∀ header ∈ t.headers, IsOrdinary header.toList) →
    scope.table t → printer.ShowsRows (t.mapRows printer.escape) t.rows

end Printer

/-! ## The standard scope -/

/-- Is every character of a text shown as it is, with no emoji in its place? -/
def IsPlain (cs : List Char) : Prop := IsNarrow cs ∧ Emoji.IsCodeFree cs ∧ Markup.IsTidy cs

instance {cs : List Char} : Decidable (IsPlain cs) := inferInstanceAs (Decidable (_ ∧ _ ∧ _))

/-- Has every text in a table room in its column? -/
def Table.HasRoomOn (t : Table) (columns : Nat) : Prop :=
  ∀ row ∈ t.rows, List.Forall₂ (fun w text => padding < w ∧ HasRoom (w - padding) text.toList)
    (columnWidths columns (t.headers.map String.toList) (t.rows.map (List.map String.toList))) row

instance {t : Table} {columns : Nat} : Decidable (t.HasRoomOn columns) := List.decidableBAll _ _

/--
What the standard printer for a console of so many columns is faithful to.  A backslash at the end of an escaped text
is kept between tags if it is the only one, and in a table if it is not.
-/
def Printer.Scope.standard (columns : Nat) : Printer.Scope where
  escaped text := IsPlain text.toList ∧ Markup.backslashesAtEnd 0 text.toList ≤ 1
  plain text := IsPlain text.toList
  table t := (∀ row ∈ t.rows, ∀ text ∈ row,
    IsPlain text.toList ∧ Markup.backslashesAtEnd 0 text.toList ≠ 1) ∧ t.HasRoomOn columns

end ApiLint.Console
