import ApiLint.Console.Table

/-!
# Printers

What prints on a console: it shows markup in lines, makes the markup that shows a text as it is, and draws tables.
What cannot be shown is a fault of the printer's own kind.
-/

namespace ApiLint.Console

/-- What prints on a console. -/
structure Printer (π : Type) where
  /-- The markup that shows a text as it is. -/
  escape : String → String
  /-- The lines that a markup is shown on. -/
  print : String → Except π (List String)
  /-- The lines that a table is shown on. -/
  printTable : Table → Except π (List String)

/-- The printer for a console of so many columns. -/
@[reducible]
def Printer.standard (columns : Nat) : Printer Markup.Fault where
  escape := Markup.escape
  print := Console.print columns
  printTable := Table.print columns

end ApiLint.Console
