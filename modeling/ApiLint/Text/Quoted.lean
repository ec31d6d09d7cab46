import ApiLint.Number.Numeral
import ApiLint.Text.Printable

/-!
# Quoted text

How a message shows a string so that its ends and its invisible characters can be seen.  Single quotes
are the rule; double quotes are used when the text holds single ones and no double ones.
-/

namespace ApiLint.Text

/-- The quote that encloses a text. -/
def quoteFor (cs : List Char) : Char :=
  if cs.contains '\'' && !cs.contains '"' then '"' else '\''

/-- One character between quotes. -/
def quotedChar (quote c : Char) : List Char :=
  if c == quote || c == '\\' then ['\\', c]
  else if c == '\n' then ['\\', 'n']
  else if c == '\r' then ['\\', 'r']
  else if c == '\t' then ['\\', 't']
  else if isPrintable c then [c]
  else if c.toNat < 0x100 then '\\' :: 'x' :: hexadecimal c.toNat 2
  else if c.toNat < 0x10000 then '\\' :: 'u' :: hexadecimal c.toNat 4
  else '\\' :: 'U' :: hexadecimal c.toNat 8

/-- The characters of a quoted text. -/
def quotedChars (cs : List Char) : List Char :=
  let quote := quoteFor cs
  quote :: cs.flatMap (quotedChar quote) ++ [quote]

/-- A text between quotes, with escapes for what cannot be seen. -/
def quoted (s : String) : String := String.ofList (quotedChars s.toList)

/-- One byte between quotes; only visible ASCII stands for itself. -/
def quotedByte (quote : Char) (b : UInt8) : List Char :=
  let c := Char.ofNat b.toNat
  if c == quote || c == '\\' then ['\\', c]
  else if c == '\n' then ['\\', 'n']
  else if c == '\r' then ['\\', 'r']
  else if c == '\t' then ['\\', 't']
  else if 32 ≤ b.toNat ∧ b.toNat < 127 then [c]
  else '\\' :: 'x' :: hexadecimal b.toNat 2

/-- Bytes between quotes, after the letter that marks them. -/
def quotedBytes (bs : List UInt8) : String :=
  let quote := quoteFor (bs.map fun b => Char.ofNat b.toNat)
  String.ofList ('b' :: quote :: bs.flatMap (quotedByte quote) ++ [quote])

end ApiLint.Text
