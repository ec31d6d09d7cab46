/-!
# Numerals

Natural numbers written with ASCII digits, decimal and hexadecimal.  A decimal numeral that is read as an
integer, or that an integer is written as, has at most `digitLimit` digits; a longer one is refused with
`LongNumeral`.
-/

namespace ApiLint

/-- Decimal integers with more digits than this are refused. -/
def digitLimit : Nat := 4300

/-- The least number with too many digits. -/
def leastLong : Nat := Nat.pow 10 digitLimit

/-- A decimal numeral with too many digits. -/
inductive LongNumeral where
  /-- A numeral to be read. -/
  | toRead (digits : Nat)
  /-- The numeral of an integer to be written, whose digits are not counted. -/
  | toWrite
deriving DecidableEq

/-- The wording of the refusal. -/
def LongNumeral.message (e : LongNumeral) : String :=
  let count := match e with
    | .toRead digits => ": value has " ++ toString digits ++ " digits"
    | .toWrite => ""
  "Exceeds the limit (" ++ toString digitLimit ++ " digits) for integer string conversion" ++ count
    ++ "; use sys.set_int_max_str_digits() to increase the limit"

/-- Has an integer too many digits to be written?  Its binary digits tell most of the others apart. -/
def isLongInteger (n : Int) : Bool := digitLimit ≤ n.natAbs.log2 && leastLong ≤ n.natAbs

namespace Text

/-- Is the character one of `0` to `9`? -/
def isAsciiDigit (c : Char) : Bool := '0' ≤ c && c ≤ '9'

/-- The number written by ASCII digits. -/
def numeral (digits : List Char) : Nat :=
  digits.foldl (fun n c => 10 * n + (c.toNat - '0'.toNat)) 0

/-- The value of a hexadecimal digit. -/
def hexValue? (c : Char) : Option Nat :=
  if isAsciiDigit c then some (c.toNat - '0'.toNat)
  else if 'a' ≤ c && c ≤ 'f' then some (c.toNat - 'a'.toNat + 10)
  else if 'A' ≤ c && c ≤ 'F' then some (c.toNat - 'A'.toNat + 10)
  else none

/-- A lower-case hexadecimal digit. -/
def hexDigit (n : Nat) : Char := Nat.digitChar (n % 16)

/-- A number in hexadecimal, filled up with zeros to the given width. -/
def hexadecimal (n : Nat) : Nat → List Char
  | 0 => []
  | width + 1 => hexadecimal (n / 16) width ++ [hexDigit n]

/-- The number written by decimal digits, unless there are too many. -/
def numeralWithin (digits : List Char) : Except LongNumeral Nat :=
  if digitLimit < digits.length then .error (.toRead digits.length) else .ok (numeral digits)

end Text

end ApiLint
