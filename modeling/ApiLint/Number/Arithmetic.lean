import ApiLint.Number.Numeral
import ApiLint.Number.Binary64

/-!
# Rounded arithmetic and written numbers

Sums and products of binary64 numbers, rounded once, and the reading of decimal numbers with a point or an
exponent.
-/

namespace ApiLint.Binary64

/-- The rounded sum; opposite infinities have none. -/
def add (x y : Binary64) : Binary64 :=
  match Quantity.ofBinary64 x, Quantity.ofBinary64 y with
  | .finite p, .finite q => ofRat false (p + q)
  | .infinite a, .infinite b => if a = b then infinity a else nan
  | .infinite a, .finite _ => infinity a
  | .finite _, .infinite b => infinity b
  | _, _ => nan

/-- The rounded product; an infinity times zero has none. -/
def mul (x y : Binary64) : Binary64 :=
  match Quantity.ofBinary64 x, Quantity.ofBinary64 y with
  | .finite p, .finite q => ofRat false (p * q)
  | .infinite a, .infinite b => infinity (a != b)
  | .infinite a, .finite q => if q = 0 then nan else infinity (a != (q < 0 : Bool))
  | .finite p, .infinite b => if p = 0 then nan else infinity (b != (p < 0 : Bool))
  | _, _ => nan

/-- The exponent that a text writes after its letter, with or without a sign. -/
def exponent? : List Char → Option Int
  | [] => some 0
  | letter :: rest =>
    if letter == 'e' || letter == 'E' then
      let (negative, digits) := match rest with
        | '+' :: digits => (false, digits)
        | '-' :: digits => (true, digits)
        | digits => (false, digits)
      if digits.isEmpty || !digits.all Text.isAsciiDigit then none
      else
        let n := Int.ofNat (Text.numeral digits)
        some (if negative then -n else n)
    else none

/-- The number that digits with an optional point and an optional exponent write. -/
def ofDigits? (negative : Bool) (cs : List Char) : Option Binary64 :=
  let whole := cs.takeWhile Text.isAsciiDigit
  let (fraction, rest) := match cs.dropWhile Text.isAsciiDigit with
    | '.' :: more => (more.takeWhile Text.isAsciiDigit, more.dropWhile Text.isAsciiDigit)
    | more => ([], more)
  if whole.isEmpty && fraction.isEmpty then none
  else
    (exponent? rest).map fun e =>
      ofDecimal negative (Text.numeral (whole ++ fraction)) (e - Int.ofNat fraction.length)

end ApiLint.Binary64
