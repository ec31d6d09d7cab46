/-!
# Binary floating-point numbers

A binary64 number is kept as its 64 bits, so that two of them can be told apart by `decide` and every
operation below is exact integer or rational arithmetic.  `view` reads the bits, `nearest` rounds a ratio
to the closest binary64 number, and `exactValue` gives the rational that a finite one stands for.
-/

namespace ApiLint

/-- A binary64 number, identified by its bits. -/
structure Binary64 where
  bits : UInt64
deriving DecidableEq

namespace Binary64

/-- What the bits of a binary64 number stand for. -/
inductive View where
  | nan
  | infinite (negative : Bool)
  /-- The number `± mantissa * 2 ^ exponent`. -/
  | finite (negative : Bool) (mantissa : Nat) (exponent : Int)
deriving DecidableEq

/-- The number of mantissas of one exponent, `2 ^ 52`. -/
def mantissaSpan : Nat := 4503599627370496

/-- The bits of positive infinity, as a number: the least pattern that is not finite. -/
def infiniteBits : Nat := 2047 * mantissaSpan

/-- Put the sign bit before a 63-bit magnitude. -/
def ofMagnitude (negative : Bool) (magnitude : Nat) : Binary64 :=
  ⟨UInt64.ofNat (if negative then 9223372036854775808 + magnitude else magnitude)⟩

/-- Is the sign bit set? -/
def isNegative (x : Binary64) : Bool :=
  9223372036854775808 ≤ x.bits.toNat

/-- The 63 bits after the sign, as a number. -/
def magnitude (x : Binary64) : Nat :=
  x.bits.toNat % 9223372036854775808

/-- Read sign, mantissa and exponent. -/
def view (x : Binary64) : View :=
  let biased := x.magnitude / mantissaSpan
  let fraction := x.magnitude % mantissaSpan
  if biased = 2047 then
    if fraction = 0 then .infinite x.isNegative else .nan
  else if biased = 0 then .finite x.isNegative fraction (-1074)
  else .finite x.isNegative (mantissaSpan + fraction) (Int.ofNat biased - 1075)

/-- What is not a number, with a mark that tells it from others. -/
def markedNan (mark : Nat) : Binary64 :=
  ofMagnitude false (infiniteBits + mantissaSpan / 2 + mark % (mantissaSpan / 2))

/-- What is not a number, without a mark. -/
def nan : Binary64 := markedNan 0

/-- Positive or negative infinity. -/
def infinity (negative : Bool) : Binary64 := ofMagnitude negative infiniteBits

/-- `a * 2 ^ e` as a ratio of natural numbers. -/
def scaled (a : Nat) (e : Int) : Nat × Nat :=
  if 0 ≤ e then (a * Nat.pow 2 e.toNat, 1) else (a, Nat.pow 2 (-e).toNat)

/-- Divide and round to the nearest natural number, a half to the even neighbour. -/
def roundedQuotient (num den : Nat) : Nat :=
  let quotient := num / den
  let twice := 2 * (num % den)
  if den < twice || (twice == den && quotient % 2 == 1) then quotient + 1 else quotient

/--
The binary64 number nearest to `num / den`, a tie going to the even mantissa.  The exponent is the one
that leaves 53 binary digits, but no smaller than that of the least positive number; a value past the
largest finite number becomes infinite.
-/
def nearest (negative : Bool) (num den : Nat) : Binary64 :=
  if num = 0 then ofMagnitude negative 0
  else
    let estimate : Int := Int.ofNat num.log2 - Int.ofNat den.log2 - 52
    let ratioAt (e : Int) : Nat × Nat :=
      if 0 ≤ e then (num, den * Nat.pow 2 e.toNat) else (num * Nat.pow 2 (-e).toNat, den)
    let first := ratioAt estimate
    let fitted := if first.1 / first.2 < mantissaSpan then estimate - 1 else estimate
    let exponent := max fitted (-1074)
    let ratio := ratioAt exponent
    let bits := (exponent + 1074).toNat * mantissaSpan + roundedQuotient ratio.1 ratio.2
    ofMagnitude negative (min bits infiniteBits)

/-- The rational number `± mantissa * 2 ^ exponent`. -/
def exactValue (negative : Bool) (mantissa : Nat) (exponent : Int) : Rat :=
  let (num, den) := scaled mantissa exponent
  mkRat (if negative then -Int.ofNat num else Int.ofNat num) den

/-- The nearest number to a rational; zero takes the sign given. -/
def ofRat (zeroNegative : Bool) (q : Rat) : Binary64 :=
  if q.num = 0 then ofMagnitude zeroNegative 0 else nearest (q.num < 0) q.num.natAbs q.den

/-- The nearest number to an integer, unless it is too large for a finite one. -/
def ofInt? (n : Int) : Option Binary64 :=
  let x := nearest (n < 0) n.natAbs 1
  match x.view with
  | .finite .. => some x
  | _ => none

/-- The bits of any number with the opposite sign. -/
def neg (x : Binary64) : Binary64 := ofMagnitude (!x.isNegative) x.magnitude

/--
The number written as `digits * 10 ^ exponent`.  A value whose leading digit stands at or above `10 ^ 400`
is infinite and one below `10 ^ -400` is zero, so no power of ten beyond that is ever computed.
-/
def ofDecimal (negative : Bool) (digits : Nat) (exponent : Int) : Binary64 :=
  let leading : Int := Int.ofNat (Nat.toDigits 10 digits).length + exponent
  if digits = 0 then ofMagnitude negative 0
  else if 400 < leading then infinity negative
  else if leading < -400 then ofMagnitude negative 0
  else if 0 ≤ exponent then nearest negative (digits * Nat.pow 10 exponent.toNat) 1
  else nearest negative digits (Nat.pow 10 (-exponent).toNat)

end Binary64

/-! ## Comparing numbers of different kinds -/

/-- The value of a number: an exact rational, an infinity, or none at all. -/
inductive Quantity where
  | finite (value : Rat)
  | infinite (negative : Bool)
  | nan
deriving DecidableEq

namespace Quantity

/-- The value of a binary64 number. -/
def ofBinary64 (x : Binary64) : Quantity :=
  match x.view with
  | .nan => .nan
  | .infinite negative => .infinite negative
  | .finite negative mantissa exponent => .finite (Binary64.exactValue negative mantissa exponent)

/-- Equal as numbers; what is not a number equals nothing. -/
def equal : Quantity → Quantity → Bool
  | .finite a, .finite b => a == b
  | .infinite a, .infinite b => a == b
  | _, _ => false

/-- Smaller as numbers; what is not a number is never smaller or larger. -/
def less : Quantity → Quantity → Bool
  | .finite a, .finite b => a < b
  | .finite _, .infinite negative => !negative
  | .infinite negative, .finite _ => negative
  | .infinite a, .infinite b => a && !b
  | _, _ => false

/-- Smaller or equal as numbers. -/
def lessEqual (a b : Quantity) : Bool := less a b || equal a b

end Quantity

end ApiLint
