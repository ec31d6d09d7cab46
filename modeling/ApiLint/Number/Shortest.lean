import ApiLint.Number.Binary64

/-!
# Shortest decimal digits

The decimal digits that identify a binary64 number: the fewest that read back to it, and of those the
nearest.  For one to seventeen digits the two neighbours of the value on that decimal grid are tested
against the interval of reals that round to the number; the first grid with a hit wins.
-/

namespace ApiLint.Shortest

/-- A positive decimal number `0.d₁d₂… * 10 ^ point`, with its digits as characters. -/
structure Digits where
  digits : List Char
  point : Int
deriving DecidableEq

/--
The reals that round to a number, in units of a quarter of its last place: `low` to `high` around
`middle`, the ends included exactly when `closed`.
-/
structure Interval where
  low : Nat
  middle : Nat
  high : Nat
  closed : Bool
  /-- The unit is `2 ^ unit`. -/
  unit : Int

/-- The interval of `mantissa * 2 ^ exponent`; below a power of two the gap is half as wide. -/
def interval (mantissa : Nat) (exponent : Int) : Interval where
  low := 4 * mantissa - (if mantissa = Binary64.mantissaSpan ∧ -1074 < exponent then 1 else 2)
  middle := 4 * mantissa
  high := 4 * mantissa + 2
  closed := mantissa % 2 = 0
  unit := exponent - 2

/-- `10 ^ e` as a ratio of natural numbers. -/
def tenPower (e : Int) : Nat × Nat :=
  if 0 ≤ e then (Nat.pow 10 e.toNat, 1) else (1, Nat.pow 10 (-e).toNat)

/-- How many decimal digits a natural number has. -/
def decimalLength (n : Nat) : Nat := (Nat.toDigits 10 n).length

/-- The exponent of the leading decimal digit of `num / den`. -/
def leadingExponent (num den : Nat) : Int :=
  if den ≤ num then Int.ofNat (decimalLength (num / den)) - 1
  else -Int.ofNat (decimalLength ((den + num - 1) / num - 1))

/-- Does `candidate * 10 ^ grid` lie in the interval? -/
def Interval.holds (i : Interval) (grid : Int) (candidate : Nat) : Bool :=
  let (unitNum, unitDen) := Binary64.scaled 1 i.unit
  let (gridNum, gridDen) := tenPower grid
  let point := candidate * gridNum * unitDen
  let low := i.low * unitNum * gridDen
  let high := i.high * unitNum * gridDen
  if i.closed then low ≤ point && point ≤ high else low < point && point < high

/-- Of the two neighbours of the value on the grid, the nearest one that lies in the interval. -/
def Interval.hit? (i : Interval) (grid : Int) : Option Nat :=
  let (unitNum, unitDen) := Binary64.scaled 1 i.unit
  let (gridNum, gridDen) := tenPower grid
  let num := i.middle * unitNum * gridDen
  let den := gridNum * unitDen
  let below := num / den
  let above := below + 1
  match i.holds grid below, i.holds grid above with
  | true, true => some (Binary64.roundedQuotient num den)
  | true, false => some below
  | false, true => some above
  | false, false => none

/-- Search grids of `17 - left + 1` to seventeen digits. -/
def search (i : Interval) (leading : Int) : Nat → Digits
  | 0 => ⟨[], 0⟩
  | left + 1 =>
    let grid : Int := leading - 17 + Int.ofNat left + 1
    match i.hit? grid with
    | some candidate =>
      let digits := Nat.toDigits 10 candidate
      ⟨(digits.reverse.dropWhile (· == '0')).reverse, Int.ofNat digits.length + grid⟩
    | none => search i leading left

/-- The shortest digits of `mantissa * 2 ^ exponent`, for a positive mantissa. -/
def digits (mantissa : Nat) (exponent : Int) : Digits :=
  let i := interval mantissa exponent
  let (unitNum, unitDen) := Binary64.scaled 1 i.unit
  search i (leadingExponent (i.middle * unitNum) unitDen) 17

end ApiLint.Shortest

namespace ApiLint.Binary64

/-! ## The text of a number -/

/-- When a number is written positionally and how its exponent looks. -/
structure TextFormat where
  /-- Positional while the decimal point stands in this range of positions. -/
  leastPoint : Int
  greatestPoint : Int
  /-- The least number of digits of an exponent. -/
  exponentWidth : Nat

/-- Positional from `10 ^ -4` up to `10 ^ 16`, exponents of two digits or more. -/
def textFormat : TextFormat := ⟨-3, 16, 2⟩

/-- Fill up with zeros on the left. -/
def padZeros (width : Nat) (digits : List Char) : List Char :=
  List.replicate (width - digits.length) '0' ++ digits

/-- The digits of a number with a decimal point among them; there is always a digit on both sides. -/
def positional (d : Shortest.Digits) : List Char :=
  if d.point ≤ 0 then '0' :: '.' :: (List.replicate (-d.point).toNat '0' ++ d.digits)
  else if Int.ofNat d.digits.length ≤ d.point then
    d.digits ++ List.replicate (d.point.toNat - d.digits.length) '0' ++ ['.', '0']
  else d.digits.take d.point.toNat ++ '.' :: d.digits.drop d.point.toNat

/-- One digit before the point, then the exponent with its sign. -/
def exponential (format : TextFormat) (d : Shortest.Digits) : List Char :=
  let exponent := d.point - 1
  let mantissa := match d.digits with
    | [] => []
    | [c] => [c]
    | c :: rest => c :: '.' :: rest
  let sign := if exponent < 0 then '-' else '+'
  mantissa ++ 'e' :: sign :: padZeros format.exponentWidth (Nat.toDigits 10 exponent.natAbs)

/-- The text of a number, with the fewest digits that read back to it. -/
def text (x : Binary64) : String :=
  match x.view with
  | .nan => "nan"
  | .infinite negative => if negative then "-inf" else "inf"
  | .finite negative mantissa exponent =>
    let sign := if negative then "-" else ""
    if mantissa = 0 then sign ++ "0.0"
    else
      let d := Shortest.digits mantissa exponent
      let written :=
        if textFormat.leastPoint ≤ d.point ∧ d.point ≤ textFormat.greatestPoint then positional d
        else exponential textFormat d
      sign ++ String.ofList written

end ApiLint.Binary64
