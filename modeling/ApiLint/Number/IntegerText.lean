import ApiLint.Text.Blank
import ApiLint.Text.Digit
import ApiLint.Text.Quoted

/-!
# Integers in texts

The integer that a text as a whole writes: blanks around it, a sign, and digits of a base.  Digits and blanks
of all scripts count as their ASCII forms; digits may be grouped by single low lines.
-/

namespace ApiLint

/-- Why a text writes no integer. -/
inductive IntegerTextError where
  /-- The text is no numeral of the base. -/
  | malformed (base : Nat) (text : String)
  | long (error : LongNumeral)
deriving DecidableEq

/-- The wording of the refusal, which shows no more than the start of a long text. -/
def IntegerTextError.message : IntegerTextError → String
  | .malformed base text =>
    "invalid literal for int() with base " ++ toString base ++ ": "
      ++ String.ofList ((Text.quotedChars text.toList).take 200)
  | .long e => e.message

namespace Text

/-- The ASCII form of a blank or a digit; other characters outside ASCII have none. -/
def asciiForm (c : Char) : Char :=
  if c.toNat < 127 then c
  else if isBlank c then ' '
  else match digitValue? c with
    | some d => Nat.digitChar d
    | none => '?'

/-- Is the character an ASCII blank? -/
def isAsciiBlank (c : Char) : Bool := (9 ≤ c.toNat && c.toNat ≤ 13) || c == ' '

/-- A numeral in ASCII form without blanks around it. -/
def numeralChars (cs : List Char) : List Char :=
  let trimmed := (cs.map asciiForm).dropWhile isAsciiBlank
  (trimmed.reverse.dropWhile isAsciiBlank).reverse

/-- Drop a sign; is it a minus sign? -/
def splitSign : List Char → Bool × List Char
  | '-' :: rest => (true, rest)
  | '+' :: rest => (false, rest)
  | cs => (false, cs)

/-- Drop the mark of a base after a zero, and a low line after it. -/
def dropBaseMark (base : Nat) (cs : List Char) : List Char :=
  match cs with
  | '0' :: c :: rest =>
    if (base == 16 && c.toLower == 'x') || (base == 8 && c.toLower == 'o')
        || (base == 2 && c.toLower == 'b') then
      match rest with
      | '_' :: more => more
      | more => more
    else cs
  | _ => cs

/-- The values of digits of a base, which are grouped by single low lines. -/
def groupedDigits? (base : Nat) : List Char → Option (List Nat)
  | [] => none
  | c :: rest =>
    match (hexValue? c).filter (· < base) with
    | none => none
    | some d =>
      match rest with
      | [] => some [d]
      | '_' :: more => (groupedDigits? base more).map (d :: ·)
      | more => (groupedDigits? base more).map (d :: ·)

/-- The integer that a text writes in a base of at most sixteen.  Only decimal digits are limited. -/
def integer (base : Nat) (cs : List Char) : Except IntegerTextError Int :=
  let (negative, unsigned) := splitSign (numeralChars cs)
  match groupedDigits? base (dropBaseMark base unsigned) with
  | none => .error (.malformed base (String.ofList cs))
  | some digits =>
    if base = 10 ∧ digitLimit < digits.length then .error (.long (.toRead digits.length))
    else
      let n := Int.ofNat (digits.foldl (fun n d => base * n + d) 0)
      .ok (if negative then -n else n)

end Text

end ApiLint
