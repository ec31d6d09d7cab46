/-!
# Bytes written in base 64

Four characters stand for three bytes.  Characters that do not belong to the alphabet are skipped; at the
end the last bytes must be complete or filled up by equals signs.
-/

namespace ApiLint.Text.Base64

/-- The value of a character of the alphabet. -/
def value? (c : Char) : Option Nat :=
  if 'A' ≤ c && c ≤ 'Z' then some (c.toNat - 'A'.toNat)
  else if 'a' ≤ c && c ≤ 'z' then some (c.toNat - 'a'.toNat + 26)
  else if '0' ≤ c && c ≤ '9' then some (c.toNat - '0'.toNat + 52)
  else if c == '+' then some 62
  else if c == '/' then some 63
  else none

/-- Where decoding stands inside a group of four characters. -/
structure State where
  /-- The characters of the group that were read. -/
  position : Nat
  /-- The bits that belong to the next byte. -/
  left : Nat
  /-- The equals signs since the last character. -/
  pads : Nat

/-- Decode from a state on. -/
def decodeFrom (s : State) : List Char → Option (List UInt8)
  | [] => if s.position = 0 then some [] else none
  | c :: rest =>
    if c == '=' then
      if 2 ≤ s.position && 4 ≤ s.position + s.pads + 1 then some []
      else decodeFrom (if 2 ≤ s.position then { s with pads := s.pads + 1 } else s) rest
    else
      match value? c with
      | none => decodeFrom s rest
      | some v =>
        match s.position with
        | 0 => decodeFrom ⟨1, v, 0⟩ rest
        | 1 => (decodeFrom ⟨2, v % 16, 0⟩ rest).map (UInt8.ofNat (s.left * 4 + v / 16) :: ·)
        | 2 => (decodeFrom ⟨3, v % 4, 0⟩ rest).map (UInt8.ofNat (s.left * 16 + v / 4) :: ·)
        | _ => (decodeFrom ⟨0, 0, 0⟩ rest).map (UInt8.ofNat (s.left * 64 + v) :: ·)

/-- The bytes that a text stands for. -/
def decode? (cs : List Char) : Option (List UInt8) := decodeFrom ⟨0, 0, 0⟩ cs

end ApiLint.Text.Base64
