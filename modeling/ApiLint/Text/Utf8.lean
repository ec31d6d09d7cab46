import ApiLint.Number.Numeral

/-!
# Decoding UTF-8

A byte sequence is decoded as a whole or refused with the place and kind of its first fault.  A fault
covers the bytes up to the first one that no character can continue with.
-/

namespace ApiLint.Text

/-- What is wrong with bytes that are not a character. -/
inductive Utf8Problem where
  | invalidStart
  | invalidContinuation
  | unexpectedEnd
deriving DecidableEq

/-- The first fault: its kind, the bytes it covers and where they start. -/
structure Utf8Fault where
  problem : Utf8Problem
  position : Nat
  bytes : List UInt8
deriving DecidableEq

namespace Utf8Fault

/-- The wording of a problem. -/
def reason : Utf8Problem → String
  | .invalidStart => "invalid start byte"
  | .invalidContinuation => "invalid continuation byte"
  | .unexpectedEnd => "unexpected end of data"

/-- The wording of a fault. -/
def message (fault : Utf8Fault) : String :=
  let place := match fault.bytes with
    | [b] => "byte 0x" ++ String.ofList (hexadecimal b.toNat 2) ++ " in position " ++ toString fault.position
    | bs => "bytes in position " ++ toString fault.position ++ "-"
        ++ toString (fault.position + bs.length - 1)
  "'utf-8' codec can't decode " ++ place ++ ": " ++ reason fault.problem

end Utf8Fault

/-- The range of the second byte after a first byte that starts a longer character. -/
def secondByteRange (first : Nat) : Nat × Nat :=
  if first = 0xe0 then (0xa0, 0xbf)
  else if first = 0xed then (0x80, 0x9f)
  else if first = 0xf0 then (0x90, 0xbf)
  else if first = 0xf4 then (0x80, 0x8f)
  else (0x80, 0xbf)

/-- The number of bytes after a first byte, if it can be one. -/
def continuationCount? (first : Nat) : Option Nat :=
  if first < 0x80 then some 0
  else if 0xc2 ≤ first ∧ first ≤ 0xdf then some 1
  else if 0xe0 ≤ first ∧ first ≤ 0xef then some 2
  else if 0xf0 ≤ first ∧ first ≤ 0xf4 then some 3
  else none

/-- What follows the first byte of a character: the bytes missing, or none when it is complete. -/
inductive CharacterEnd where
  | complete (rest : List UInt8)
  | fault (problem : Utf8Problem) (covered : List UInt8)

/-- Read `count` more bytes, the next one in the given range. -/
def readContinuation (range : Nat × Nat) : Nat → List UInt8 → List UInt8 → CharacterEnd
  | 0, _, rest => .complete rest
  | _ + 1, read, [] => .fault .unexpectedEnd read
  | count + 1, read, b :: rest =>
    if range.1 ≤ b.toNat ∧ b.toNat ≤ range.2 then
      readContinuation (0x80, 0xbf) count (read ++ [b]) rest
    else .fault .invalidContinuation read

/-- Read one character of a non-empty sequence. -/
def readCharacter (first : UInt8) (rest : List UInt8) : CharacterEnd :=
  match continuationCount? first.toNat with
  | none => .fault .invalidStart [first]
  | some count => readContinuation (secondByteRange first.toNat) count [first] rest

/-- The first fault among at most `fuel` characters. -/
def firstFault? (position : Nat) : Nat → List UInt8 → Option Utf8Fault
  | 0, _ => none
  | _ + 1, [] => none
  | fuel + 1, b :: rest =>
    match readCharacter b rest with
    | .complete rest' => firstFault? (position + 1 + (rest.length - rest'.length)) fuel rest'
    | .fault problem covered => some ⟨problem, position, covered⟩

/-- Decode a byte sequence. -/
def decodeUtf8 (bytes : ByteArray) : Except Utf8Fault String :=
  match String.fromUTF8? bytes with
  | some s => .ok s
  | none =>
    .error ((firstFault? 0 (bytes.size + 1) bytes.toList).getD ⟨.invalidStart, 0, []⟩)

/-- End every line with a line feed: a carriage return with or without a line feed is one. -/
def unifyNewlines : List Char → List Char
  | '\r' :: '\n' :: rest => '\n' :: unifyNewlines rest
  | '\r' :: rest => '\n' :: unifyNewlines rest
  | c :: rest => c :: unifyNewlines rest
  | [] => []

end ApiLint.Text
