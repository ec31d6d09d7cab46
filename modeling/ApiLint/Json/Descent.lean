import ApiLint.Json.Reader

/-!
# Where reading JSON comes to

Reading goes down from a value into its items and entries, one after the other, as long as everything
before is in order.  So a place where a value is due is told by what was read before it, without the
bound on nested calls that the reader needs.
-/

namespace ApiLint.Json

/-- Read one value with as many nested calls as its text can take. -/
def readOne (cs : List Char) : Step Node := readValue (2 * cs.length + 1) cs

/-- A value is read at the start of a text, and what is left of it. -/
def Leaves (cs rest : List Char) : Prop := ∃ x, readOne cs = .ok (x, rest)

/-- An item of the array at the start of a text starts here; the items before it were read. -/
inductive ItemAt : List Char → List Char → Prop where
  | first {rest : List Char} (hsome : (skipBlanks rest).head? ≠ some ']') :
      ItemAt ('[' :: rest) (skipBlanks rest)
  | next {cs item after more : List Char} (hitem : ItemAt cs item) (hleaves : Leaves item after)
      (hcomma : skipBlanks after = ',' :: more) : ItemAt cs (skipBlanks more)

/-- After the name of an entry and a colon its value starts here. -/
def HasValueAt (entry value : List Char) : Prop :=
  ∃ rest name afterName afterColon, entry = '"' :: rest ∧
    readString ('"' :: rest) rest = .ok (name, afterName) ∧
    skipBlanks afterName = ':' :: afterColon ∧ value = skipBlanks afterColon

/-- An entry of the object at the start of a text starts here; the entries before it were read. -/
inductive EntryAt : List Char → List Char → Prop where
  | first {rest : List Char} (hsome : (skipBlanks rest).head? ≠ some '\x7d') :
      EntryAt ('\x7b' :: rest) (skipBlanks rest)
  | next {cs entry value after more : List Char} (hentry : EntryAt cs entry)
      (hvalue : HasValueAt entry value) (hleaves : Leaves value after)
      (hcomma : skipBlanks after = ',' :: more) : EntryAt cs (skipBlanks more)

/-- Reading the value at the start of a text comes to a value, itself or one inside it, that starts here. -/
inductive ComesTo : List Char → List Char → Prop where
  | here (cs : List Char) : ComesTo cs cs
  | item {cs item rest : List Char} (hitem : ItemAt cs item) (hcomes : ComesTo item rest) :
      ComesTo cs rest
  | value {cs entry value rest : List Char} (hentry : EntryAt cs entry)
      (hvalue : HasValueAt entry value) (hcomes : ComesTo value rest) : ComesTo cs rest

/-- A text goes on with a number: with a digit, a fraction or an exponent. -/
inductive GoesOn : List Char → Prop where
  | digit {d : Char} {cs : List Char} (hd : Text.isAsciiDigit d = true) : GoesOn (d :: cs)
  | fraction {d : Char} {cs : List Char} (hd : Text.isAsciiDigit d = true) : GoesOn ('.' :: d :: cs)
  | exponent {e d : Char} {cs : List Char} (he : e ∈ ['e', 'E']) (hd : Text.isAsciiDigit d = true) :
      GoesOn (e :: d :: cs)
  | signed {e s d : Char} {cs : List Char} (he : e ∈ ['e', 'E']) (hs : s ∈ ['+', '-'])
      (hd : Text.isAsciiDigit d = true) : GoesOn (e :: s :: d :: cs)

/-- An integer with too many digits stands at the start of a text. -/
def StartsWithLongInteger (cs : List Char) : Prop :=
  ∃ sign digits after, cs = sign ++ digits ++ after ∧ (sign = [] ∨ sign = ['-']) ∧
    digits.all Text.isAsciiDigit = true ∧ digits.head? ≠ some '0' ∧ digitLimit < digits.length ∧
    ¬ GoesOn after

/-- Reading a text comes to an integer with too many digits. -/
def ComesToLongInteger (text : String) : Prop :=
  ∃ rest, ComesTo (skipBlanks text.toList) rest ∧ StartsWithLongInteger rest

end ApiLint.Json
