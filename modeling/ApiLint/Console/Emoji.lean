import ApiLint.Console.Emoji.Names
import ApiLint.Console.Width
import ApiLint.Pointer.Segment
import ApiLint.Text.Blank
import ApiLint.Text.Digit
import ApiLint.Text.LetterCase

/-!
# Emoji codes

The name of an emoji between two colons stands for the emoji.  Capital letters do not count, and a name may
ask for the picture or the sign with an ending.  Codes with a name that no emoji bears stand for themselves,
and their closing colon opens no other code.
-/

namespace ApiLint.Console.Emoji

/-! ## Names -/

/-- What stands after the equals sign of an entry, if a name stands before it. -/
def entryFor? (name entry : List Char) : Option (List Char) :=
  if (name ++ ['=']).isPrefixOf entry then some (entry.drop (name.length + 1)) else none

/-- What stands for a name in lines of entries. -/
def inLines? (name : List Char) (lines : List String) : Option (List Char) :=
  lines.findSome? fun line => (Segment.splitAt ' ' line.toList).findSome? (entryFor? name)

/-- The value of a digit to the base sixteen. -/
def hexValue (c : Char) : Nat := if c.isDigit then c.toNat - 0x30 else c.toNat - 0x57

/-- The characters whose code points are written with hyphens between them. -/
def ofCodes (codes : List Char) : List Char :=
  (Segment.splitAt '-' codes).map fun code => Char.ofNat (code.foldl (fun n c => 16 * n + hexValue c) 0)

/-- The endings that ask for skin tones, with the code points of the tones. -/
def tones : List (String × Nat) :=
  [("_light_skin_tone", 0x1f3fb), ("_medium-light_skin_tone", 0x1f3fc), ("_medium_skin_tone", 0x1f3fd),
    ("_medium-dark_skin_tone", 0x1f3fe), ("_dark_skin_tone", 0x1f3ff)]

/-- An emoji in a skin tone, which takes the place of an emoji mark. -/
def withTone (tone : Char) : List Char → List Char
  | [] => []
  | c :: rest => c :: tone :: (if rest.head? = some emojiMark then rest.drop 1 else rest)

/-- The text before an ending. -/
def before? (ending : String) (cs : List Char) : Option (List Char) :=
  if ending.toList.isSuffixOf cs then some (cs.take (cs.length - ending.length)) else none

/-- The emoji whose name asks for a skin tone. -/
def toned? (name : List Char) : Option (List Char) :=
  tones.findSome? fun tone =>
    (before? tone.1 name).bind fun base =>
      (inLines? base tonedLines).map fun codes => withTone (Char.ofNat tone.2) (ofCodes codes)

/-- The letter of a flag. -/
def flagLetter (c : Char) : Char := Char.ofNat (c.toNat - 'A'.toNat + 0x1f1e6)

/-- The flag of the country with a name, which may come after words. -/
def flag? (name : List Char) : Option (List Char) :=
  let start := "flag_for_".toList
  let country := if start.isPrefixOf name then name.drop start.length else name
  (inLines? country countryLines).map fun letters => letters.map flagLetter

/-- The emoji with a name in small letters. -/
def named? (name : List Char) : Option (List Char) :=
  ((inLines? name signLines).map ofCodes).or <| ((inLines? name tonedLines).map ofCodes).or <|
    (toned? name).or (flag? name)

/-! ## Codes -/

/-- The endings that ask for a form, each with the mark of the form. -/
def forms : List (String × Char) := [("-emoji", emojiMark), ("-text", '\ufe0e')]

/-- What stands between the colons of a code: a name and perhaps the mark of a form. -/
def nameAndForm (body : List Char) : List Char × List Char :=
  match forms.findSome? fun form => (before? form.1 body).map fun name => (name, [form.2]) with
  | some found => found
  | none => (body, [])

/-- The emoji that a code between two colons stands for, or the code itself. -/
def ofBody (body : List Char) : List Char :=
  match named? (Text.smallLetters (nameAndForm body).1) with
  | some emoji => emoji ++ (nameAndForm body).2
  | none => ':' :: body ++ [':']

/-- Can the character stand between the colons of a code? -/
def isInCode (c : Char) : Bool := c != ':' && !Text.isBlank c

/-- A text with emoji in place of their codes. -/
def replaceCodes (cs : List Char) : List Char :=
  match cs with
  | [] => []
  | c :: rest =>
    if c = ':' then
      match _h : rest.dropWhile isInCode with
      | ':' :: after => ofBody (rest.takeWhile isInCode) ++ replaceCodes after
      | _ => c :: replaceCodes rest
    else c :: replaceCodes rest
termination_by cs.length
decreasing_by
  · have := (List.dropWhile_sublist (p := isInCode) (l := rest)).length_le
    rw [_h] at this
    simp only [List.length_cons] at this ⊢
    omega
  · simp
  · simp

end ApiLint.Console.Emoji
