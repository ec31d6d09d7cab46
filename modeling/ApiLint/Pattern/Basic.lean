import ApiLint.Text.Blank
import ApiLint.Text.Digit
import ApiLint.Text.LetterCase
import ApiLint.Text.Word

/-!
# Text patterns

Regular expressions as schemas use them: sets of characters, places in a text, sequences, alternatives,
repetitions, groups that remember what they matched, and looks at what stands before or after a place.
-/

namespace ApiLint

/-! ## Sets of characters -/

/-- Kinds of characters that have a letter of their own in patterns. -/
inductive Category where
  | digit
  | blank
  | word
deriving DecidableEq

/-- Does a character belong to a kind?  A kind may be limited to ASCII. -/
def Category.contains (asciiOnly : Bool) (c : Char) (kind : Category) : Bool :=
  (!asciiOnly || c.toNat < 128) &&
    match kind with
    | .digit => Text.isDecimalDigit c
    | .blank => if asciiOnly then (9 ≤ c.toNat && c.toNat ≤ 13) || c == ' ' else Text.isBlank c
    | .word => Text.isWordCharacter c

/-- Which letters are the same letter. -/
inductive CaseRule where
  | exact
  /-- Small and capital ASCII letters are the same. -/
  | asciiIgnored
  /-- Small and capital letters of all scripts are the same. -/
  | ignored
deriving DecidableEq

/-- The code points that are the same letter as a code point. -/
def CaseRule.siblings (rule : CaseRule) (n : Nat) : List Nat :=
  match rule with
  | .exact => [n]
  | .asciiIgnored => Text.asciiCaseSiblings n
  | .ignored => Text.caseSiblings n

/-- A code point, made a small letter unless the case counts. -/
def CaseRule.small (rule : CaseRule) (n : Nat) : Nat :=
  match rule with
  | .exact => n
  | .asciiIgnored => Text.asciiSmallLetter n
  | .ignored => Text.smallLetter n

/-- A member of a character class; ranges may lead through code points that are no characters. -/
inductive ClassMember where
  | range (first last : Nat)
  | category (kind : Category) (asciiOnly negated : Bool)
deriving DecidableEq

/-- Does a character belong to a member? -/
def ClassMember.contains (rule : CaseRule) (c : Char) : ClassMember → Bool
  | .range first last => (rule.siblings c.toNat).any fun n => first ≤ n && n ≤ last
  | .category kind asciiOnly negated => kind.contains asciiOnly c != negated

/-- A set of characters: the union of its members, or everything else. -/
structure CharClass where
  negated : Bool
  caseRule : CaseRule
  members : List ClassMember
deriving DecidableEq

/-- Does a character belong to a class? -/
def CharClass.contains (set : CharClass) (c : Char) : Bool :=
  set.members.any (·.contains set.caseRule c) != set.negated

/-! ## Patterns -/

/-- How a repetition chooses the number of rounds. -/
inductive Greed where
  /-- As many as possible, then fewer. -/
  | most
  /-- As few as possible, then more. -/
  | fewest
  /-- As many as possible, and no other number. -/
  | possessive
deriving DecidableEq

/-- A regular expression. -/
inductive Pattern where
  | empty
  /-- No match at all. -/
  | never
  | one (set : CharClass)
  /-- Any character, or any but a line feed. -/
  | any (lineFeeds : Bool)
  /-- The start of the text. -/
  | atStart
  /-- The start of the text or the place after a line feed. -/
  | atLineStart
  /-- The end of the text, or the place before a line feed that ends it. -/
  | atEnd
  /-- The end of the text or the place before a line feed. -/
  | atLineEnd
  /-- The end of the text. -/
  | atVeryEnd
  /-- A place between a word character and another character, or no such place; an empty text has neither. -/
  | atWordEdge (asciiOnly negated : Bool)
  | seq (first second : Pattern)
  /-- The first pattern, or else the second. -/
  | alt (first second : Pattern)
  /-- At least `least` and at most `most` times. -/
  | repeated (body : Pattern) (least : Nat) (most : Option Nat) (greed : Greed)
  /-- What the body matches is remembered under a number. -/
  | group (number : Nat) (body : Pattern)
  /-- The body's first match and no other. -/
  | atomic (body : Pattern)
  /-- The text that a group has matched. -/
  | again (number : Nat) (caseRule : CaseRule)
  /-- One pattern if a group has matched, and another if not. -/
  | ifMatched (number : Nat) (yes no : Pattern)
  /-- A match of the body starts here (or none does); nothing is consumed. -/
  | ahead (negated : Bool) (body : Pattern)
  /-- A match of the body starts `width` characters before this place (or none does); nothing is consumed. -/
  | behind (negated : Bool) (width : Nat) (body : Pattern)
deriving DecidableEq

/-- The pattern of a single code point. -/
def Pattern.char (rule : CaseRule) (code : Nat) : Pattern := .one ⟨false, rule, [.range code code]⟩

end ApiLint
