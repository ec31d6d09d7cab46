import ApiLint.Node.Basic

/-!
# Wording of messages

Both kinds of quotes become double quotes, a shouted negation becomes a quiet one, and the property that a
message is about is named in front of it.
-/

namespace ApiLint.Wording

/-- Single quotes become double quotes. -/
def unifyQuote (c : Char) : Char := if c = '\'' then '"' else c

/-- Every `NOT` becomes `not`. -/
def quietNegation : List Char → List Char
  | 'N' :: 'O' :: 'T' :: rest => 'n' :: 'o' :: 't' :: quietNegation rest
  | c :: rest => c :: quietNegation rest
  | [] => []

/-- A message text in its normal form. -/
def normalizeChars (cs : List Char) : List Char := quietNegation (cs.map unifyQuote)

/-- A message text in its normal form. -/
def normalizeText (s : String) : String := String.ofList (normalizeChars s.toList)

/-- The wording of a message about a property, if one is named; what is not a text has no wording. -/
def normalize (property : Option String) : Node → String
  | .str s =>
    match property with
    | none => normalizeText s
    | some name => "\"" ++ name ++ "\" property " ++ normalizeText s
  | _ => ""

end ApiLint.Wording
