import ApiLint.Console.Emoji
import ApiLint.Console.Literal
import ApiLint.Console.Style

/-!
# Markup

A text for the console may hold tags: `[name]` opens a style, `[/name]` closes the last open one of that
name, and `[/]` closes the last open one.  A tag starts with a small letter or one of `#`, `/` and `@`;
other brackets stand for themselves.  Backslashes before a tag are halved, and an odd one makes the tag a
plain text.  `escape` puts in the backslashes that make tags plain, and `render` gives the text that is
shown, which has no styles here.  In every run of plain text, emoji take the place of their codes.

What a tag with `@` does is written after an equals sign, as a name and an argument that must be a literal.
-/

namespace ApiLint.Markup

/-- Why a markup cannot be shown. -/
inductive Fault where
  /-- A tag closes a style that is not open. -/
  | notOpen (name : String)
  /-- A tag closes the last open style, and none is open. -/
  | nothingOpen
  /-- A tag closes an action whose argument is no literal. -/
  | badArgument
  /-- A tag names a colour from three parts, one of which is empty. -/
  | emptyPart
deriving DecidableEq

/-- A run of plain text, or what stands between the brackets of a tag. -/
inductive Piece where
  | text (cs : List Char)
  | tag (body : List Char)
deriving DecidableEq

/-! ## Tags -/

/-- Can the character come first in a tag? -/
def startsTag (c : Char) : Bool := ('a' ≤ c && c ≤ 'z') || c == '#' || c == '/' || c == '@'

/-- The text up to the next closing bracket and the text after it, unless an opening bracket comes first. -/
def untilClosing? : List Char → Option (List Char × List Char)
  | [] => none
  | c :: rest =>
    if c = ']' then some ([], rest)
    else if c = '[' then none
    else
      match untilClosing? rest with
      | some (body, after) => some (c :: body, after)
      | none => none

/-- The rest after a closing bracket is shorter than the text. -/
theorem untilClosing?_length {cs body after : List Char} (h : untilClosing? cs = some (body, after)) :
    after.length < cs.length := by
  induction cs generalizing body with
  | nil => simp [untilClosing?] at h
  | cons c rest ih =>
    simp only [untilClosing?] at h
    split at h
    · simp only [Option.some.injEq, Prod.mk.injEq] at h
      simp [← h.2]
    · split at h
      · simp at h
      · split at h
        · rename_i inner tail found
          simp only [Option.some.injEq, Prod.mk.injEq] at h
          have := ih (h.2 ▸ found)
          simp only [List.length_cons]
          omega
        · simp at h

/-- The body of a tag and the text after it, where its opening bracket was read. -/
def tagBody? : List Char → Option (List Char × List Char)
  | c :: rest => if startsTag c then untilClosing? (c :: rest) else none
  | [] => none

/-- The rest after a tag is shorter than the text. -/
theorem tagBody?_length {cs body after : List Char} (h : tagBody? cs = some (body, after)) :
    after.length < cs.length := by
  cases cs with
  | nil => simp [tagBody?] at h
  | cons c rest =>
    simp only [tagBody?] at h
    split at h
    · exact untilClosing?_length h
    · simp at h

/-! ## Escaping -/

/-- Put backslashes before the tags of a text; so many backslashes were read just before it. -/
def escapeTags (backslashes : Nat) (cs : List Char) : List Char :=
  match cs with
  | [] => List.replicate backslashes '\\'
  | c :: rest =>
    if c = '\\' then escapeTags (backslashes + 1) rest
    else if c = '[' then
      match _found : tagBody? rest with
      | some (body, after) =>
        List.replicate (2 * backslashes + 1) '\\' ++ ('[' :: body ++ ']' :: escapeTags 0 after)
      | none => List.replicate backslashes '\\' ++ '[' :: escapeTags 0 rest
    else List.replicate backslashes '\\' ++ c :: escapeTags 0 rest
termination_by cs.length
decreasing_by
  · simp
  · have := tagBody?_length _found
    simp only [List.length_cons]
    omega
  · simp
  · simp

/-- Does a text end with a single backslash? -/
def endsWithBackslash (cs : List Char) : Bool :=
  match cs.reverse with
  | '\\' :: '\\' :: _ => false
  | '\\' :: _ => true
  | _ => false

/-- The markup that shows a text as it is: tags are made plain, and a single backslash at the end is
doubled so that it does not meet a tag that follows. -/
def escapeChars (cs : List Char) : List Char :=
  let escaped := escapeTags 0 cs
  if endsWithBackslash escaped then escaped ++ ['\\'] else escaped

/-- The markup that shows a text as it is. -/
def escape (s : String) : String := String.ofList (escapeChars s.toList)

/-! ## Reading -/

/-- The pieces of a markup, where a run of plain text, in reverse, and then so many backslashes were read just
before it.  A backslash before a bracket that starts no tag is left out. -/
def pieces (run : List Char) (backslashes : Nat) (cs : List Char) : List Piece :=
  match cs with
  | [] => [.text (run.reverse ++ List.replicate backslashes '\\')]
  | c :: rest =>
    if c = '\\' then pieces run (backslashes + 1) rest
    else if c = '[' then
      match _found : tagBody? rest with
      | some (body, after) =>
        .text run.reverse :: .text (List.replicate (backslashes / 2) '\\') ::
          (if backslashes % 2 = 1 then .text ('[' :: body ++ [']']) else .tag body) :: pieces [] 0 after
      | none => pieces ('[' :: List.replicate (backslashes - 1) '\\' ++ run) 0 rest
    else pieces (c :: List.replicate backslashes '\\' ++ run) 0 rest
termination_by cs.length
decreasing_by
  · simp
  · have := tagBody?_length _found
    simp only [List.length_cons]
    omega
  · simp
  · simp

/-! ## Styles -/

open Console in
/-- The normal form of the style that a text names. -/
def styleName (cs : List Char) : Except Fault String :=
  match Style.normalForm cs with
  | .ok name => .ok name
  | .error _ => .error .emptyPart

/-- A tag that opened a style: the name of the style, and what stands after an equals sign. -/
structure Opening where
  name : String
  argument : List Char
deriving DecidableEq

/-- Is what an action asks for a name, or a name and a literal in parentheses, or just a literal? -/
def isAction (argument : List Char) : Bool :=
  let cs := Text.trimChars argument
  let isInName (c : Char) : Bool := Text.isWordCharacter c || c == '.'
  let rest := cs.dropWhile isInName
  if rest.isEmpty then true
  else if rest.head? == some '(' && rest.getLast? == some ')' && !rest.contains '\n' then
    Console.Literal.isLiteral rest
  else Console.Literal.isLiteral cs

/-- Close an open style; an action must be one that can be read. -/
def Opening.close (style : Opening) : Except Fault Unit :=
  if style.name.toList.head? = some '@' ∧ ¬ style.argument.isEmpty ∧ ¬ isAction style.argument then
    .error .badArgument
  else .ok ()

/-- What a tag does to styles. -/
inductive Change where
  | opening (style : Opening)
  | closing (name : String)
  | closingLast
deriving DecidableEq

/-- The change that a tag asks for. -/
def Change.ofTag (body : List Char) : Except Fault Change :=
  let argument := (body.dropWhile (· != '=')).drop 1
  match body.takeWhile (· != '=') with
  | '/' :: name =>
    if (Text.trimChars name).isEmpty then .ok .closingLast
    else (styleName (Text.trimChars name)).map .closing
  | name => (styleName name).map fun name => .opening ⟨name, argument⟩

/-- Close the last open style of a name, and give the others. -/
def closeNamed (name : String) : List Opening → Except Fault (List Opening)
  | [] => .error (.notOpen name)
  | style :: rest =>
    if style.name = name then style.close.map fun _ => rest
    else (closeNamed name rest).map (style :: ·)

/-- The open styles, last first, after a change. -/
def Change.apply (styles : List Opening) : Change → Except Fault (List Opening)
  | .opening style => .ok (style :: styles)
  | .closing name => closeNamed name styles
  | .closingLast =>
    match styles with
    | style :: rest => style.close.map fun _ => rest
    | [] => .error .nothingOpen

/-- The characters that pieces show while styles are open, last first. -/
def shown (styles : List Opening) : List Piece → Except Fault (List Char)
  | [] => .ok []
  | .text cs :: rest => (shown styles rest).map (Console.Emoji.replaceCodes cs ++ ·)
  | .tag body :: rest =>
    match Change.ofTag body with
    | .error fault => .error fault
    | .ok change =>
      match change.apply styles with
      | .ok styles => shown styles rest
      | .error fault => .error fault

/-- The text that a markup shows. -/
def render (markup : String) : Except Fault (List Char) := shown [] (pieces [] 0 markup.toList)

end ApiLint.Markup
