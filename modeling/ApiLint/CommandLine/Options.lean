/-!
# Options on the command line

An option is a flag, or it takes a value: the rest of its word or the next word.  Short names are one
letter after a dash, and several flags may share a dash; long names follow two dashes, and an equals sign
separates a value.  Two dashes alone end the options.
-/

namespace ApiLint.CommandLine

/-- What an option means. -/
inductive Effect (α : Type) where
  | flag (meaning : α)
  | value (meaning : String → α)

/-- The options of a command. -/
structure Options (α : Type) where
  /-- The letters after one dash. -/
  short : List (Char × Effect α)
  /-- The names after two dashes. -/
  long : List (String × Effect α)
  /-- Do words that are no options end the options? -/
  stopsAtWord : Bool

/-- What one word gives: meanings, and an option that waits for its value. -/
structure WordReading (α : Type) where
  meanings : List α
  waiting : Option (String → α)

/-- What all words give: meanings, and the words that are no options. -/
structure Reading (α : Type) where
  meanings : List α
  words : List String

namespace Options

variable {α : Type}

/-- Read the letters after a dash. -/
def readShort (options : Options α) : List Char → Option (WordReading α)
  | [] => some ⟨[], none⟩
  | c :: rest =>
    match options.short.lookup c with
    | none => none
    | some (.flag meaning) =>
      match options.readShort rest with
      | some reading => some { reading with meanings := meaning :: reading.meanings }
      | none => none
    | some (.value meaning) =>
      if rest.isEmpty then some ⟨[], some meaning⟩ else some ⟨[meaning (String.ofList rest)], none⟩

/-- Read what follows two dashes. -/
def readLong (options : Options α) (cs : List Char) : Option (WordReading α) :=
  match options.long.lookup (String.ofList (cs.takeWhile (· != '='))), cs.dropWhile (· != '=') with
  | some (.flag meaning), [] => some ⟨[meaning], none⟩
  | some (.value meaning), [] => some ⟨[], some meaning⟩
  | some (.value meaning), _ :: value => some ⟨[meaning (String.ofList value)], none⟩
  | _, _ => none

/-- Read all words; an option may be waiting for its value. -/
def readAfter (options : Options α) : Option (String → α) → List String → Option (Reading α)
  | none, [] => some ⟨[], []⟩
  | some _, [] => none
  | some meaning, word :: rest =>
    match options.readAfter none rest with
    | some reading => some { reading with meanings := meaning word :: reading.meanings }
    | none => none
  | none, word :: rest =>
    let continued (found : Option (WordReading α)) : Option (Reading α) :=
      match found with
      | none => none
      | some found =>
        match options.readAfter found.waiting rest with
        | some reading => some { reading with meanings := found.meanings ++ reading.meanings }
        | none => none
    match word.toList with
    | ['-', '-'] => some ⟨[], rest⟩
    | '-' :: '-' :: name => continued (options.readLong name)
    | '-' :: c :: letters => continued (options.readShort (c :: letters))
    | _ =>
      if options.stopsAtWord then some ⟨[], word :: rest⟩
      else
        match options.readAfter none rest with
        | some reading => some { reading with words := word :: reading.words }
        | none => none

/-- Read words; nothing if an option is unknown, lacks its value or has one that it does not take. -/
def read (options : Options α) (words : List String) : Option (Reading α) := options.readAfter none words

end Options

end ApiLint.CommandLine
