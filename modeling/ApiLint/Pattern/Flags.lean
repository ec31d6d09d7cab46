import ApiLint.Pattern.Basic

/-!
# Flags of patterns

Single letters that change how a pattern, or a part of it, is read.
-/

namespace ApiLint.Pattern

/-- How a part of a pattern is read. -/
structure Flags where
  /-- Is the case of letters ignored? -/
  ignoreCase : Bool := false
  /-- Do line ends count as ends of the text? -/
  lines : Bool := false
  /-- Does a dot stand for line feeds, too? -/
  dotAll : Bool := false
  /-- Are blanks and comments skipped? -/
  verbose : Bool := false
  /-- Are kinds of characters and cases limited to ASCII? -/
  asciiOnly : Bool := false
deriving DecidableEq

/-- The letters of the flags. -/
inductive FlagLetter where
  | i
  | m
  | s
  | x
  /-- Limited to ASCII. -/
  | a
  /-- Not limited to ASCII. -/
  | u
deriving DecidableEq

namespace FlagLetter

/-- The flag of a letter. -/
def ofChar? : Char → Option FlagLetter
  | 'i' => some .i
  | 'm' => some .m
  | 's' => some .s
  | 'x' => some .x
  | 'a' => some .a
  | 'u' => some .u
  | _ => none

/-- Does the flag choose a set of characters?  Of such flags only one can be set, and none unset. -/
def choosesCharacters : FlagLetter → Bool
  | .a => true
  | .u => true
  | _ => false

end FlagLetter

namespace Flags

/-- Set a flag. -/
def set (flags : Flags) : FlagLetter → Flags
  | .i => { flags with ignoreCase := true }
  | .m => { flags with lines := true }
  | .s => { flags with dotAll := true }
  | .x => { flags with verbose := true }
  | .a => { flags with asciiOnly := true }
  | .u => { flags with asciiOnly := false }

/-- Unset a flag. -/
def unset (flags : Flags) : FlagLetter → Flags
  | .i => { flags with ignoreCase := false }
  | .m => { flags with lines := false }
  | .s => { flags with dotAll := false }
  | .x => { flags with verbose := false }
  | _ => flags

/-- Which letters are the same letter. -/
def caseRule (flags : Flags) : CaseRule :=
  match flags.ignoreCase, flags.asciiOnly with
  | false, _ => .exact
  | true, true => .asciiIgnored
  | true, false => .ignored

end Flags

end ApiLint.Pattern
