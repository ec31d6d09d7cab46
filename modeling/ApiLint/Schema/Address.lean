import ApiLint.Number.Numeral
import ApiLint.Pointer.Segment
import ApiLint.Text.Quoted

/-!
# Addresses of drafts

The normal form of the address by which a schema declares its draft.  An address whose host cannot be one is
refused: brackets must hold an internet address, and no character of the host may be a disguise of a
character that ends it.
-/

namespace ApiLint.Schema

/-- Why a text is no address, or not one that can be used. -/
inductive AddressError where
  /-- Only one of the brackets around a numeric host is there. -/
  | unbalancedBrackets
  | badFutureHost
  /-- A short numeric host stands in brackets. -/
  | bracketedShortHost
  | badHost (host : String)
  /-- A character of the host stands for one that ends it. -/
  | disguisedDelimiter (host : String)
  /-- The address is that of a draft whose schemas are not read here. -/
  | otherDraft
  /-- A part of a schema has an address of its own, which references in the schema might mean. -/
  | ofPart
deriving DecidableEq

/-- The wording of an address error. -/
def AddressError.message : AddressError → String
  | .unbalancedBrackets => "Invalid IPv6 URL"
  | .badFutureHost => "IPvFuture address is invalid"
  | .bracketedShortHost => "An IPv4 address cannot be in brackets"
  | .badHost host => Text.quoted host ++ " does not appear to be an IPv4 or IPv6 address"
  | .disguisedDelimiter host =>
    "netloc '" ++ host ++ "' contains invalid characters under NFKC normalization"
  | .otherDraft => "schemas of this draft are not read"
  | .ofPart => "schemas with parts that have addresses of their own are not read"

namespace Address

/-! ## Hosts -/

/-- A number below 256 without needless zeros. -/
def isOctet (cs : List Char) : Bool :=
  !cs.isEmpty && cs.length ≤ 3 && cs.all Text.isAsciiDigit && (cs.length == 1 || cs.head? != some '0')
    && Text.numeral cs < 256

/-- Four octets between dots. -/
def isShortHost (cs : List Char) : Bool :=
  let parts := Segment.splitAt '.' cs
  parts.length == 4 && parts.all isOctet

/-- One to four hexadecimal digits. -/
def isGroup (cs : List Char) : Bool :=
  !cs.isEmpty && cs.length ≤ 4 && cs.all fun c => (Text.hexValue? c).isSome

/-- The groups beside the gap of a long host; an empty side is written as an empty group. -/
def gapSide (groups : List (List Char)) : List (List Char) := if groups = [[]] then [] else groups

/-- Eight groups between colons, of which the last two may be four octets; a gap stands for some of them. -/
def isLongHost (cs : List Char) : Bool :=
  let address := cs.takeWhile (· ≠ '%')
  let zone := cs.drop address.length
  let groups := Segment.splitAt ':' address
  let last := groups.getLast?.getD []
  let spread := if last.contains '.' then groups.dropLast ++ [['0'], ['0']] else groups
  let inner := (spread.drop 1).dropLast
  let zoneFits := zone.isEmpty || (zone.length != 1 && !(zone.drop 1).contains '%')
  let octetsFit := !last.contains '.' || isShortHost last
  let groupsFit := match inner.idxOf? [] with
    | some i =>
      let high := gapSide (spread.take (i + 1))
      let low := gapSide (spread.drop (i + 2))
      (high ++ low).all isGroup && (high ++ low).length ≤ 7
    | none => spread.length == 8 && spread.all isGroup
  3 ≤ groups.length && zoneFits && octetsFit && groupsFit

/-- A host of a kind yet to come: a version in hexadecimal digits, a dot, and anything. -/
def isFutureHost (cs : List Char) : Bool :=
  let version := (cs.drop 1).takeWhile fun c => (Text.hexValue? c).isSome
  match (cs.drop 1).drop version.length with
  | '.' :: rest => !version.isEmpty && !rest.isEmpty && !rest.contains '\n'
  | _ => false

/-- Check what stands in the brackets of a host. -/
def checkBracketed (cs : List Char) : Except AddressError Unit :=
  if cs.head? = some 'v' then (if isFutureHost cs then .ok () else .error .badFutureHost)
  else if isShortHost cs then .error .bracketedShortHost
  else if isLongHost cs then .ok ()
  else .error (.badHost (String.ofList cs))

/-- Characters that stand for a slash, a colon, a number sign, a question mark or an at sign. -/
def disguises : List Nat := [
  0x2047, 0x2048, 0x2049, 0x2100, 0x2101, 0x2105, 0x2106, 0x2a74, 0xfe13, 0xfe16, 0xfe55, 0xfe56, 0xfe5f,
  0xfe6b, 0xff03, 0xff0f, 0xff1a, 0xff1f, 0xff20]

/-- Check a host with what stands around it. -/
def checkHost (host : List Char) : Except AddressError Unit := do
  if host.contains '[' != host.contains ']' then throw .unbalancedBrackets
  if host.contains '[' then
    checkBracketed (((host.dropWhile (· ≠ '[')).drop 1).takeWhile (· ≠ ']'))
  if host.any fun c => disguises.contains c.toNat then
    throw (.disguisedDelimiter (String.ofList host))

/-! ## The normal form -/

/-- Can the characters stand before the first colon of an address? -/
def isScheme : List Char → Bool
  | [] => false
  | c :: cs => c.isAlpha && cs.all fun d => d.isAlphanum || d == '+' || d == '-' || d == '.'

/-- Drop the last character if it is the given one. -/
def dropLastIf (c : Char) (cs : List Char) : List Char :=
  if cs.getLast? = some c then cs.dropLast else cs

/-- The scheme of an address in small letters, if it has one, and the rest. -/
def splitScheme (cs : List Char) : Option (List Char) × List Char :=
  let scheme := cs.takeWhile (· ≠ ':')
  match cs.drop scheme.length with
  | _ :: rest => if isScheme scheme then (some (scheme.map Char.toLower), rest) else (none, cs)
  | [] => (none, cs)

/-- The host of an address, and the rest. -/
def splitHost : List Char → Option (List Char) × List Char
  | '/' :: '/' :: rest =>
    let host := rest.takeWhile fun c => c != '/' && c != '?' && c != '#'
    (some host, rest.drop host.length)
  | cs => (none, cs)

/-- A place with its host; a place that looks like a host needs no empty host before it. -/
def placed (host : Option (List Char)) (place : List Char) : List Char :=
  let path := place.takeWhile fun c => c != '?' && c != '#'
  let rooted := if path.isEmpty || path.head? = some '/' then place else '/' :: place
  if host.getD [] = [] ∧ path.take 2 = ['/', '/'] then place else '/' :: '/' :: host.getD [] ++ rooted

/--
The normal form of an address: no blanks or controls before it, no tabs or line ends in it, its scheme in
small letters, and no empty fragment or query at its end.
-/
def normal (address : String) : Except AddressError String := do
  let visible := (address.toList.dropWhile fun c => c.toNat ≤ 32).filter fun c =>
    c != '\t' && c != '\n' && c != '\r'
  let (scheme, rest) := splitScheme visible
  let (host, place) := splitHost rest
  checkHost (host.getD [])
  let short := if (place.takeWhile (· ≠ '#')).length + 1 = place.length then dropLastIf '#' place else place
  let shorter :=
    if short.contains '#' || (short.takeWhile (· ≠ '?')).length + 1 ≠ short.length then short
    else dropLastIf '?' short
  match scheme with
  | some s => return String.ofList (s ++ ':' :: placed host shorter)
  | none => return String.ofList (if host.isSome then placed host shorter else shorter)

end Address

end ApiLint.Schema
