import ApiLint.Schema.Draft
import ApiLint.Text.Utf8

/-!
# References inside a schema

A reference is a fragment that holds a pointer into the schema as a whole, or the name of an anchor.
Percent-encoded bytes of a pointer are decoded first.  Array items are named by integers, which may be signed;
negative ones count from the end.

Nothing is looked up by an address: a reference with one before its fragment counts as leading nowhere, even if it is
the address of the schema itself or of a draft.
-/

namespace ApiLint.Schema

/-! ## Percent-encoding -/

/-- Decode bytes as UTF-8 with a replacement character for every fault. -/
def decodeReplacing : Nat → List UInt8 → List Char
  | 0, _ => []
  | _ + 1, [] => []
  | fuel + 1, b :: rest =>
    match Text.readCharacter b rest with
    | .complete after =>
      let bytes := (b :: rest).take (rest.length + 1 - after.length)
      match String.fromUTF8? ⟨bytes.toArray⟩ with
      | some s => s.toList ++ decodeReplacing fuel after
      | none => '\ufffd' :: decodeReplacing fuel after
    | .fault _ covered => '\ufffd' :: decodeReplacing fuel ((b :: rest).drop covered.length)

/-- Decode percent-encoded bytes; `pending` holds the bytes decoded since the last plain character. -/
def percentDecode (pending : List UInt8) : List Char → List Char
  | '%' :: a :: b :: rest =>
    match Text.hexValue? a, Text.hexValue? b with
    | some high, some low => percentDecode (pending ++ [UInt8.ofNat (16 * high + low)]) rest
    | _, _ =>
      decodeReplacing (pending.length + 1) pending ++ '%' :: percentDecode [] (a :: b :: rest)
  | c :: rest => decodeReplacing (pending.length + 1) pending ++ c :: percentDecode [] rest
  | [] => decodeReplacing (pending.length + 1) pending

/-! ## Indices -/

/-- The item at an index, negative ones counting from the end. -/
def itemAt? (items : List α) (index : Int) : Option α :=
  if 0 ≤ index then items[index.toNat]?
  else if items.length < index.natAbs then none
  else items[items.length - index.natAbs]?

/-! ## Anchors -/

/-- Keywords whose value is a subschema. -/
def subschemaKeywords : List String :=
  ["additionalProperties", "contains", "contentSchema", "else", "if", "items", "not", "propertyNames", "then",
    "unevaluatedItems", "unevaluatedProperties"]

/-- Keywords whose value is an array of subschemas. -/
def subschemaArrayKeywords : List String := ["allOf", "anyOf", "oneOf", "prefixItems"]

/-- Keywords whose value holds subschemas under names. -/
def subschemaTableKeywords : List String :=
  ["$defs", "definitions", "dependentSchemas", "patternProperties", "properties"]

/-- Does a schema declare an anchor of the name? -/
def declaresAnchor (name : String) (entries : List (Node × Node)) : Bool :=
  let declares (keyword : String) : Bool :=
    match Node.lookup keyword entries with
    | some (.str s) => s = name
    | _ => false
  declares "$anchor" || declares "$dynamicAnchor"

/-- Is a key one of some keywords? -/
def isOneOf (keywords : List String) : Node → Bool
  | .str key => keywords.contains key
  | _ => false

mutual

/-- The schema that declares an anchor, inside a schema; inner schemas count before outer ones. -/
def anchoredIn? (name : String) : Node → Option Node
  | .map entries =>
    (anchoredInEntries? name entries).or <| (anchoredInArrays? name entries).or <|
      (anchoredInTables? name entries).or <|
        if declaresAnchor name entries then some (.map entries) else none
  | _ => none
termination_by structural x => x

/-- The schema that declares an anchor, among the entries that are subschemas. -/
def anchoredInEntries? (name : String) : List (Node × Node) → Option Node
  | [] => none
  | (key, value) :: rest =>
    (if isOneOf subschemaKeywords key then anchoredIn? name value else none).or
      (anchoredInEntries? name rest)
termination_by structural xs => xs

/-- The schema that declares an anchor, among the entries that are arrays of subschemas. -/
def anchoredInArrays? (name : String) : List (Node × Node) → Option Node
  | [] => none
  | (key, value) :: rest =>
    (if isOneOf subschemaArrayKeywords key then anchoredInList? name value else none).or
      (anchoredInArrays? name rest)
termination_by structural xs => xs

/-- The schema that declares an anchor, among the entries that hold subschemas under names. -/
def anchoredInTables? (name : String) : List (Node × Node) → Option Node
  | [] => none
  | (key, value) :: rest =>
    (if isOneOf subschemaTableKeywords key then anchoredInTable? name value else none).or
      (anchoredInTables? name rest)
termination_by structural xs => xs

/-- The schema that declares an anchor, in an array of schemas. -/
def anchoredInList? (name : String) : Node → Option Node
  | .list items => anchoredAmong? name items
  | _ => none
termination_by structural x => x

/-- The schema that declares an anchor, in schemas under names. -/
def anchoredInTable? (name : String) : Node → Option Node
  | .map entries => anchoredAmongValues? name entries
  | _ => none
termination_by structural x => x

/-- The schema that declares an anchor, among schemas. -/
def anchoredAmong? (name : String) : List Node → Option Node
  | [] => none
  | x :: xs => (anchoredIn? name x).or (anchoredAmong? name xs)
termination_by structural xs => xs

/-- The schema that declares an anchor, among schemas under names. -/
def anchoredAmongValues? (name : String) : List (Node × Node) → Option Node
  | [] => none
  | (_, value) :: rest => (anchoredIn? name value).or (anchoredAmongValues? name rest)
termination_by structural xs => xs

end

/-- The schema that an anchor names; only the latest draft has anchors. -/
def anchored? (name : String) (root : Node) : Option Node :=
  match Draft.ofSchema .latest root with
  | .ok .draft202012 => anchoredIn? name root
  | _ => none

/-! ## Following a reference -/

/-- An item of a sequence by the text of its index. -/
def sequenceStep (items : List Node) (segment : List Char) : Except Fault Node :=
  match Text.integer 10 segment with
  | .error e => .error (.badIndex e)
  | .ok index =>
    match itemAt? items index with
    | some x => .ok x
    | none => .error (.danglingReference .pointer)

/-- One step along a segment of a reference. -/
def referenceStep (node : Node) (segment : List Char) : Except Fault Node :=
  match node with
  | .map entries =>
    match Node.lookup (Segment.unescape (String.ofList segment)) entries with
    | some x => .ok x
    | none => .error (.danglingReference .pointer)
  | node =>
    match node.elements? with
    | some items => sequenceStep items segment
    | none => .error .wrongKind

/-- The part of a schema that a fragment names, which is empty, a pointer or an anchor. -/
def followFragment (root : Node) (fragment : List Char) : Except Fault Node :=
  match fragment with
  | [] => .ok root
  | '/' :: pointer => (Segment.splitAt '/' (percentDecode [] pointer)).foldlM referenceStep root
  | name =>
    match anchored? (String.ofList name) root with
    | some schema => .ok schema
    | none => .error (.danglingReference (if name.contains '/' then .badAnchor else .anchor))

/-- What stands before a fragment if it leads out of nothing: blanks and controls, and marks with nothing
after them. -/
def isEmptyAddress (cs : List Char) : Bool :=
  let visible := (cs.dropWhile fun c => c.toNat ≤ 32).filter fun c => c != '\t' && c != '\n' && c != '\r'
  [[], ['?'], [';'], [';', '?'], ['/', '/'], ['/', '/', '?']].contains visible

/-- The part of a schema that a reference text leads to. -/
def followText (root : Node) (reference : String) : Except Fault Node :=
  let cs := reference.toList
  let address := cs.takeWhile (· != '#')
  match cs.drop address.length with
  | [] => if cs.isEmpty then .ok root else .error (.danglingReference .address)
  | _ :: fragment =>
    if address.isEmpty then followFragment root fragment
    else if isEmptyAddress address then
      followFragment root (fragment.filter fun c => c != '\t' && c != '\n' && c != '\r')
    else .error (.danglingReference .address)

/-- The part of a schema that the value of `$ref` leads to. -/
def follow (root : Node) : Node → Except Fault Node
  | .str reference => followText root reference
  | _ => .error .noSuchMember

end ApiLint.Schema
