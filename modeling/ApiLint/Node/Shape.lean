import ApiLint.Node.Basic
import ApiLint.Number.Numeral

/-!
# Shapes of documents

What may be asked of a document as a whole: whether a test holds of it and of every node inside it.
A document read from JSON has string keys only; keys of one mapping always differ; and no sequence
is so long that the numeral of an index would be refused.
-/

namespace ApiLint.Node

mutual

/-- Does a test hold of a node and of every item and value inside it? -/
def everywhere (test : Node → Bool) : Node → Bool
  | .list xs => test (.list xs) && inItems test xs
  | .tuple xs => test (.tuple xs) && inItems test xs
  | .map entries => test (.map entries) && inValues test entries
  | x => test x
termination_by structural x => x

/-- Does a test hold everywhere in the items of a sequence? -/
def inItems (test : Node → Bool) : List Node → Bool
  | [] => true
  | x :: xs => everywhere test x && inItems test xs
termination_by structural xs => xs

/-- Does a test hold everywhere in the values of entries? -/
def inValues (test : Node → Bool) : List (Node × Node) → Bool
  | [] => true
  | (_, value) :: rest => everywhere test value && inValues test rest
termination_by structural xs => xs

end

/-- Is every key of every mapping a string? -/
def hasStringKeys : Node → Bool :=
  everywhere fun x => keysAreStrings (x.map?.getD [])

/-- Is no key of these entries repeated? -/
def keysAreDistinct : List (Node × Node) → Bool
  | [] => true
  | (key, _) :: rest => (lookupKey key rest).isNone && keysAreDistinct rest

/-- Does no mapping repeat a key? -/
def hasDistinctKeys : Node → Bool :=
  everywhere fun x => keysAreDistinct (x.map?.getD [])

/-- Has every sequence fewer items than the least number with too many digits? -/
def hasShortSequences : Node → Bool :=
  everywhere fun x => (x.items?.getD []).length < leastLong

/-- Is the node, apart from what is inside it, one that a JSON text holds exactly? -/
def isJsonPart : Node → Bool
  | .null => true
  | .bool _ => true
  | .int n => !isLongInteger n
  | .str _ => true
  | .list _ => true
  | .map entries => keysAreStrings entries && keysAreDistinct entries
  | _ => false

/--
Is the document made of nothing but null, booleans, integers without too many digits, strings, arrays and
mappings with string keys, none repeated?
-/
def isJson : Node → Bool := everywhere isJsonPart

/-- A document as it is read from JSON: string keys, none repeated, no endless sequences. -/
structure IsPlain (x : Node) : Prop where
  strings : x.hasStringKeys = true
  distinct : x.hasDistinctKeys = true
  short : x.hasShortSequences = true

end ApiLint.Node
