import ApiLint.Number.Binary64
import ApiLint.Calendar

/-!
# Document nodes

The values that documents, schemas and validator reports are made of.  A mapping keeps its entries in
order; its keys are themselves nodes, and two keys are one key exactly when `Node.equiv` says so, under
which `1`, `1.0` and `true` coincide.

`insertEntry` is how every mapping is built: a repeated key keeps its first position and its last value.
-/

namespace ApiLint

/-- A document value. -/
inductive Node where
  | null
  | bool (value : Bool)
  | int (value : Int)
  | float (value : Binary64)
  | str (value : String)
  | bytes (value : List UInt8)
  | date (value : Date)
  | dateTime (value : DateTime)
  | list (items : List Node)
  /-- A sequence that is not an array. -/
  | tuple (items : List Node)
  | map (entries : List (Node × Node))

namespace Node

/-! ## Kinds of nodes -/

/-- The text of a string node. -/
def str? : Node → Option String
  | .str s => some s
  | _ => none

/-- The entries of a mapping. -/
def map? : Node → Option (List (Node × Node))
  | .map entries => some entries
  | _ => none

/-- The items of an array or a tuple. -/
def items? : Node → Option (List Node)
  | .list xs => some xs
  | .tuple xs => some xs
  | _ => none

/-- What going through a node yields: items, characters, bytes or keys. -/
def elements? : Node → Option (List Node)
  | .list xs => some xs
  | .tuple xs => some xs
  | .str s => some (s.toList.map fun c => .str (String.singleton c))
  | .bytes bs => some (bs.map fun b => .int b.toNat)
  | .map entries => some (entries.map (·.1))
  | _ => none

/-- The value of a number, booleans counting as 0 and 1. -/
def quantity? : Node → Option Quantity
  | .bool b => some (.finite (if b then 1 else 0))
  | .int n => some (.finite n)
  | .float x => some (.ofBinary64 x)
  | _ => none

mutual

/-- Can the node be a key?  A list or a mapping cannot, nor a tuple with one inside. -/
def isKeyLike : Node → Bool
  | .list _ => false
  | .map _ => false
  | .tuple xs => areKeyLike xs
  | _ => true
termination_by structural x => x

/-- Can all of the nodes be keys? -/
def areKeyLike : List Node → Bool
  | [] => true
  | x :: xs => x.isKeyLike && areKeyLike xs
termination_by structural xs => xs

end

/-- Empty and zero values do not count, everything else does. -/
def isTruthy : Node → Bool
  | .null => false
  | .bool b => b
  | .int n => n != 0
  | .float x => x.magnitude != 0
  | .str s => !s.isEmpty
  | .bytes bs => !bs.isEmpty
  | .date _ => true
  | .dateTime _ => true
  | .list xs => !xs.isEmpty
  | .tuple xs => !xs.isEmpty
  | .map entries => !entries.isEmpty

mutual

/-- The number of nodes, keys included. -/
def size : Node → Nat
  | .list xs => 1 + sizeItems xs
  | .tuple xs => 1 + sizeItems xs
  | .map entries => 1 + sizeEntries entries
  | _ => 1
termination_by structural x => x

/-- The number of nodes in a sequence. -/
def sizeItems : List Node → Nat
  | [] => 0
  | x :: xs => size x + sizeItems xs
termination_by structural xs => xs

/-- The number of nodes in entries. -/
def sizeEntries : List (Node × Node) → Nat
  | [] => 0
  | (key, value) :: rest => size key + size value + sizeEntries rest
termination_by structural xs => xs

end

/-! ## Equality of values -/

/--
Equality of values that contain no other values; numbers compare by value.  What is not a number is the same
only if it bears the same mark.
-/
def leafEquiv (a b : Node) : Bool :=
  match a, b with
  | .null, .null => true
  | .str s, .str t => s == t
  | .bytes s, .bytes t => s == t
  | .date s, .date t => s == t
  | .dateTime s, .dateTime t => s.sameInstant t
  | .float x, .float y => x == y || (Quantity.ofBinary64 x).equal (.ofBinary64 y)
  | a, b =>
    match a.quantity?, b.quantity? with
    | some p, some q => p.equal q
    | _, _ => false

mutual

/--
Equality of values: numbers by value, sequences item by item, mappings entry by entry in any order.
An array never equals a tuple.
-/
def equiv : Node → Node → Bool
  | .list xs, .list ys => equivItems xs ys
  | .tuple xs, .tuple ys => equivItems xs ys
  | .map xs, .map ys => xs.length == ys.length && entriesWithin xs ys
  | a, b => leafEquiv a b
termination_by structural a => a

/-- Two sequences agree item by item. -/
def equivItems : List Node → List Node → Bool
  | [], [] => true
  | x :: xs, y :: ys => equiv x y && equivItems xs ys
  | _, _ => false
termination_by structural xs => xs

/-- Every entry of the first mapping stands in the second. -/
def entriesWithin : List (Node × Node) → List (Node × Node) → Bool
  | [], _ => true
  | (key, value) :: rest, others =>
    others.any (fun other => equiv key other.1 && equiv value other.2) && entriesWithin rest others
termination_by structural xs => xs

end

/-! ## Mappings -/

/-- The value under a key. -/
def lookupKey (key : Node) : List (Node × Node) → Option Node
  | [] => none
  | (k, v) :: rest => if key.equiv k then some v else lookupKey key rest

/-- The value under a string key. -/
def lookup (name : String) : List (Node × Node) → Option Node
  | [] => none
  | (.str s, v) :: rest => if s = name then some v else lookup name rest
  | _ :: rest => lookup name rest

/-- Put a value under a key: in place if the key is there, else at the end. -/
def insertEntry (key value : Node) : List (Node × Node) → List (Node × Node)
  | [] => [(key, value)]
  | (k, v) :: rest => if key.equiv k then (k, value) :: rest else (k, v) :: insertEntry key value rest

/-- The mapping that results from putting entries one after the other. -/
def ofEntries (entries : List (Node × Node)) : Node :=
  .map (entries.foldl (fun done entry => insertEntry entry.1 entry.2 done) [])

/-- The value under a string key, if the node is a mapping that has it. -/
def get? (node : Node) (name : String) : Option Node :=
  node.map?.bind (lookup name)

/-- Are all keys of these entries strings? -/
def keysAreStrings (entries : List (Node × Node)) : Bool :=
  entries.all fun entry => entry.1.str?.isSome

end Node

end ApiLint
