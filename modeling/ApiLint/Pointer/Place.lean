import ApiLint.Node.Basic

/-!
# Places in documents

The node that a location leads to: below a mapping lie the values under its keys, below a sequence
its items under their indices.
-/

namespace ApiLint.Node

/-- The node under a key of a mapping, or under an index of a sequence. -/
def child? : Node → Node → Option Node
  | .map entries, key => lookupKey key entries
  | .list items, .int i => if i < 0 then none else items[i.toNat]?
  | .tuple items, .int i => if i < 0 then none else items[i.toNat]?
  | _, _ => none

/-- The node that keys and indices lead to from a node on. -/
def at? (node : Node) : List Node → Option Node
  | [] => some node
  | part :: rest => (node.child? part).bind fun next => next.at? rest

end ApiLint.Node
