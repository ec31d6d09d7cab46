import ApiLint.Node.Shape
import ApiLint.Schema.Meta

/-!
# Schemas ready for use

A value becomes a schema when it satisfies the schema of its draft.  References are followed inside the schema as a
whole, so a schema whose parts have addresses of their own is refused if it refers to anything.
-/

namespace ApiLint.Schema

/-- A schema with its draft. -/
structure Compiled where
  draft : Draft
  schema : Node

/-- Why a value cannot be used as a schema. -/
inductive CompileError where
  /-- The value violates the schema of its draft. -/
  | invalidSchema
  | fault (fault : Fault)
deriving DecidableEq

namespace Compiled

/-- Does a value hold a text under one of some keys? -/
def holdsText (keys : List String) (x : Node) : Bool :=
  !x.everywhere fun
    | .map entries => keys.all fun key => ((Node.lookup key entries).bind Node.str?).isNone
    | _ => true

/-- Could a reference in a schema mean an address that a part of the schema has for its own? -/
def refersAmongParts (draft : Draft) (schema : Node) : Bool :=
  holdsText ["$ref", "$dynamicRef"] schema &&
    (schema.map?.getD []).any fun entry => holdsText [draft.addressKeyword] entry.2

/-- Take a value as a schema. -/
def ofNode (schema : Node) : Except CompileError Compiled :=
  match Draft.ofSchema .latest schema with
  | .error fault => .error (.fault fault)
  | .ok draft =>
    match Meta.accepts draft schema with
    | .error fault => .error (.fault fault)
    | .ok false => .error .invalidSchema
    | .ok true =>
      if refersAmongParts draft schema then .error (.fault (.badAddress .ofPart))
      else .ok { draft, schema }

/-- All violations by a document. -/
def violations (c : Compiled) (document : Node) : Except Fault (List Violation) :=
  Schema.violations c.draft c.schema document

end Compiled

end ApiLint.Schema
