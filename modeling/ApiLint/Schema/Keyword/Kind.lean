import ApiLint.Schema.Equality
import ApiLint.Schema.Site

/-!
# Keywords on kinds and values

The kinds that a value may be of, and the values that it may equal.
-/

namespace ApiLint.Schema.Site

/-- The value of a number; true and false are no numbers here. -/
def number? : Node → Option Quantity
  | .bool _ => none
  | x => x.quantity?

/-- Is a value of a kind?  Fails on names that are no kinds. -/
def isOfType (draft : Draft) (x : Node) : Node → Except Fault Bool
  | .str "array" => .ok (match x with | .list _ => true | _ => false)
  | .str "boolean" => .ok (match x with | .bool _ => true | _ => false)
  | .str "null" => .ok (match x with | .null => true | _ => false)
  | .str "object" => .ok (match x with | .map _ => true | _ => false)
  | .str "string" => .ok (match x with | .str _ => true | _ => false)
  | .str "number" => .ok (number? x).isSome
  | .str "integer" =>
    .ok (match x with
      | .int _ => true
      | .float v =>
        match draft, Quantity.ofBinary64 v with
        | .draft4, _ => false
        | _, .finite q => q.den == 1
        | _, _ => false
      | _ => false)
  | name => .error (if name.isKeyLike then .unknownType else .wrongKind)

/-- Is a value of one of the kinds?  Names after a match are not looked at. -/
def isOfAnyType (draft : Draft) (x : Node) : List Node → Except Fault Bool
  | [] => .ok false
  | name :: names =>
    match isOfType draft x name with
    | .ok true => .ok true
    | .ok false => isOfAnyType draft x names
    | .error e => .error e

/-- The kinds that the value must be one of. -/
def type (site : Site) : Outcome :=
  let names : Option (List Node) := match site.value with
    | .str s => some [.str s]
    | x => x.elements?
  match names with
  | none => .fail .wrongKind
  | some names =>
    .ofExcept
      (fun found =>
        if found then .valid
        else showingAll names fun texts => site.reportSubject ("is not of type " ++ texts))
      (isOfAnyType site.draft site.subject names)

/-- The values that the value must equal one of. -/
def enum (site : Site) : Outcome :=
  match site.value.elements? with
  | none => .fail .wrongKind
  | some allowed =>
    site.reportShowing (!allowed.any fun x => equal x site.subject) "is not one of " site.value

/-- The value that the value must equal. -/
def const (site : Site) : Outcome :=
  if equal site.subject site.value then .valid
  else showing site.value fun text => site.report (text ++ " was expected")

end ApiLint.Schema.Site
