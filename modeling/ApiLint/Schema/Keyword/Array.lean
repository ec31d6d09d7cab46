import ApiLint.Schema.Site

/-!
# Keywords on arrays

Subschemas of items, by place or for all, and how many items must satisfy one.
-/

namespace ApiLint.Schema.Site

/-- One subschema for the items from an index on. -/
def itemsFrom (site : Site) (start : Nat) (items : List Node) : Outcome :=
  site.forEach (indexed start (items.drop start)) fun (index, x) =>
    site.descend site.value x (some index) none

/-- One subschema for each item, as far as there are subschemas. -/
def itemsByPosition (site : Site) (items : List Node) : Outcome :=
  match site.value.elements? with
  | none => .fail .wrongKind
  | some schemas =>
    site.forEach ((indexed 0 items).zip schemas) fun ((index, x), schema) =>
      site.descend schema x (some index) (some index)

/-- Items after those with subschemas of their own, when none may follow. -/
def reportExtraItems (site : Site) (start : Nat) (items : List Node) : Outcome :=
  let extra := items.drop start
  let rest := match extra with
    | [x] => x
    | xs => .list xs
  showing rest fun text =>
    site.report ("Expected at most " ++ toString start ++ (if start = 1 then " item" else " items")
      ++ " but found " ++ toString extra.length ++ " extra: " ++ text)

/-- The subschemas of items. -/
def items (site : Site) : Outcome :=
  match site.subject, site.draft, site.value with
  | .list xs, .draft202012, value =>
    .ofExcept (fun start =>
      if xs.length ≤ start then .valid
      else match value with
        | .bool false => site.reportExtraItems start xs
        | _ => site.itemsFrom start xs)
      (site.siblingLength "prefixItems")
  | .list xs, .draft7, .list _ => site.itemsByPosition xs
  | .list xs, .draft7, _ => site.itemsFrom 0 xs
  | .list xs, .draft4, .map _ => site.itemsFrom 0 xs
  | .list xs, .draft4, _ => site.itemsByPosition xs
  | _, _, _ => .valid

/-- The subschemas of the first items. -/
def leadingItems (site : Site) : Outcome :=
  match site.subject with
  | .list xs => site.itemsByPosition xs
  | _ => .valid

/-- The subschema of the items after those with subschemas of their own, or whether there may be any. -/
def additionalItems (site : Site) : Outcome :=
  match site.subject, site.sibling? "items" with
  | .list _, none => .valid
  | .list _, some (.map _) => .valid
  | .list xs, some _ =>
    .ofExcept (fun start =>
      match site.value with
      | .map _ => site.itemsFrom start xs
      | value =>
        if value.isTruthy || xs.length ≤ start then .valid
        else site.reportTooMuch "Additional items are not allowed" (xs.drop start) "unexpected")
      (site.siblingLength "items")
  | _, _ => .valid

/-- Is a number less than a count? -/
def isExceeded (limit : Node) (count : Nat) : Except Fault Bool :=
  match limit.quantity? with
  | some limit => .ok (limit.less (.finite (count : Rat)))
  | none => .error .wrongKind

/-- Is a number greater than a count? -/
def isMissed (least : Node) (count : Nat) : Except Fault Bool :=
  match least.quantity? with
  | some least => .ok (Quantity.less (.finite (count : Rat)) least)
  | none => .error .wrongKind

/-- The number of satisfying items, and whether there are more than the limit; they are counted no further
than one past it. -/
def countSatisfying (site : Site) (limit : Node) (count : Nat) : List Node → Except Fault (Nat × Bool)
  | [] => .ok (count, false)
  | x :: xs =>
    match site.isSatisfied site.value x with
    | .error e => .error e
    | .ok true =>
      match isExceeded limit (count + 1) with
      | .error e => .error e
      | .ok true => .ok (count + 1, true)
      | .ok false => countSatisfying site limit (count + 1) xs
    | .ok false => countSatisfying site limit count xs

/-- How many items must satisfy a subschema: at least and at most as many as other keywords say. -/
def containsBetween (site : Site) (xs : List Node) : Outcome :=
  let least := (site.sibling? "minContains").getD (.int 1)
  let most := (site.sibling? "maxContains").getD (.int xs.length)
  let found : Except Fault (Nat × Bool) :=
    match Draft.ofSchema site.draft site.value with
    | .error e => .error e
    | .ok _ => site.countSatisfying most 0 xs
  .ofExcept (fun (count, isTooMany) =>
    if isTooMany then
      showing most fun text =>
        site.reportAs "maxContains" most
          ("Too many items match the given schema (expected at most " ++ text ++ ")")
    else
      .ofExcept (fun isTooFew =>
        if !isTooFew then .valid
        else if count = 0 then site.reportSubject "does not contain items matching the given schema"
        else
          showing least fun text =>
            site.reportAs "minContains" least
              ("Too few items match the given schema (expected at least " ++ text
                ++ " but only " ++ toString count ++ " matched)"))
        (isMissed least count))
    found

/-- Does any item satisfy a subschema? -/
def anySatisfies (site : Site) : List Node → Except Fault Bool
  | [] => .ok false
  | x :: xs =>
    match site.isSatisfied site.value x with
    | .error e => .error e
    | .ok true => .ok true
    | .ok false => anySatisfies site xs

/-- The subschema that some items must satisfy. -/
def contains (site : Site) : Outcome :=
  match site.subject, site.draft with
  | .list xs, .draft202012 => site.containsBetween xs
  | .list xs, _ =>
    .ofExcept (fun found =>
      if found then .valid
      else showing site.subject fun text =>
        site.report ("None of " ++ text ++ " are valid under the given schema"))
      (site.anySatisfies xs)
  | _, _ => .valid

end ApiLint.Schema.Site
