import ApiLint.Node.Basic

/-!
# Equality and uniqueness of instances

Schemas compare values deeply; numbers are equal by value, but true and false equal no number.  Bytes are a
sequence of numbers.

Uniqueness is decided by sorting when all items can be ordered, and then only neighbours are compared;
otherwise every item is compared with all earlier ones.  What is not a number is never smaller than anything,
so the way of sorting decides between which neighbours it comes to stand.
-/

namespace ApiLint.Schema

/-- Do the items of a sequence equal bytes? -/
def equalBytes (bytes : List UInt8) (items : List Node) : Bool :=
  bytes.length == items.length && (bytes.zip items).all fun (b, x) =>
    match x with
    | .bool _ => false
    | x => x.leafEquiv (.int b.toNat)

mutual

/-- Equality of instances. -/
def equal : Node → Node → Bool
  | .list xs, .list ys => equalItems xs ys
  | .list xs, .tuple ys => equalItems xs ys
  | .tuple xs, .list ys => equalItems xs ys
  | .tuple xs, .tuple ys => equalItems xs ys
  | .bytes bs, .list ys => equalBytes bs ys
  | .bytes bs, .tuple ys => equalBytes bs ys
  | .list xs, .bytes bs => equalBytes bs xs
  | .tuple xs, .bytes bs => equalBytes bs xs
  | .map xs, .map ys => xs.length == ys.length && entriesIn xs ys
  | .bool a, .bool b => a == b
  | .bool _, _ => false
  | _, .bool _ => false
  | a, b => Node.leafEquiv a b
termination_by structural a => a

/-- Two sequences agree item by item. -/
def equalItems : List Node → List Node → Bool
  | [], [] => true
  | x :: xs, y :: ys => equal x y && equalItems xs ys
  | _, _ => false
termination_by structural xs => xs

/-- Every entry of the first mapping stands in the second. -/
def entriesIn : List (Node × Node) → List (Node × Node) → Bool
  | [], _ => true
  | (key, value) :: rest, others =>
    (match others.find? (fun other => key.equiv other.1) with
      | some other => equal value other.2
      | none => false) && entriesIn rest others
termination_by structural xs => xs

end

/-- Strict lexicographic order of sequences of bytes. -/
def bytesLess (a b : List UInt8) : Bool := a.map (·.toNat) < b.map (·.toNat)

mutual

/-- Is the first value smaller?  Only some values can be ordered. -/
def less? : Node → Node → Option Bool
  | .str a, .str b => some (a < b)
  | .bytes a, .bytes b => some (bytesLess a b)
  | .date a, .date b => some (a.ordinal < b.ordinal)
  | .dateTime a, .dateTime b =>
    if a.offset.isSome = b.offset.isSome then some (a.instant < b.instant) else none
  | .list xs, .list ys => lessItems? xs ys
  | .tuple xs, .tuple ys => lessItems? xs ys
  | a, b =>
    match a.quantity?, b.quantity? with
    | some p, some q => some (p.less q)
    | _, _ => none
termination_by structural a => a

/-- Lexicographic order: the first items that differ decide, or else the lengths. -/
def lessItems? : List Node → List Node → Option Bool
  | [], ys => some (!ys.isEmpty)
  | _ :: _, [] => some false
  | x :: xs, y :: ys => if x.equiv y then lessItems? xs ys else less? x y
termination_by structural xs => xs

end

/-- The order of the items of an array, among which true and false have no place. -/
def itemLess? : Node → Node → Option Bool
  | .bool _, _ => none
  | _, .bool _ => none
  | a, b => less? a b

/-- How many further items belong to a run that rises, or falls, at every step. -/
def runOf? (falling : Bool) (x : Node) : List Node → Option Nat
  | [] => some 0
  | y :: ys =>
    match itemLess? y x with
    | none => none
    | some isSmaller => if isSmaller = falling then (runOf? falling y ys).map (· + 1) else some 0

/-- The run that items start with, in rising order, and the items after it. -/
def firstRun? : List Node → Option (List Node × List Node)
  | x :: y :: rest =>
    match itemLess? y x with
    | none => none
    | some falling =>
      (runOf? falling y rest).map fun more =>
        let run := (x :: y :: rest).take (more + 2)
        (if falling then run.reverse else run, rest.drop more)
  | items => some (items, [])

/-- The place of an item in a sorted list, found by halving the stretch from `low` to `high`. -/
def placeOf? (x : Node) (sorted : Array Node) : (fuel low high : Nat) → Option Nat
  | 0, low, _ => some low
  | fuel + 1, low, high =>
    if low < high then
      let middle := low + (high - low) / 2
      match itemLess? x (sorted[middle]?.getD .null) with
      | none => none
      | some true => placeOf? x sorted fuel low middle
      | some false => placeOf? x sorted fuel (middle + 1) high
    else some low

/-- Insert an item into a sorted list. -/
def insertSorted? (sorted : List Node) (x : Node) : Option (List Node) :=
  (placeOf? x sorted.toArray (sorted.length + 1) 0 sorted.length).map fun i =>
    sorted.take i ++ x :: sorted.drop i

/-- The items in order, if they can be ordered: the first run, and the others inserted one by one. -/
def sorted? (items : List Node) : Option (List Node) :=
  match firstRun? items with
  | none => none
  | some (run, rest) => rest.foldlM insertSorted? run

/-- Are two neighbours equal? -/
def hasEqualNeighbours : List Node → Bool
  | x :: y :: rest => equal x y || hasEqualNeighbours (y :: rest)
  | _ => false

/-- Is an item equal to a later one? -/
def hasEqualPair : List Node → Bool
  | [] => false
  | x :: rest => rest.any (equal x) || hasEqualPair rest

/-- Do the items of an array count as different? -/
def isUnique (items : List Node) : Bool :=
  match sorted? items with
  | some ordered => !hasEqualNeighbours ordered
  | none => !hasEqualPair items

end ApiLint.Schema
