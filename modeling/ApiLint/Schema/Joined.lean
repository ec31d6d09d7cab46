import ApiLint.Schema.RawErrors

/-!
# Patterns one by one and joined

Whether a name is additional is decided twice.  The check of a schema joins the texts of all
patterns to one, which meets nothing when it is empty; raw errors are made by trying the patterns
one after the other.  The two agree on an object when the patterns mean the same both ways on the
names in it.
-/

namespace ApiLint.Schema

/-- The entries under a keyword of a schema, none if its value is no mapping. -/
def entriesOf (keyword : String) (keywords : List (Node × Node)) : List (Node × Node) :=
  ((Node.lookup keyword keywords).bind Node.map?).getD []

/-- Does a schema declare a name? -/
def declares (keywords : List (Node × Node)) (name : String) : Bool :=
  (Node.lookup name (entriesOf "properties" keywords)).isSome

/-- The texts of the patterns that a schema has for names. -/
def patternTexts (keywords : List (Node × Node)) : List String :=
  (entriesOf "patternProperties" keywords).filterMap (·.1.str?)

/-- Is a text a pattern that is found in a name? -/
def meets (text name : String) : Bool :=
  match Pattern.read text with
  | .ok p => p.foundIn name
  | .error _ => false

/-- Do pattern texts, joined to one that is not empty, meet a name? -/
def meetsJoined (texts : List String) (name : String) : Bool :=
  let joined := "|".intercalate texts
  !joined.isEmpty && meets joined name

/-- The names of an object that a schema neither declares nor meets with its joined patterns. -/
def additionalKeys (keywords : List (Node × Node)) (names : List String) : List String :=
  names.filter fun name => !declares keywords name && !meetsJoined (patternTexts keywords) name

/-- On names that a schema does not declare, its patterns mean the same joined as one by one. -/
def JoinsAlike (keywords : List (Node × Node)) (names : List String) : Prop :=
  ∀ name ∈ names, declares keywords name = false →
    meetsJoined (patternTexts keywords) name = (patternTexts keywords).any (meets · name)

instance (keywords : List (Node × Node)) (names : List String) : Decidable (JoinsAlike keywords names) :=
  inferInstanceAs (Decidable (∀ name ∈ names, declares keywords name = false →
    meetsJoined (patternTexts keywords) name = (patternTexts keywords).any (meets · name)))

/-- The raw error of a violation for one property that is not allowed. -/
def Violation.additional (v : Violation) (name : String) : RawError :=
  v.rawError "must NOT have additional properties" [("additionalProperty", .str name)]

end ApiLint.Schema
