import ApiLint.Yaml.Value

/-!
# The faults of a YAML document

Few faults can be met while a text is read as a tree.  All faults of the tree itself stand in a list in the order
of the text, each with its level; the one that ends the making of the value is the first one on the outermost
level.
-/

namespace ApiLint.Yaml

/-! ## Faults of the text -/

/--
What can be wrong with a text before it is given a meaning: it is malformed, or it names a character beyond the
last one, or the number of a version has too many digits.
-/
inductive ReadError.IsOfText : ReadError → Prop where
  | malformed (problem : Problem) : IsOfText (.malformed problem)
  | character {code : Nat} (hcode : 0x110000 ≤ code) : IsOfText (.noSuchCharacter code)
  | version {digits : Nat} (hlong : digitLimit < digits) : IsOfText (.longNumeral (.toRead digits))

/-! ## Faults of the tree -/

/-- The fault of an outcome, if it is one. -/
def Made.faults {α : Type} : Made α → List LevelFault
  | .ok _ => []
  | .error fault => [fault]

/-- The faults of a collection: those of what it holds, unless its tag does not fit. -/
def faultsWithTag (fit : TagFit) (level : Nat) (faults : List LevelFault) : List LevelFault :=
  match fit with
  | .fits => faults
  | .crossed => [⟨level + 1, .malformed .wrongKind⟩]
  | .scalar => [⟨level, .malformed .wrongKind⟩]
  | .unknown => [⟨level, .malformed .unknownTag⟩]

namespace Content

mutual

/-- The faults of a content that is met on a level. -/
def faults (level : Nat) : Content → List LevelFault
  | .scalar number tag text isPlain => (madeScalar level number tag text isPlain).faults
  | .sequence tag items => faultsWithTag (tagFit "seq" tag) level (itemFaults (level + 1) items)
  | .mapping tag entries =>
    if tag.isSet then entryFaults (level + 1) entries ++ [⟨level, .unordered⟩]
    else faultsWithTag (tagFit "map" tag) level (entryFaults (level + 1) entries)
  | .pairs entries => pairFaults (level + 1) entries
  | .itself => [⟨level, .endless⟩]
  | .broken depth error => [⟨level + depth, error⟩]
termination_by structural c => c

/-- The faults of items. -/
def itemFaults (level : Nat) : List Content → List LevelFault
  | [] => []
  | c :: cs => faults level c ++ itemFaults level cs
termination_by structural cs => cs

/-- The faults of pairs. -/
def pairFaults (level : Nat) : List (Content × Content) → List LevelFault
  | [] => []
  | (key, value) :: rest => (faults level key ++ faults level value) ++ pairFaults level rest
termination_by structural cs => cs

/-- The faults of entries; a key that is no scalar is the last one that is looked at. -/
def entryFaults (level : Nat) : List (Content × Content) → List LevelFault
  | [] => []
  | (.scalar number tag text isPlain, value) :: rest =>
    ((madeScalar level number tag text isPlain).faults ++ faults level value) ++ entryFaults level rest
  | (.broken 0 error, _) :: _ => [⟨level, error⟩]
  | (_, _) :: _ => [⟨level, .malformed .unhashableKey⟩]
termination_by structural cs => cs

end

end Content

/-- Of several faults one counts: it overtakes all before it, and none after it overtakes it. -/
def Counts (fault : LevelFault) (faults : List LevelFault) : Prop :=
  ∃ before after, faults = before ++ fault :: after ∧ (∀ f ∈ before, fault.overtakes f = true) ∧
    ∀ f ∈ after, f.overtakes fault = false

end ApiLint.Yaml
