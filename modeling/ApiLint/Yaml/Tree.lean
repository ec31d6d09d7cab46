import ApiLint.Yaml.Lexer

/-!
# From tokens to a tree

A document is a tree of scalars, sequences and mappings, each with the tag that was written, if any.  An
alias stands for a copy of the tree that its anchor names; inside that tree it stands for the whole.

`Tree.ofTokens` reads the one document of a text; a text without one yields no tree.  A fault among the tokens
counts when it is reached, so whatever is wrong with the tokens before it comes first.
-/

namespace ApiLint.Yaml

/-- The tag of a tree: none, the sign that asks for the usual one, or a name. -/
inductive Tag where
  | absent
  /-- A single exclamation mark. -/
  | usual
  | name (s : String)
deriving DecidableEq

/-- A document before its scalars are given a meaning. -/
inductive Tree where
  /-- Scalars that are written at different places have different numbers. -/
  | scalar (number : Nat) (tag : Tag) (text : String) (isPlain : Bool)
  | sequence (tag : Tag) (items : List Tree)
  | mapping (tag : Tag) (entries : List (Tree × Tree))
  /-- Inside a collection with an anchor: that collection itself. -/
  | itself

namespace Tree

/-- The scalar that stands where nothing is written. -/
def nothing : Tree := .scalar 0 .absent "" true

/-! ## Tags and anchors -/

/-- The prefix of the tags of this format. -/
def standardStart : String := "tag:yaml.org,2002:"

/-- What the handles stand for, before any directive. -/
def standardHandles : List (String × String) := [("!", "!"), ("!!", standardStart)]

/-- The state of reading a tree: anchors with their trees, the number of scalars read, and the tokens left. -/
structure Place where
  handles : List (String × String)
  anchors : List (String × Tree)
  scalars : Nat
  rest : List Token

/-- A tree that was read, and the place after it. -/
abbrev Result (α : Type) := Except ReadError (α × Place)

/-- The text is malformed. -/
def fail (problem : Problem) : Except ReadError α := .error (.malformed problem)

/-- The next token fits nowhere, or is a fault. -/
def unexpected : List Token → Except ReadError α
  | .fault e :: _ => .error e
  | _ => fail .unexpectedToken

/-- Go on, unless the next token is a fault. -/
def past (ts : List Token) (x : α) : Except ReadError α :=
  match ts with
  | .fault e :: _ => .error e
  | _ => .ok x

/-- The tag that a handle and a suffix name. -/
def resolveTag (handles : List (String × String)) (handle : Option String) (suffix : String) :
    Except ReadError Tag :=
  let full : Except ReadError String := match handle with
    | none => .ok suffix
    | some h => match handles.lookup h with
      | some start => .ok (start ++ suffix)
      | none => fail .badTag
  full.map fun s => if s = "!" then .usual else .name s

/-- What stands before a node: its tag and its anchor. -/
structure Properties where
  tag : Option Tag
  anchor : Option String

/-- Read a tag and an anchor, in any order, each at most once. -/
def properties (p : Place) : Result Properties :=
  match p.rest with
  | .anchor _ :: .fault e :: _ => .error e
  | .tag _ _ :: .fault e :: _ => .error e
  | .anchor a :: .tag h s :: rest =>
    (resolveTag p.handles h s).map fun t => (⟨some t, some a⟩, { p with rest })
  | .tag h s :: .anchor a :: rest =>
    (resolveTag p.handles h s).map fun t => (⟨some t, some a⟩, { p with rest })
  | .anchor a :: rest => .ok (⟨none, some a⟩, { p with rest })
  | .tag h s :: rest => (resolveTag p.handles h s).map fun t => (⟨some t, none⟩, { p with rest })
  | _ => .ok (⟨none, none⟩, p)

/-- An anchor names one node only. -/
def checkAnchor (props : Properties) (p : Place) : Except ReadError Unit :=
  match props.anchor with
  | none => .ok ()
  | some a => if (p.anchors.lookup a).isSome then fail .duplicateAnchor else .ok ()

/-- Let the anchor name a tree. -/
def bindAnchor (props : Properties) (t : Tree) (p : Place) : Place :=
  match props.anchor with
  | none => p
  | some a => { p with anchors := (a, t) :: p.anchors }

/-- Finish a node. -/
def finish (props : Properties) (t : Tree) (p : Place) : Result Tree := .ok (t, bindAnchor props t p)

/-! ## Nodes -/

/-- Where a node stands decides what it can be. -/
inductive Position where
  /-- Between brackets. -/
  | flow
  | block
  /-- A key or value of a block mapping, whose items need no deeper indentation. -/
  | entry
deriving DecidableEq

/-- Does nothing stand before this token, where a node of a block could? -/
def endsBlockEntry : List Token → Bool
  | .key :: _ | .value :: _ | .blockEnd :: _ => true
  | _ => false

/-- Does nothing stand before this token, where an item of a block could? -/
def endsBlockItem (indentless : Bool) : List Token → Bool
  | .blockEntry :: _ | .blockEnd :: _ => true
  | .key :: _ | .value :: _ => indentless
  | _ => false

/-- Does nothing stand before this token, where a node of a bracket could? -/
def endsFlow (close : Token) (isValue : Bool) : List Token → Bool
  | .value :: _ => !isValue
  | .flowEntry :: _ => true
  | t :: _ => t == close
  | [] => false

mutual

/-- Read a node. -/
def node : Nat → Position → Place → Result Tree
  | 0, _, _ => fail .unexpectedEnd
  | fuel + 1, position, p =>
    match p.rest with
    | .alias a :: rest =>
      match p.anchors.lookup a with
      | some t => .ok (t, { p with rest })
      | none => fail .undefinedAlias
    | _ =>
      match properties p with
      | .error e => .error e
      | .ok (props, p) =>
        match past p.rest p >>= checkAnchor props with
        | .error e => .error e
        | .ok () =>
          let tag := props.tag.getD .absent
          match p.rest with
          | .blockEntry :: _ =>
            if position = .entry then
              match blockItems fuel true [] (bindAnchor props .itself p) with
              | .ok (items, p) => finish props (.sequence tag items) p
              | .error e => .error e
            else empty props p
          | .scalar text isPlain :: rest =>
            finish props (.scalar (p.scalars + 1) tag text isPlain)
              { p with scalars := p.scalars + 1, rest }
          | .flowSequenceStart :: rest =>
            match flowItems fuel [] (bindAnchor props .itself { p with rest }) with
            | .ok (items, p) => finish props (.sequence tag items) p
            | .error e => .error e
          | .flowMappingStart :: rest =>
            match flowEntries fuel [] (bindAnchor props .itself { p with rest }) with
            | .ok (entries, p) => finish props (.mapping tag entries) p
            | .error e => .error e
          | .blockSequenceStart :: rest =>
            if position = .flow then empty props p
            else
              match blockItems fuel false [] (bindAnchor props .itself { p with rest }) with
              | .ok (items, p) => finish props (.sequence tag items) p
              | .error e => .error e
          | .blockMappingStart :: rest =>
            if position = .flow then empty props p
            else
              match blockEntries fuel [] (bindAnchor props .itself { p with rest }) with
              | .ok (entries, p) => finish props (.mapping tag entries) p
              | .error e => .error e
          | _ => empty props p
termination_by structural fuel => fuel

/-- Nothing may stand for a node only after a tag or an anchor. -/
def empty (props : Properties) (p : Place) : Result Tree :=
  if props.tag.isSome || props.anchor.isSome then
    finish props (.scalar (p.scalars + 1) (props.tag.getD .absent) ""
      (props.tag.isNone || props.tag = some .usual)) { p with scalars := p.scalars + 1 }
  else unexpected p.rest

/-- Read the items of a block sequence; one without indentation of its own has no end token. -/
def blockItems : Nat → Bool → List Tree → Place → Result (List Tree)
  | 0, _, _, _ => fail .unexpectedEnd
  | fuel + 1, indentless, done, p =>
    match p.rest with
    | .blockEntry :: rest =>
      if endsBlockItem indentless rest then
        blockItems fuel indentless (nothing :: done) { p with rest }
      else
        match node fuel .block { p with rest } with
        | .ok (t, p) => blockItems fuel indentless (t :: done) p
        | .error e => .error e
    | .blockEnd :: rest => .ok (done.reverse, if indentless then p else { p with rest })
    | rest => if indentless then past rest (done.reverse, p) else unexpected rest
termination_by structural fuel => fuel

/-- Read the entries of a block mapping. -/
def blockEntries : Nat → List (Tree × Tree) → Place → Result (List (Tree × Tree))
  | 0, _, _ => fail .unexpectedEnd
  | fuel + 1, done, p =>
    match p.rest with
    | .blockEnd :: rest => .ok (done.reverse, { p with rest })
    | .key :: rest =>
      match blockPart fuel { p with rest } with
      | .error e => .error e
      | .ok (key, p) =>
        match p.rest with
        | .value :: rest =>
          match blockPart fuel { p with rest } with
          | .ok (value, p) => blockEntries fuel ((key, value) :: done) p
          | .error e => .error e
        | _ => blockEntries fuel ((key, nothing) :: done) p
    | rest => unexpected rest
termination_by structural fuel => fuel

/-- Read a key or a value of a block mapping. -/
def blockPart : Nat → Place → Result Tree
  | 0, _ => fail .unexpectedEnd
  | fuel + 1, p => if endsBlockEntry p.rest then .ok (nothing, p) else node fuel .entry p
termination_by structural fuel => fuel

/-- Read a key or a value between brackets. -/
def flowPart : Nat → Token → Bool → Place → Result Tree
  | 0, _, _, _ => fail .unexpectedEnd
  | fuel + 1, close, isValue, p =>
    if endsFlow close isValue p.rest then .ok (nothing, p) else node fuel .flow p
termination_by structural fuel => fuel

/-- Read a value between brackets, if its mark is there. -/
def flowValue : Nat → Token → Place → Result Tree
  | 0, _, _ => fail .unexpectedEnd
  | fuel + 1, close, p =>
    match p.rest with
    | .value :: rest => flowPart fuel close true { p with rest }
    | rest => past rest (nothing, p)
termination_by structural fuel => fuel

/-- Read the items of a bracketed sequence; a key with its value is a mapping of one entry. -/
def flowItems : Nat → List Tree → Place → Result (List Tree)
  | 0, _, _ => fail .unexpectedEnd
  | fuel + 1, done, p =>
    match p.rest with
    | .flowSequenceEnd :: rest => .ok (done.reverse, { p with rest })
    | .key :: rest =>
      match flowPart fuel .flowSequenceEnd false { p with rest } with
      | .error e => .error e
      | .ok (key, p) =>
        match flowValue fuel .flowSequenceEnd p with
        | .error e => .error e
        | .ok (value, p) => flowItemsEnd fuel (.mapping .absent [(key, value)] :: done) p
    | _ =>
      match node fuel .flow p with
      | .ok (t, p) => flowItemsEnd fuel (t :: done) p
      | .error e => .error e
termination_by structural fuel => fuel

/-- Go on after an item of a bracketed sequence. -/
def flowItemsEnd : Nat → List Tree → Place → Result (List Tree)
  | 0, _, _ => fail .unexpectedEnd
  | fuel + 1, done, p =>
    match p.rest with
    | .flowSequenceEnd :: rest => .ok (done.reverse, { p with rest })
    | .flowEntry :: rest => flowItems fuel done { p with rest }
    | rest => unexpected rest
termination_by structural fuel => fuel

/-- Read the entries of a bracketed mapping; a node alone is a key without a value. -/
def flowEntries : Nat → List (Tree × Tree) → Place → Result (List (Tree × Tree))
  | 0, _, _ => fail .unexpectedEnd
  | fuel + 1, done, p =>
    match p.rest with
    | .flowMappingEnd :: rest => .ok (done.reverse, { p with rest })
    | .key :: rest =>
      match flowPart fuel .flowMappingEnd false { p with rest } with
      | .error e => .error e
      | .ok (key, p) =>
        match flowValue fuel .flowMappingEnd p with
        | .error e => .error e
        | .ok (value, p) => flowEntriesEnd fuel ((key, value) :: done) p
    | _ =>
      match node fuel .flow p with
      | .ok (key, p) => flowEntriesEnd fuel ((key, nothing) :: done) p
      | .error e => .error e
termination_by structural fuel => fuel

/-- Go on after an entry of a bracketed mapping. -/
def flowEntriesEnd : Nat → List (Tree × Tree) → Place → Result (List (Tree × Tree))
  | 0, _, _ => fail .unexpectedEnd
  | fuel + 1, done, p =>
    match p.rest with
    | .flowMappingEnd :: rest => .ok (done.reverse, { p with rest })
    | .flowEntry :: rest => flowEntries fuel done { p with rest }
    | rest => unexpected rest
termination_by structural fuel => fuel

end

/-! ## Documents -/

/-- Read the directives before a document: at most one version, which must be a first one, and handles. -/
def directives (sawVersion : Bool) (own : List (String × String)) :
    List Token → Except ReadError (List (String × String) × List Token)
  | .directive (.version major _) :: rest =>
    if sawVersion || major != 1 then fail .badDirective else directives true own rest
  | .directive (.tag handle start) :: rest =>
    if (own.lookup handle).isSome then fail .badDirective
    else directives sawVersion ((handle, start) :: own) rest
  | .directive .other :: rest => directives sawVersion own rest
  | rest => .ok (own ++ standardHandles, rest)

/-- Does a document that was announced hold nothing? -/
def isEmptyDocument : List Token → Bool
  | [] => true
  | .directive _ :: _ | .documentStart :: _ | .documentEnd :: _ => true
  | _ => false

/-- Drop the marks at the end of a document. -/
def skipEnds (ts : List Token) : List Token := ts.dropWhile (· == .documentEnd)

/-- Nothing but marks may follow the document; directives are read before a second one is refused. -/
def lastDocument (r : Tree × Place) : Except ReadError (Option Tree) :=
  match skipEnds r.2.rest with
  | [] => .ok (some r.1)
  | rest =>
    match directives false [] rest with
    | .error e => .error e
    | .ok (_, .fault e :: _) => .error e
    | .ok _ => fail .secondDocument

/-- Read a document that a mark or a directive announces. -/
def announced (ts : List Token) : Except ReadError (Option Tree) :=
  match directives false [] ts with
  | .error e => .error e
  | .ok (handles, .documentStart :: rest) =>
    let p : Place := ⟨handles, [], 0, rest⟩
    if isEmptyDocument rest then lastDocument (nothing, p)
    else (node (3 * rest.length + 3) .block p).bind lastDocument
  | .ok (_, rest) => unexpected rest

/-- The tree of the one document, if there is one. -/
def ofTokens (ts : List Token) : Except ReadError (Option Tree) :=
  match ts with
  | [] => .ok none
  | .directive _ :: _ => announced ts
  | .documentStart :: _ => announced ts
  | _ => (node (3 * ts.length + 3) .block ⟨standardHandles, [], 0, ts⟩).bind lastDocument

end Tree

end ApiLint.Yaml
