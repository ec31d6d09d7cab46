import ApiLint.Proofs.Yaml.Lexer
import ApiLint.Yaml.Tree

/-!
# Faults of reading a tree

The tree is read from the tokens without looking at their text again.  So its faults are malformed texts and
the faults that were among the tokens.

Main results:

- Theorem `readsAt`: every part of a tree is read with a fault of the text, or leaves tokens with such faults only.
- Theorem `isOfText_of_ofTokens_eq_error`: a text that has no tree has a fault of the text.
-/

namespace ApiLint.Yaml.Tree

/-- The faults among tokens are faults of the text. -/
def FaultsOfText (ts : List Token) : Prop := ∀ e, Token.fault e ∈ ts → e.IsOfText

/-- An outcome of reading a part of a tree. -/
def Reads {α : Type} (result : Result α) : Prop := Scans (fun read => FaultsOfText read.2.rest) result

variable {α β : Type} {Q : α → Prop} {ts : List Token} {t : Token} {p : Place} {props : Properties}

theorem FaultsOfText.tail (h : FaultsOfText (t :: ts)) : FaultsOfText ts :=
  fun e hmem => h e (List.mem_cons_of_mem t hmem)

theorem FaultsOfText.head {e : ReadError} (h : FaultsOfText (.fault e :: ts)) : e.IsOfText :=
  h e List.mem_cons_self

/-- The tokens behind the first one that is left. -/
theorem FaultsOfText.rest (h : FaultsOfText p.rest) (hrest : p.rest = t :: ts) : FaultsOfText ts := by
  rw [hrest] at h
  exact h.tail

theorem scans_fail (problem : Problem) : Scans Q (fail problem) := scans_malformed problem

theorem scans_unexpected (h : FaultsOfText ts) : Scans Q (unexpected ts) := by
  rw [unexpected.eq_def]
  split
  · exact h.head
  · exact scans_fail _

theorem scans_past {x : α} (h : FaultsOfText ts) (hx : Q x) : Scans Q (past ts x) := by
  rw [past.eq_def]
  split
  · exact h.head
  · exact hx

/-! ## Tags and anchors -/

theorem scans_resolveTag (handles : List (String × String)) (handle : Option String) (suffix : String) :
    Scans (fun _ => True) (resolveTag handles handle suffix) := by
  unfold resolveTag
  refine Scans.map ?_ fun _ htag => htag
  split
  · exact trivial
  · split
    · exact trivial
    · exact scans_fail _

theorem reads_properties (h : FaultsOfText p.rest) : Reads (properties p) := by
  rw [properties.eq_def]
  split
  · rename_i hrest
    exact (h.rest hrest).head
  · rename_i hrest
    exact (h.rest hrest).head
  · rename_i hrest
    exact (scans_resolveTag _ _ _).map fun _ _ => (h.rest hrest).tail
  · rename_i hrest
    exact (scans_resolveTag _ _ _).map fun _ _ => (h.rest hrest).tail
  · rename_i hrest
    exact h.rest hrest
  · rename_i hrest
    exact (scans_resolveTag _ _ _).map fun _ _ => h.rest hrest
  · exact h

theorem scans_checkAnchor (props : Properties) (p : Place) : Scans (fun _ => True) (checkAnchor props p) := by
  rw [checkAnchor]
  split
  · exact trivial
  · split
    · exact scans_fail _
    · exact trivial

@[simp] theorem bindAnchor_rest (props : Properties) (t : Tree) (p : Place) :
    (bindAnchor props t p).rest = p.rest := by
  rw [bindAnchor]
  split <;> rfl

theorem reads_finish (t : Tree) (h : FaultsOfText p.rest) : Reads (finish props t p) := by
  change FaultsOfText (bindAnchor props t p).rest
  rw [bindAnchor_rest]
  exact h

theorem reads_empty (h : FaultsOfText p.rest) : Reads (empty props p) := by
  rw [empty]
  split
  · exact reads_finish _ h
  · exact scans_unexpected h

/-! ## Nodes -/

/-- With a bound on the steps, every part is read with a fault of the text or leaves only such ones among the tokens. -/
structure ReadsAt (fuel : Nat) : Prop where
  node (position : Position) {p : Place} (h : FaultsOfText p.rest) : Reads (node fuel position p)
  blockItems (indentless : Bool) (done : List Tree) {p : Place} (h : FaultsOfText p.rest) :
    Reads (blockItems fuel indentless done p)
  blockEntries (done : List (Tree × Tree)) {p : Place} (h : FaultsOfText p.rest) :
    Reads (blockEntries fuel done p)
  blockPart {p : Place} (h : FaultsOfText p.rest) : Reads (blockPart fuel p)
  flowPart (close : Token) (isValue : Bool) {p : Place} (h : FaultsOfText p.rest) :
    Reads (flowPart fuel close isValue p)
  flowValue (close : Token) {p : Place} (h : FaultsOfText p.rest) : Reads (flowValue fuel close p)
  flowItems (done : List Tree) {p : Place} (h : FaultsOfText p.rest) : Reads (flowItems fuel done p)
  flowItemsEnd (done : List Tree) {p : Place} (h : FaultsOfText p.rest) : Reads (flowItemsEnd fuel done p)
  flowEntries (done : List (Tree × Tree)) {p : Place} (h : FaultsOfText p.rest) :
    Reads (flowEntries fuel done p)
  flowEntriesEnd (done : List (Tree × Tree)) {p : Place} (h : FaultsOfText p.rest) :
    Reads (flowEntriesEnd fuel done p)

section Step

variable {fuel : Nat}

theorem ReadsAt.node_succ (ih : ReadsAt fuel) (position : Position) (h : FaultsOfText p.rest) :
    Reads (Tree.node (fuel + 1) position p) := by
  rw [Tree.node]
  split
  · rename_i hrest
    split
    · exact h.rest hrest
    · exact scans_fail _
  split
  · rename_i hprops
    exact (reads_properties h).of_error hprops
  rename_i props p' hprops
  have hp : FaultsOfText p'.rest := (reads_properties h).of_ok hprops
  have hcheck : Scans (fun _ => True) (past p'.rest p' >>= checkAnchor props) :=
    (scans_past (Q := fun _ => True) hp trivial).bind fun _ _ => scans_checkAnchor _ _
  split
  · rename_i hfault
    exact hcheck.of_error hfault
  -- Inside a collection its anchor names the collection itself.
  have hbind : ∀ {ts : List Token} {t : Token}, p'.rest = t :: ts →
      FaultsOfText (bindAnchor props .itself { p' with rest := ts }).rest := by
    intro ts t hrest
    rw [bindAnchor_rest]
    exact hp.rest hrest
  dsimp only
  split
  · split
    · have hitems := ih.blockItems true [] (p := bindAnchor props .itself p') (by rwa [bindAnchor_rest])
      split
      · rename_i hread
        exact reads_finish _ (hitems.of_ok hread)
      · rename_i hfault
        exact hitems.of_error hfault
    · exact reads_empty hp
  · rename_i hrest
    exact reads_finish _ (hp.rest hrest)
  · rename_i hrest
    split
    · rename_i hread
      exact reads_finish _ ((ih.flowItems [] (hbind hrest)).of_ok hread)
    · rename_i hfault
      exact (ih.flowItems [] (hbind hrest)).of_error hfault
  · rename_i hrest
    split
    · rename_i hread
      exact reads_finish _ ((ih.flowEntries [] (hbind hrest)).of_ok hread)
    · rename_i hfault
      exact (ih.flowEntries [] (hbind hrest)).of_error hfault
  · rename_i hrest
    split
    · exact reads_empty hp
    · split
      · rename_i hread
        exact reads_finish _ ((ih.blockItems false [] (hbind hrest)).of_ok hread)
      · rename_i hfault
        exact (ih.blockItems false [] (hbind hrest)).of_error hfault
  · rename_i hrest
    split
    · exact reads_empty hp
    · split
      · rename_i hread
        exact reads_finish _ ((ih.blockEntries [] (hbind hrest)).of_ok hread)
      · rename_i hfault
        exact (ih.blockEntries [] (hbind hrest)).of_error hfault
  · exact reads_empty hp

theorem ReadsAt.blockItems_succ (ih : ReadsAt fuel) (indentless : Bool) (done : List Tree)
    (h : FaultsOfText p.rest) : Reads (Tree.blockItems (fuel + 1) indentless done p) := by
  rw [Tree.blockItems]
  split
  · rename_i hrest
    have hitem := h.rest hrest
    split
    · exact ih.blockItems indentless _ hitem
    · have hnode := ih.node .block (p := { p with rest := _ }) hitem
      split
      · rename_i hread
        exact ih.blockItems indentless _ (hnode.of_ok hread)
      · rename_i hfault
        exact hnode.of_error hfault
  · rename_i hrest
    split
    · exact h
    · exact h.rest hrest
  · split
    · exact scans_past h h
    · exact scans_unexpected h

theorem ReadsAt.blockEntries_succ (ih : ReadsAt fuel) (done : List (Tree × Tree))
    (h : FaultsOfText p.rest) : Reads (Tree.blockEntries (fuel + 1) done p) := by
  rw [Tree.blockEntries]
  split
  · rename_i hrest
    exact h.rest hrest
  · rename_i rest hrest
    have hkey := ih.blockPart (p := { p with rest }) (h.rest hrest)
    split
    · rename_i hfault
      exact hkey.of_error hfault
    · rename_i key after hread
      have hafter : FaultsOfText after.rest := hkey.of_ok hread
      split
      · rename_i rest hmark
        have hvalue := ih.blockPart (p := { after with rest }) (hafter.rest hmark)
        split
        · rename_i hread
          exact ih.blockEntries _ (hvalue.of_ok hread)
        · rename_i hfault
          exact hvalue.of_error hfault
      · exact ih.blockEntries _ hafter
  · exact scans_unexpected h

theorem ReadsAt.blockPart_succ (ih : ReadsAt fuel) (h : FaultsOfText p.rest) :
    Reads (Tree.blockPart (fuel + 1) p) := by
  rw [Tree.blockPart]
  split
  · exact h
  · exact ih.node .entry h

theorem ReadsAt.flowPart_succ (ih : ReadsAt fuel) (close : Token) (isValue : Bool)
    (h : FaultsOfText p.rest) : Reads (Tree.flowPart (fuel + 1) close isValue p) := by
  rw [Tree.flowPart]
  split
  · exact h
  · exact ih.node .flow h

theorem ReadsAt.flowValue_succ (ih : ReadsAt fuel) (close : Token) (h : FaultsOfText p.rest) :
    Reads (Tree.flowValue (fuel + 1) close p) := by
  rw [Tree.flowValue]
  split
  · rename_i hrest
    exact ih.flowPart close true (h.rest hrest)
  · exact scans_past h h

theorem ReadsAt.flowItems_succ (ih : ReadsAt fuel) (done : List Tree) (h : FaultsOfText p.rest) :
    Reads (Tree.flowItems (fuel + 1) done p) := by
  rw [Tree.flowItems]
  split
  · rename_i hrest
    exact h.rest hrest
  · rename_i rest hrest
    have hkey := ih.flowPart .flowSequenceEnd false (p := { p with rest }) (h.rest hrest)
    split
    · rename_i hfault
      exact hkey.of_error hfault
    · rename_i hread
      have hvalue := ih.flowValue .flowSequenceEnd (hkey.of_ok hread)
      split
      · rename_i hfault
        exact hvalue.of_error hfault
      · rename_i hread
        exact ih.flowItemsEnd _ (hvalue.of_ok hread)
  · split
    · rename_i hread
      exact ih.flowItemsEnd _ ((ih.node .flow h).of_ok hread)
    · rename_i hfault
      exact (ih.node .flow h).of_error hfault

theorem ReadsAt.flowItemsEnd_succ (ih : ReadsAt fuel) (done : List Tree) (h : FaultsOfText p.rest) :
    Reads (Tree.flowItemsEnd (fuel + 1) done p) := by
  rw [Tree.flowItemsEnd]
  split
  · rename_i hrest
    exact h.rest hrest
  · rename_i hrest
    exact ih.flowItems done (h.rest hrest)
  · exact scans_unexpected h

theorem ReadsAt.flowEntries_succ (ih : ReadsAt fuel) (done : List (Tree × Tree))
    (h : FaultsOfText p.rest) : Reads (Tree.flowEntries (fuel + 1) done p) := by
  rw [Tree.flowEntries]
  split
  · rename_i hrest
    exact h.rest hrest
  · rename_i rest hrest
    have hkey := ih.flowPart .flowMappingEnd false (p := { p with rest }) (h.rest hrest)
    split
    · rename_i hfault
      exact hkey.of_error hfault
    · rename_i hread
      have hvalue := ih.flowValue .flowMappingEnd (hkey.of_ok hread)
      split
      · rename_i hfault
        exact hvalue.of_error hfault
      · rename_i hread
        exact ih.flowEntriesEnd _ (hvalue.of_ok hread)
  · split
    · rename_i hread
      exact ih.flowEntriesEnd _ ((ih.node .flow h).of_ok hread)
    · rename_i hfault
      exact (ih.node .flow h).of_error hfault

theorem ReadsAt.flowEntriesEnd_succ (ih : ReadsAt fuel) (done : List (Tree × Tree))
    (h : FaultsOfText p.rest) : Reads (Tree.flowEntriesEnd (fuel + 1) done p) := by
  rw [Tree.flowEntriesEnd]
  split
  · rename_i hrest
    exact h.rest hrest
  · rename_i hrest
    exact ih.flowEntries done (h.rest hrest)
  · exact scans_unexpected h

end Step

/-- Every part of a tree is read with a fault of the text, or leaves tokens whose faults are of the text. -/
theorem readsAt (fuel : Nat) : ReadsAt fuel := by
  induction fuel with
  | zero =>
      constructor <;> intros <;> exact scans_fail .unexpectedEnd
  | succ fuel ih =>
      exact {
        node := fun position _ h => ih.node_succ position h
        blockItems := fun indentless done _ h => ih.blockItems_succ indentless done h
        blockEntries := fun done _ h => ih.blockEntries_succ done h
        blockPart := fun h => ih.blockPart_succ h
        flowPart := fun close isValue _ h => ih.flowPart_succ close isValue h
        flowValue := fun close _ h => ih.flowValue_succ close h
        flowItems := fun done _ h => ih.flowItems_succ done h
        flowItemsEnd := fun done _ h => ih.flowItemsEnd_succ done h
        flowEntries := fun done _ h => ih.flowEntries_succ done h
        flowEntriesEnd := fun done _ h => ih.flowEntriesEnd_succ done h }

/-! ## Documents -/

theorem scans_directives (sawVersion : Bool) (own : List (String × String)) (h : FaultsOfText ts) :
    Scans (fun read => FaultsOfText read.2) (directives sawVersion own ts) := by
  fun_induction directives sawVersion own ts with
  | case1 => exact scans_fail _
  | case2 _ _ _ _ _ _ ih => exact ih h.tail
  | case3 => exact scans_fail _
  | case4 _ _ _ _ _ _ ih => exact ih h.tail
  | case5 _ _ _ ih => exact ih h.tail
  | case6 => exact h

theorem FaultsOfText.skipEnds (h : FaultsOfText ts) : FaultsOfText (skipEnds ts) :=
  fun e hmem => h e ((List.dropWhile_suffix _).subset hmem)

theorem scans_lastDocument {read : Tree × Place} (h : FaultsOfText read.2.rest) :
    Scans (fun _ => True) (lastDocument read) := by
  have hdirectives := scans_directives false [] h.skipEnds
  rw [lastDocument]
  split
  · exact trivial
  · split
    · rename_i hfault
      exact hdirectives.of_error hfault
    · rename_i hread
      exact (hdirectives.of_ok hread).head
    · exact scans_fail _

theorem scans_announced (h : FaultsOfText ts) : Scans (fun _ => True) (announced ts) := by
  have hdirectives := scans_directives false [] h
  rw [announced]
  split
  · rename_i hfault
    exact hdirectives.of_error hfault
  · rename_i hread
    have hrest := (hdirectives.of_ok hread).tail
    dsimp only
    split
    · exact scans_lastDocument hrest
    · exact Scans.bind ((readsAt _).node .block hrest) fun _ hlast => scans_lastDocument hlast
  · rename_i hread
    exact scans_unexpected (hdirectives.of_ok hread)

theorem scans_ofTokens (h : FaultsOfText ts) : Scans (fun _ => True) (ofTokens ts) := by
  rw [ofTokens.eq_def]
  split
  · exact trivial
  · exact scans_announced h
  · exact scans_announced h
  · exact Scans.bind ((readsAt _).node .block h) fun _ hlast => scans_lastDocument hlast

/-- A text that has no tree has a fault of the text. -/
theorem isOfText_of_ofTokens_eq_error {text : List Char} {e : ReadError}
    (htree : ofTokens (tokens text) = .error e) : e.IsOfText := by
  have h : Scans (fun _ => True) (ofTokens (tokens text)) :=
    scans_ofTokens fun _ hmem => isOfText_of_mem_tokens hmem
  rw [htree] at h
  exact h

end ApiLint.Yaml.Tree
