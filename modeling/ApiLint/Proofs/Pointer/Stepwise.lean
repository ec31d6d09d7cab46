import ApiLint.Proofs.Finding.Report
import ApiLint.Proofs.Pointer.Resolve

/-!
# Resolving step by step

The path of a finding and the pointer that its suggestion is looked up with are the same text, cut
into segments in two places.  Both cut it alike: resolving takes one step for each segment of the
path, and what it ends with is told by these steps alone.  So a path may also be resolved in parts.

Main results:

- Theorem `walks_iff`: the steps of a walk tell its outcome.
- Theorem `resolveText?_append`: a path behind another one is resolved from where that one leads.
- Theorem `resolve?_iff_walks`: resolving is walking along the segments of the path.
-/

namespace ApiLint.Pointer

variable {node document : Node} {path more : String} {keys : List String}
  {outcome : Except LongNumeral (Option Node)}

/-! ## Walks -/

/--
A walk from a node takes one step for each segment and ends at the first one that finds nothing or
is refused.
-/
inductive Walks : Node → List String → Except LongNumeral (Option Node) → Prop where
  | done (node : Node) : Walks node [] (.ok (some node))
  | step {node next : Node} {key : String} {keys : List String}
    {outcome : Except LongNumeral (Option Node)} :
    step? node key = .ok (some next) → Walks next keys outcome → Walks node (key :: keys) outcome
  | lost {node : Node} {key : String} (keys : List String) :
    step? node key = .ok none → Walks node (key :: keys) (.ok none)
  | refused {node : Node} {key : String} (keys : List String) {e : LongNumeral} :
    step? node key = .error e → Walks node (key :: keys) (.error e)

/-- A walk along some segments has an outcome. -/
theorem walks_walk? (node : Node) (keys : List String) : Walks node keys (walk? node keys) := by
  induction keys generalizing node with
  | nil => exact .done node
  | cons key keys ih =>
      rw [walk?]
      cases hstep : step? node key with
      | error e => exact .refused keys hstep
      | ok found =>
          cases found with
          | none => exact .lost keys hstep
          | some next => exact .step hstep (ih next)

/-- The steps of a walk tell its outcome. -/
theorem walks_iff : Walks node keys outcome ↔ walk? node keys = outcome := by
  constructor
  · intro h
    induction h with
    | done node => rfl
    | step hstep _ ih => rw [walk?_cons_of_ok hstep, ih]
    | lost keys hstep => rw [walk?, hstep]
    | refused keys hstep => rw [walk?, hstep]
  · rintro rfl
    exact walks_walk? node keys

/-! ## Resolving in parts -/

/-- A path behind another one is resolved from where that one leads, if it leads anywhere. -/
theorem resolveText?_append (document : Node) (hpath : isRooted path = true)
    (hmore : isRooted more = true) :
    resolveText? document ("#" ++ path ++ more) =
      match resolveText? document ("#" ++ path) with
      | .ok (some node) => resolveText? node ("#" ++ more)
      | outcome => outcome := by
  rw [String.append_assoc, resolveText?_path document (isRooted_append hpath hmore),
    segmentsOfPath_append hpath hmore, walk?_append, resolveText?_path document hpath]
  cases walk? document (Location.segmentsOfPath path) with
  | error e => rfl
  | ok found =>
      cases found with
      | none => rfl
      | some node => exact (resolveText?_path node hmore).symm

/-! ## The place of a finding -/

/-- The suggestion of a finding is looked up where the path of the finding leads. -/
theorem exists_walks_of_toFinding {e : RawError} {finding : Finding} (hkeyword : e.keyword = "enum")
    (hpath : isRooted e.instancePath = true) (h : e.toFinding document = .ok finding) :
    ∃ found, Walks document finding.path (.ok found) ∧ finding.message = e.enumMessage found := by
  rw [RawError.toFinding_enum document hkeyword] at h
  split at h
  · cases h
  · split at h
    · cases h
    · rename_i found hfound
      cases h
      rw [resolveText?_path document hpath] at hfound
      exact ⟨found, walks_iff.mpr hfound, rfl⟩

/--
A path is resolved by a walk along its segments, if it is empty or starts with a slash; no other path
leads anywhere.  Such a path may be resolved in parts: a path behind it goes on from where it leads,
and fares as it does if it leads nowhere or is refused.  So the suggestion of a finding is looked up
where the path of the finding leads.
-/
theorem resolve?_iff_walks (document : Node) (path : String) :
    (isRooted path = true → ∀ outcome,
      resolve? document (.str ("#" ++ path)) = outcome ↔
        Walks document (Location.segmentsOfPath path) outcome) ∧
    (isRooted path = false → resolve? document (.str ("#" ++ path)) = .ok none) ∧
    (isRooted path = true → ∀ more, isRooted more = true →
      (∀ node, resolve? document (.str ("#" ++ path)) = .ok (some node) →
        resolve? document (.str ("#" ++ path ++ more)) = resolve? node (.str ("#" ++ more))) ∧
      (resolve? document (.str ("#" ++ path)) = .ok none →
        resolve? document (.str ("#" ++ path ++ more)) = .ok none) ∧
      (∀ e, resolve? document (.str ("#" ++ path)) = .error e →
        resolve? document (.str ("#" ++ path ++ more)) = .error e)) ∧
    (isRooted path = true → ∀ (e : RawError) (finding : Finding), e.keyword = "enum" →
      e.instancePath = path → e.toFinding document = .ok finding →
        ∃ found, Walks document finding.path (.ok found) ∧
          finding.message = e.enumMessage found) := by
  simp only [resolve?]
  refine ⟨fun hpath outcome => ?_, resolveText?_path_of_not_rooted document, fun hpath more hmore => ?_,
    fun hpath e finding hkeyword he h => ?_⟩
  · rw [resolveText?_path document hpath, walks_iff]
  · have happend := resolveText?_append document hpath hmore
    refine ⟨fun node hnode => ?_, fun hnone => ?_, fun e herror => ?_⟩
    · rw [happend, hnode]
    · rw [happend, hnone]
    · rw [happend, herror]
  · exact exists_walks_of_toFinding hkeyword (he ▸ hpath) h

/-- A document with a slash in one key, an empty key and a null on the way. -/
def awkwardKeys : Node :=
  .map [(.str "a/b", .list [.null, .map [(.str "", .str "x"), (.str "~1", .null)]])]

/-- Escaped and empty keys are walked along; a missing key and a pointer without a root lead nowhere. -/
theorem resolve?_iff_walks_awkwardKeys :
    Walks awkwardKeys (Location.segmentsOfPath "/a~1b/1")
        (.ok (some (.map [(.str "", .str "x"), (.str "~1", .null)]))) ∧
      resolve? awkwardKeys (.str ("#" ++ "/a~1b/1" ++ "/")) = .ok (some (.str "x")) ∧
      resolve? awkwardKeys (.str ("#" ++ "/a~1b/0/c" ++ "/")) = .ok none ∧
      resolve? awkwardKeys (.str ("#" ++ "a~1b")) = .ok none := by
  obtain ⟨hwalks, -, hparts, -⟩ := resolve?_iff_walks awkwardKeys "/a~1b/1"
  obtain ⟨-, -, hlost, -⟩ := resolve?_iff_walks awkwardKeys "/a~1b/0/c"
  obtain ⟨-, hunrooted, -, -⟩ := resolve?_iff_walks awkwardKeys "a~1b"
  refine ⟨(hwalks rfl _).mp rfl, ?_, ?_, hunrooted rfl⟩
  · rw [(hparts rfl "/" rfl).1 _ rfl]
    rfl
  · exact (hlost rfl "/" rfl).2.1 rfl

end ApiLint.Pointer
