import ApiLint.CommandLine.Meaning
import ApiLint.Proofs.Console.Style
import ApiLint.Proofs.Finding.Save

/-!
# What linting does to files

Up to the point where findings are saved a lint command only looks at files and prints; saving them puts one
file in its place; and after that it only prints.  So a command that ends without a fault has changed at most
the file that it was asked to write, and its exit code says whether there was something to report.

Main results:

- Theorem `foldl_set_eq`: the request that the options make.
- Theorem `differsOnlyAt_of_saveText`: saving changes one file.
- Theorem `finishes_run`: what linting does, step after step.
- Theorem `exitCode_and_tree_of_isLint`: exit code and files after a lint command.
-/

namespace ApiLint

/-! ## Saving changes one file -/

namespace FileTree

variable {t t' : FileTree} {p : FilePath}

/-- Making directories changes no files. -/
theorem files_of_makeAlong {place names : List String} (h : t.makeAlong place names = .ok () t') :
    t'.files = t.files := by
  induction names generalizing t place with
  | nil =>
      cases h
      rfl
  | cons name names ih =>
      rw [makeAlong] at h
      split at h
      · cases h
      · split at h
        · exact ih h
        · cases h
        · have hrest := ih h
          exact hrest

/-- Making directories changes no files. -/
theorem files_of_makeDirectories (h : t.makeDirectories p = .ok () t') : t'.files = t.files := by
  rw [makeDirectories] at h
  split at h
  · cases h
  · exact files_of_makeAlong h

/-- Saving a text changes the one file that it is saved in. -/
theorem differsOnlyAt_of_saveText {text : String} (h : t.saveText p text = .ok () t') :
    t.DiffersOnlyAt t' p text.toUTF8 := by
  rw [saveText] at h
  cases hmade : t.makeDirectories p.parent with
  | error e t₁ =>
      rw [hmade] at h
      cases h
  | ok _ t₁ =>
      rw [hmade] at h
      obtain ⟨place, hplace, hfree, rfl⟩ := write_eq_ok_iff.mp h
      have hlookup (other : List String) : (t₁.withFile place text.toUTF8).files.lookup other =
          if other = place then some text.toUTF8 else t₁.files.lookup other :=
        lookup_putFile place other text.toUTF8 t₁.files
      refine ⟨place, place_of_write hplace hfree _, by rw [hlookup, if_pos rfl], ?_⟩
      intro other hother
      rw [hlookup, if_neg hother, files_of_makeDirectories hmade]

end FileTree

namespace CommandLine

/-! ## Options -/

/-- Of several things the last one counts, and it comes before what was there. -/
theorem getLast?_cons_map_or {α β : Type} (f : α → β) (a : α) (later : List α) (before : Option β) :
    ((a :: later).getLast?.map f).or before = (later.getLast?.map f).or (some (f a)) := by
  rw [List.getLast?_cons]
  cases later.getLast? <;> rfl

/-- The request that the options make, one after the other. -/
theorem foldl_set_eq (options : List LintOption) (request : LintRequest) :
    options.foldl LintRequest.set request =
      { path := request.path
        schemaOptions := request.schemaOptions ++ options.filterMap LintOption.schema?
        output := ((options.filterMap LintOption.output?).getLast?.map .ofText).or request.output
        failOnFindings :=
          (options.filterMap LintOption.fail?).getLast?.getD request.failOnFindings } := by
  induction options generalizing request with
  | nil => simp
  | cons option options ih =>
      rw [List.foldl_cons, ih]
      cases option with
      | schema option =>
          simp [LintRequest.set, List.filterMap_cons, LintOption.schema?, LintOption.output?,
            LintOption.fail?]
      | output path =>
          simp only [LintRequest.set, List.filterMap_cons, LintOption.schema?, LintOption.output?,
            LintOption.fail?, getLast?_cons_map_or]
      | fail failOnFindings =>
          simp [LintRequest.set, List.filterMap_cons, LintOption.schema?, LintOption.output?,
            LintOption.fail?, List.getLast?_cons]

/-- A lint command line is run as its request. -/
theorem ofWords_of_isLint {words : List String} {path : String} {options : List LintOption}
    (h : IsLint words path options) :
    Command.ofWords words = some (.lint (LintRequest.ofOptions path options)) := by
  obtain ⟨common, rest, hcommon, hrest, husable⟩ := h
  have hrequest : options.foldl LintRequest.set ⟨.ofText path, [], none, true⟩ =
      LintRequest.ofOptions path options := by
    rw [foldl_set_eq, LintRequest.ofOptions, List.nil_append, Option.or_none]
  simp only [Command.ofWords, hcommon, Command.ofNameAndWords, hrest, hrequest, husable, if_true]

/-! ## Steps -/

variable {kit : Kit}

/--
Does a step that ends a command, unless it ends it with a fault, end it with an exit code and files that go
together?
-/
def Finishes (Q : Nat → FileTree → Prop) : EStateM.Result (Ending kit.RunFault) Progress Unit → Prop
  | .ok _ progress => Q 0 progress.tree
  | .error (.exit code) progress => Q code progress.tree
  | .error (.fault _) _ => True

variable {α ε φ : Type} {Q : Nat → FileTree → Prop} {progress : Progress}

/-- A step that goes on is followed by what comes after it. -/
theorem bind_of_eq_ok {step : kit.Run α} {next : α → kit.Run Unit} {a : α} {progress' : Progress}
    (h : step progress = .ok a progress') : (step >>= next) progress = next a progress' := by
  change EStateM.bind step next progress = _
  rw [EStateM.bind, h]

/-- A step that ends the command is followed by nothing. -/
theorem bind_of_eq_error {step : kit.Run α} {next : α → kit.Run Unit} {e : Ending kit.RunFault}
    {progress' : Progress} (h : step progress = .error e progress') :
    (step >>= next) progress = .error e progress' := by
  change EStateM.bind step next progress = _
  rw [EStateM.bind, h]

/-- Lines are put on the console. -/
theorem put_ok (lines : List String) :
    kit.put (.ok lines) progress = .ok () ⟨progress.lines ++ lines, progress.tree⟩ := rfl

/-- Markup that is at fault ends the command. -/
theorem put_error (fault : kit.PrintFault) :
    kit.put (.error fault) progress = .error (.fault (.markup fault)) progress := rfl

/-- Findings that can be saved are saved. -/
theorem save_of_ok {path : FilePath} {findings : List Finding} {tree : FileTree}
    (h : progress.tree.saveFindings path findings = .ok () tree) :
    kit.save path findings progress = .ok () ⟨progress.lines, tree⟩ := by
  rw [Kit.save, h]

/-- Findings that cannot be saved end the command. -/
theorem save_of_error {path : FilePath} {findings : List Finding} {e : FileError} {tree : FileTree}
    (h : progress.tree.saveFindings path findings = .error e tree) :
    kit.save path findings progress = .error (.fault (.file e)) ⟨progress.lines, tree⟩ := by
  rw [Kit.save, h]

/-- What is printed, or cannot be printed, does not matter for the files. -/
theorem finishes_bind_put {shown : Except kit.PrintFault (List String)} {next : Unit → kit.Run Unit}
    (h : ∀ lines, Finishes Q (next () ⟨lines, progress.tree⟩)) :
    Finishes Q ((kit.put shown >>= next) progress) := by
  cases shown with
  | ok lines =>
      rw [bind_of_eq_ok (put_ok lines)]
      exact h _
  | error fault =>
      rw [bind_of_eq_error (put_error fault)]
      exact trivial

/-- A last line leaves the files alone. -/
theorem finishes_print {markup : String} (h : Q 0 progress.tree) :
    Finishes Q (kit.print markup progress) := by
  rw [Kit.print]
  cases kit.printer.print markup with
  | ok lines => exact h
  | error fault => exact trivial

/-- A reported error ends a command with exit code 1 and leaves the files alone. -/
theorem finishes_bind_report {message : String} {next : α → kit.Run Unit} (h : Q 1 progress.tree) :
    Finishes Q ((kit.report message >>= next) progress) := by
  rw [Kit.report, bind_assoc]
  exact finishes_bind_put fun lines => h

/-- A fault ends a command. -/
theorem finishes_bind_fail {fault : kit.RunFault} {next : α → kit.Run Unit} :
    Finishes Q ((kit.fail fault >>= next) progress) := trivial

/-- Options that cannot be used are reported. -/
theorem finishes_bind_orReport {message : ε → String} {answer : Except ε α} {next : α → kit.Run Unit}
    (herror : ∀ e, answer = .error e → Q 1 progress.tree)
    (hok : ∀ a, answer = .ok a → Finishes Q (next a progress)) :
    Finishes Q ((kit.orReport message answer >>= next) progress) := by
  cases answer with
  | ok a => exact hok a rfl
  | error e => exact finishes_bind_report (herror e rfl)

/-- Of what can go wrong in loading, errors are reported and faults end the command as they are. -/
theorem finishes_bind_orReportOrFail {message : ε → String} {toFault : φ → kit.RunFault}
    {answer : Except (Reported ε φ) α} {next : α → kit.Run Unit}
    (herror : ∀ e, answer = .error (.error e) → Q 1 progress.tree)
    (hok : ∀ a, answer = .ok a → Finishes Q (next a progress)) :
    Finishes Q ((kit.orReportOrFail message toFault answer >>= next) progress) := by
  cases answer with
  | ok a => exact hok a rfl
  | error reported =>
      cases reported with
      | error e => exact finishes_bind_report (herror e rfl)
      | fault fault => exact finishes_bind_fail

/-- An outcome that has none but faults goes on or ends the command. -/
theorem finishes_bind_orFail {toFault : ε → kit.RunFault} {answer : Except ε α} {next : α → kit.Run Unit}
    (hok : ∀ a, answer = .ok a → Finishes Q (next a progress)) :
    Finishes Q ((kit.orFail toFault answer >>= next) progress) := by
  cases answer with
  | ok a => exact hok a rfl
  | error e => exact finishes_bind_fail

/-- A format without a schema is only announced. -/
theorem finishes_bind_announceSkip {checkers : kit.Checkers} {variant : Variant}
    {next : Unit → kit.Run Unit} (h : ∀ lines, Finishes Q (next () ⟨lines, progress.tree⟩)) :
    Finishes Q ((kit.announceSkip checkers variant >>= next) progress) := by
  unfold Kit.announceSkip
  split
  · exact h progress.lines
  · exact finishes_bind_put h

/-- Findings are saved before anything else is done with them, if there is a path for them. -/
theorem finishes_bind_saveOutput {output : Option FilePath} {findings : List Finding}
    {next : Unit → kit.Run Unit}
    (hnone : output = none → Finishes Q (next () progress))
    (hsome : ∀ path tree lines, output = some path →
      progress.tree.saveFindings path findings = .ok () tree → Finishes Q (next () ⟨lines, tree⟩)) :
    Finishes Q ((kit.saveOutput output findings >>= next) progress) := by
  cases output with
  | none => exact hnone rfl
  | some path =>
      rw [Kit.saveOutput, bind_assoc]
      cases hsave : progress.tree.saveFindings path findings with
      | ok _ tree =>
          rw [bind_of_eq_ok (save_of_ok hsave)]
          exact finishes_bind_put fun lines => hsome path tree lines rfl hsave
      | error e tree =>
          rw [bind_of_eq_error (save_of_error hsave)]
          exact trivial

/-- Findings are shown last, and they are a failure if they should be one. -/
theorem finishes_showFindings {failOnFindings : Bool} {findings : List Finding}
    (h : Q (if findings ≠ [] ∧ failOnFindings = true then 1 else 0) progress.tree) :
    Finishes Q (kit.showFindings failOnFindings findings progress) := by
  rw [Kit.showFindings]
  by_cases hnone : findings = []
  · rw [hnone, List.isEmpty_nil, if_pos rfl]
    rw [if_neg fun hboth => hboth.1 hnone] at h
    exact finishes_print h
  · rw [if_neg (by rwa [List.isEmpty_iff])]
    refine finishes_bind_put fun lines => finishes_bind_put fun lines' => ?_
    cases failOnFindings with
    | true =>
        rw [if_pos ⟨hnone, rfl⟩] at h
        exact h
    | false =>
        rw [if_neg fun hboth => Bool.false_ne_true hboth.2] at h
        exact h

/-! ## Linting -/

namespace LintRequest

variable {request : LintRequest} {tree : FileTree}

/-- The settings count findings as a failure as the request does. -/
theorem failOnFindings_of_settings {settings : Settings} (h : request.settings = .ok settings) :
    settings.failOnFindings = request.failOnFindings := by
  rw [LintRequest.settings, Settings.ofOptions] at h
  split at h
  · cases h
    rfl
  · cases h

/-- A request that is refused finds nothing. -/
theorem IsRefused.not_finds (h : request.IsRefused kit tree) (findings : List Finding) :
    ¬request.Finds kit tree findings := by
  rintro ⟨settings, document, checkers, hsettings, hdocument, hcheckers, -⟩
  cases h with
  | settings herror => rw [hsettings] at herror; cases herror
  | document _ herror => rw [hdocument] at herror; cases herror
  | schemaFile hsettings' _ herror =>
      rw [hsettings] at hsettings'
      cases hsettings'
      rw [hcheckers] at herror
      cases herror

/-- A request finds one list of findings. -/
theorem Finds.unique {findings findings' : List Finding} (h : request.Finds kit tree findings)
    (h' : request.Finds kit tree findings') : findings = findings' := by
  obtain ⟨settings, document, checkers, hsettings, hdocument, hcheckers, hprocess⟩ := h
  obtain ⟨settings', document', checkers', hsettings', hdocument', hcheckers', hprocess'⟩ := h'
  rw [hsettings] at hsettings'
  cases hsettings'
  rw [hdocument] at hdocument'
  cases hdocument'
  rw [hcheckers] at hcheckers'
  cases hcheckers'
  rw [hprocess] at hprocess'
  exact Except.ok.inj hprocess'

/-- Linting reports what it is refused for, or saves and shows what it finds. -/
theorem finishes_run
    (hrefused : request.IsRefused kit tree → Q 1 tree)
    (hfinds : ∀ findings tree', request.Finds kit tree findings →
      (request.output = none ∧ tree' = tree ∨
        ∃ path, request.output = some path ∧ tree.saveFindings path findings = .ok () tree') →
      Q (if findings ≠ [] ∧ request.failOnFindings = true then 1 else 0) tree') :
    Finishes Q (request.run kit ⟨[], tree⟩) := by
  rw [LintRequest.run]
  refine finishes_bind_orReport (fun e herror => hrefused (.settings herror)) fun settings hsettings => ?_
  refine finishes_bind_orReportOrFail (fun e herror => hrefused (.document hsettings herror))
    fun document hdocument => ?_
  refine finishes_bind_orReportOrFail (fun e herror => hrefused (.schemaFile hsettings hdocument herror))
    fun checkers hcheckers => ?_
  refine finishes_bind_put fun lines => ?_
  refine finishes_bind_announceSkip fun lines => ?_
  refine finishes_bind_orFail fun findings hprocess => ?_
  have hfound : request.Finds kit tree findings :=
    ⟨settings, document, checkers, hsettings, hdocument, hcheckers, hprocess⟩
  refine finishes_bind_saveOutput (fun hnone => ?_) fun path tree' lines' hsome hsave => ?_
  · apply finishes_showFindings
    rw [failOnFindings_of_settings hsettings]
    exact hfinds findings tree hfound (.inl ⟨hnone, rfl⟩)
  · apply finishes_showFindings
    rw [failOnFindings_of_settings hsettings]
    exact hfinds findings tree' hfound (.inr ⟨path, hsome, hsave⟩)

end LintRequest

/-! ## Lint commands -/

/-- The outcome of a command that ends without a fault is what its last step leaves. -/
theorem of_finishes {command : Command} {tree : FileTree}
    (h : Finishes Q (command.steps kit ⟨[], tree⟩)) (hfault : (command.run kit tree).fault = none) :
    Q (command.run kit tree).exitCode (command.run kit tree).tree := by
  unfold Command.run at hfault ⊢
  cases hsteps : command.steps kit ⟨[], tree⟩ with
  | ok _ progress =>
      rw [hsteps] at h
      exact h
  | error ending progress =>
      rw [hsteps] at h hfault
      cases ending with
      | exit code => exact h
      | fault fault => cases hfault

/-- A lint command without a fault is refused, or it has saved what it found. -/
theorem refused_or_finds {request : LintRequest} {tree : FileTree}
    (hfault : ((Command.lint request).run kit tree).fault = none) :
    (request.IsRefused kit tree ∧ ((Command.lint request).run kit tree).exitCode = 1 ∧
      ((Command.lint request).run kit tree).tree = tree) ∨
    ∃ findings, request.Finds kit tree findings ∧
      ((Command.lint request).run kit tree).exitCode =
        (if findings ≠ [] ∧ request.failOnFindings = true then 1 else 0) ∧
      IsSaved request.output findings tree ((Command.lint request).run kit tree).tree := by
  refine of_finishes (Q := fun code tree' =>
    (request.IsRefused kit tree ∧ code = 1 ∧ tree' = tree) ∨
    ∃ findings, request.Finds kit tree findings ∧
      code = (if findings ≠ [] ∧ request.failOnFindings = true then 1 else 0) ∧
      IsSaved request.output findings tree tree') ?_ hfault
  rw [Command.steps]
  refine LintRequest.finishes_run (fun hrefused => .inl ⟨hrefused, rfl, rfl⟩) ?_
  intro findings tree' hfinds hsave
  refine .inr ⟨findings, hfinds, rfl, ?_⟩
  rcases hsave with ⟨hnone, rfl⟩ | ⟨path, hsome, hsave⟩
  · rw [hnone]
    exact rfl
  · rw [hsome]
    exact FileTree.differsOnlyAt_of_saveText hsave

/-- A lint command line is run as its request. -/
theorem run_of_isLint {words : List String} {path : String} {options : List LintOption}
    (h : IsLint words path options) (tree : FileTree) :
    kit.run words tree = (Command.lint (LintRequest.ofOptions path options)).run kit tree := by
  simp only [Kit.run, ofWords_of_isLint h]

/--
Whatever reads, checks and prints: a lint command that ends without a fault reports an error and leaves all files
alone, or it saves exactly what it found and says by its exit code whether that is a failure.
-/
theorem exitCode_and_tree_of_isLint (kit : Kit) {words : List String} {path : String}
    {options : List LintOption} (hlint : IsLint words path options) (tree : FileTree)
    (hfault : (kit.run words tree).fault = none) :
    ((LintRequest.ofOptions path options).IsRefused kit tree →
      (kit.run words tree).exitCode = 1 ∧ (kit.run words tree).tree = tree) ∧
    (¬(LintRequest.ofOptions path options).IsRefused kit tree →
      ∃ findings, (LintRequest.ofOptions path options).Finds kit tree findings ∧
        (kit.run words tree).exitCode =
          (if findings ≠ [] ∧ (options.filterMap LintOption.fail?).getLast? ≠ some false then 1 else 0) ∧
        IsSaved ((options.filterMap LintOption.output?).getLast?.map .ofText) findings tree
          (kit.run words tree).tree) := by
  rw [run_of_isLint hlint] at hfault ⊢
  rcases refused_or_finds hfault with ⟨hrefused, hcode, htree⟩ | ⟨findings, hfinds, hcode, hsaved⟩
  · exact ⟨fun _ => ⟨hcode, htree⟩, fun hnot => absurd hrefused hnot⟩
  · refine ⟨fun hrefused => absurd hfinds (hrefused.not_finds findings), fun _ => ?_⟩
    refine ⟨findings, hfinds, ?_, hsaved⟩
    rw [hcode, LintRequest.ofOptions]
    rcases (options.filterMap LintOption.fail?).getLast? with _ | _ | _ <;> simp

/-! ## Commands without a fault -/

/-- Does a step that ends a command end it without a fault? -/
def IsClean : EStateM.Result (Ending kit.RunFault) Progress Unit → Prop
  | .error (.fault _) _ => False
  | _ => True

/-- A command has no fault if its steps end without one. -/
theorem fault_eq_none_of_isClean {command : Command} {tree : FileTree}
    (h : IsClean (command.steps kit ⟨[], tree⟩)) : (command.run kit tree).fault = none := by
  unfold Command.run
  cases hsteps : command.steps kit ⟨[], tree⟩ with
  | ok _ progress => rfl
  | error ending progress =>
      rw [hsteps] at h
      cases ending with
      | exit code => rfl
      | fault fault => exact h.elim

/-- What can be shown is no fault. -/
theorem isClean_bind_put {shown : Except kit.PrintFault (List String)} {next : Unit → kit.Run Unit}
    (hshown : shown.isOk = true) (h : ∀ lines, IsClean (next () ⟨lines, progress.tree⟩)) :
    IsClean ((kit.put shown >>= next) progress) := by
  cases shown with
  | ok lines =>
      rw [bind_of_eq_ok (put_ok lines)]
      exact h _
  | error fault => cases hshown

/-- A format with a schema needs no line of its own. -/
theorem isClean_bind_announceSkip {checkers : kit.Checkers} {variant : Variant}
    {next : Unit → kit.Run Unit} (hknown : (checkers.lookup variant).isSome = true)
    (h : IsClean (next () progress)) : IsClean ((kit.announceSkip checkers variant >>= next) progress) := by
  rw [Kit.announceSkip, if_pos hknown, pure_bind]
  exact h

/-- Findings that can be saved are no fault. -/
theorem isClean_bind_saveOutput {output : Option FilePath} {findings : List Finding} {tree : FileTree}
    {next : Unit → kit.Run Unit}
    (hsave : ∀ path, output = some path → progress.tree.saveFindings path findings = .ok () tree ∧
      (kit.printer.print ("[green]Findings:[/green] " ++ path.text)).isOk = true)
    (h : ∀ progress', IsClean (next () progress')) :
    IsClean ((kit.saveOutput output findings >>= next) progress) := by
  cases output with
  | none => exact h progress
  | some path =>
      obtain ⟨hsaved, hshown⟩ := hsave path rfl
      rw [Kit.saveOutput, bind_assoc, bind_of_eq_ok (save_of_ok hsaved)]
      exact isClean_bind_put hshown fun lines => h _

/-- Findings that can be shown are no fault. -/
theorem isClean_showFindings {failOnFindings : Bool} {findings : List Finding} (hne : findings ≠ [])
    (htable : (kit.printer.printTable (kit.findingsTable findings)).isOk = true)
    (hcount : (kit.printer.print
      ("[red]Found " ++ toString findings.length ++ " finding(s).[/red]")).isOk = true) :
    IsClean (kit.showFindings failOnFindings findings progress) := by
  rw [Kit.showFindings, if_neg (by rwa [List.isEmpty_iff])]
  refine isClean_bind_put htable fun lines => isClean_bind_put hcount fun lines' => ?_
  cases failOnFindings <;> exact trivial

/-- A request that finds something goes on to announce, save and show it. -/
theorem LintRequest.run_of_finds {request : LintRequest} {tree : FileTree} {settings : Settings}
    {document : kit.Value} {checkers : kit.Checkers} {findings : List Finding}
    (hsettings : request.settings = .ok settings)
    (hdocument : kit.loadDocument tree request.path = .ok document)
    (hcheckers : kit.loadCheckers tree settings = .ok checkers)
    (hprocess : kit.process checkers document = .ok findings) :
    request.run kit ⟨[], tree⟩ =
      (kit.announce request.path (kit.detect document) >>= fun _ =>
        kit.announceSkip checkers (kit.detect document) >>= fun _ =>
        kit.saveOutput request.output findings >>= fun _ =>
        kit.showFindings settings.failOnFindings findings) ⟨[], tree⟩ := by
  have hread : kit.orReport SettingsError.message
      (Settings.ofOptions request.schemaOptions request.failOnFindings) ⟨[], tree⟩ =
        .ok settings ⟨[], tree⟩ := by
    rw [LintRequest.settings] at hsettings
    rw [hsettings]
    rfl
  have hloaded : kit.document request.path ⟨[], tree⟩ = .ok document ⟨[], tree⟩ := by
    change kit.orReportOrFail _ _ (kit.loadDocument tree request.path) _ = _
    rw [hdocument]
    rfl
  have hbuilt : kit.checkers settings ⟨[], tree⟩ = .ok checkers ⟨[], tree⟩ := by
    change kit.orReportOrFail _ _ (kit.loadCheckers tree settings) _ = _
    rw [hcheckers]
    rfl
  have hfound : (kit.orFail .lint (kit.process checkers document) : kit.Run (List Finding)) =
      pure findings := by
    rw [hprocess]
    rfl
  rw [LintRequest.run, bind_of_eq_ok hread, bind_of_eq_ok hloaded, bind_of_eq_ok hbuilt]
  simp only [hfound, pure_bind]

/-! ### The standard kit -/

/-- What is found in a document depends on the validator of its format alone. -/
theorem lint_congr {registry other : Registry} {document : Node}
    (h : registry.lookup (Variant.detect document) = other.lookup (Variant.detect document)) :
    registry.lint document = other.lint document := by
  rw [Registry.lint, Registry.lint, Registry.rawErrors, Registry.rawErrors, Registry.check?,
    Registry.check?, h]

/-- The standard kit finds in a document what the registry of its checkers does. -/
theorem process_standard (columns : Nat) (checkers : List (Variant × Schema.Compiled)) (document : Node) :
    (Kit.standard columns).process checkers document =
      Registry.lint (checkers.map fun entry => (entry.1, entry.2.validator)) document := by
  have hlookup := Keyed.lookup_map Schema.Compiled.validator checkers (Variant.detect document)
  have hdetect : (Kit.standard columns).detect document = Variant.detect document := rfl
  rw [Kit.process, hdetect]
  cases hchecker : checkers.lookup (Variant.detect document) with
  | none =>
      rw [hchecker] at hlookup
      exact (lint_congr (hlookup.trans List.lookup_nil.symm)).symm
  | some c =>
      rw [hchecker] at hlookup
      refine lint_congr ?_
      rw [hlookup, List.lookup_cons, beq_self_eq_true]
      rfl

/-! ### A document with a name that its schema does not expect -/

/-- A document and a schema. -/
def extraName : FileTree where
  workingDirectory := ["work"]
  files := [(["work", "api.json"], "\x7b\"a\":1\x7d".toUTF8),
    (["work", "schema.json"], "\x7b\"additionalProperties\":false\x7d".toUTF8)]
  directories := []
  unreadable := []

/-- The schema, by which no name is expected. -/
def noNames : Schema.Compiled := ⟨.draft202012, .map [(.str "additionalProperties", .bool false)]⟩

/-- What is found. -/
def extraFinding : Finding := ⟨"Property \"a\" is not expected to be here", ["a"]⟩

/-- What is written in one line is read. -/
theorem read_of_write?_compact (x : Node) (text : String) (hx : x.isJson = true)
    (hwrite : Json.write? Json.compact x = some text) :
    '\r' ∉ text.toList ∧ Json.read text = .ok x := by
  obtain ⟨text', htext, hreturn, hread⟩ := Json.read_write? Json.isBlank_compact hx
  rw [hwrite] at htext
  cases htext
  exact ⟨hreturn, hread⟩

/-- A document that was written in one line is loaded. -/
theorem loadDocument_of_write?_compact {tree : FileTree} {path : FilePath} {x : Node} {text : String}
    (hfile : tree.Holds path text.toUTF8) (hx : x.isJson = true)
    (hwrite : Json.write? Json.compact x = some text) (hform : TextForm.ofSuffix path.suffix ≠ .yaml) :
    tree.loadDocument path = .ok x := by
  obtain ⟨hreturn, hread⟩ := read_of_write?_compact x text hx hwrite
  exact FileTree.loadDocument_of_read hfile hreturn hread hform

/-- The document is loaded. -/
theorem loadDocument_extraName :
    extraName.loadDocument (.ofText "api.json") = .ok (.map [(.str "a", .int 1)]) := by
  have hfile : extraName.Holds (.ofText "api.json") "\x7b\"a\":1\x7d".toUTF8 := ⟨rfl, rfl⟩
  exact loadDocument_of_write?_compact hfile (by decide) (by decide) (by decide)

/-- The schema is loaded from any tree that has it. -/
theorem loadCheckers_noNames {tree : FileTree} (columns : Nat) (failOnFindings : Bool)
    (hfile : tree.Holds (.ofText "schema.json") "\x7b\"additionalProperties\":false\x7d".toUTF8) :
    (Kit.standard columns).loadCheckers tree ⟨[(.openApi30, .ofText "schema.json")], failOnFindings⟩ =
      .ok [(.openApi30, noNames)] := by
  obtain ⟨hreturn, hread⟩ := read_of_write?_compact noNames.schema
    "\x7b\"additionalProperties\":false\x7d" (by decide) (by decide)
  have hform : TextForm.ofSuffix (FilePath.ofText "schema.json").suffix ≠ .yaml := by
    decide
  have hschema : tree.loadSchema (.ofText "schema.json") = .ok noNames.schema := by
    rw [FileTree.loadSchema, Readers.loadSchema, hfile.isFile, hfile.read]
    simp only [Readers.readSchema, if_neg hform, Readers.readJsonSchema, decodeFile_toUTF8 hreturn,
      Readers.readJson, Bool.false_eq_true, if_false, hread]
    rfl
  have hcompile : Schema.Compiled.compile noNames.schema = .ok noNames := rfl
  have hload : tree.compileSchema (.ofText "schema.json") = .ok noNames := by
    rw [FileTree.loadSchema] at hschema
    rw [FileTree.compileSchema, Readers.compileSchema, hschema]
    dsimp only
    rw [hcompile]
    rfl
  change Settings.loadAll tree.compileSchema [(.openApi30, .ofText "schema.json")] = _
  simp only [Settings.loadAll, hload]

/-- An outcome that is a value is that value. -/
theorem eq_ok_of_toOption {α ε : Type} {answer : Except ε α} {a : α} (h : answer.toOption = some a) :
    answer = .ok a := by
  cases answer with
  | ok b => exact congrArg Except.ok (Option.some.inj h)
  | error e => cases h

/-- The name is found. -/
theorem process_extraName (columns : Nat) :
    (Kit.standard columns).process [(.openApi30, noNames)] (.map [(.str "a", .int 1)]) =
      .ok [extraFinding] := by
  have hlint : Registry.lint [(.openApi30, noNames.validator)] (.map [(.str "a", .int 1)]) =
      .ok [extraFinding] := eq_ok_of_toOption (by decide +kernel)
  exact (process_standard columns _ _).trans hlint

/-- A text that starts in a colour can be shown, whether or not the colour is known. -/
theorem isOk_print_coloured {markup : String} (columns : Nat) (word cs after : List Char)
    (hpieces : Markup.pieces [] 0 markup.toList =
      [.text [], .text [], .tag word, .text cs, .text [], .tag ('/' :: word), .text after])
    (hword : word = "red".toList ∨ word = "green".toList) :
    (Console.print columns markup).isOk = true := by
  rcases hword with rfl | rfl
  · obtain ⟨name, hname⟩ := Markup.exists_styleName "red".toList "red"
      (by decide) (by decide) (by decide) (by decide)
    exact Markup.isOk_print_of_pieces hpieces hname (by decide) (by decide) (by decide) (by decide) columns
  · obtain ⟨name, hname⟩ := Markup.exists_styleName "green".toList "green"
      (by decide) (by decide) (by decide) (by decide)
    exact Markup.isOk_print_of_pieces hpieces hname (by decide) (by decide) (by decide) (by decide) columns

/-- The request finds the name. -/
theorem finds_extraName (columns : Nat) (request : LintRequest) (hpath : request.path = .ofText "api.json")
    (hschemas : request.schemaOptions = ["oas3_0=schema.json"]) :
    request.Finds (Kit.standard columns) extraName [extraFinding] := by
  refine ⟨⟨[(.openApi30, .ofText "schema.json")], request.failOnFindings⟩, .map [(.str "a", .int 1)],
    [(.openApi30, noNames)], ?_, ?_, loadCheckers_noNames columns _ ⟨rfl, rfl⟩, process_extraName columns⟩
  · rw [LintRequest.settings, hschemas]
    rfl
  · rw [hpath]
    exact loadDocument_extraName

/-- Linting the document ends without a fault if what it finds can be saved. -/
theorem fault_run_extraName (request : LintRequest) {tree : FileTree}
    (hpath : request.path = .ofText "api.json") (hschemas : request.schemaOptions = ["oas3_0=schema.json"])
    (hsave : ∀ path, request.output = some path →
      extraName.saveFindings path [extraFinding] = .ok () tree ∧
        (Console.print 80 ("[green]Findings:[/green] " ++ path.text)).isOk = true) :
    ((Command.lint request).run (Kit.standard 80) extraName).fault = none := by
  have hsettings : request.settings =
      .ok ⟨[(.openApi30, .ofText "schema.json")], request.failOnFindings⟩ := by
    rw [LintRequest.settings, hschemas]
    rfl
  have hdocument : (Kit.standard 80).loadDocument extraName request.path =
      .ok (.map [(.str "a", .int 1)]) := by
    rw [hpath]
    exact loadDocument_extraName
  have hvariant : (Kit.standard 80).detect (.map [(.str "a", .int 1)]) = .openApi30 := rfl
  apply fault_eq_none_of_isClean
  rw [Command.steps, LintRequest.run_of_finds hsettings hdocument (loadCheckers_noNames 80 _ ⟨rfl, rfl⟩)
    (process_extraName 80), hpath, hvariant, Kit.announce, Kit.print]
  refine isClean_bind_put (by decide +kernel) fun lines => ?_
  refine isClean_bind_announceSkip rfl (isClean_bind_saveOutput hsave fun progress' => ?_)
  exact isClean_showFindings (by decide) (by decide +kernel)
    (isOk_print_coloured 80 "red".toList "Found 1 finding(s).".toList [] (by cbv) (.inl rfl))

/-- A command line that saves what it finds below a directory that is not there. -/
def savingWords : List String :=
  ["lint", "api.json", "--schema=oas3_0=schema.json", "-oout/found.json"]

/-- A name that is not expected is saved, and it is a failure. -/
theorem exitCode_and_tree_of_isLint_extraName :
    IsLint savingWords "api.json" [.schema "oas3_0=schema.json", .output "out/found.json"] ∧
      ((Kit.standard 80).run savingWords extraName).fault = none ∧
      ((Kit.standard 80).run savingWords extraName).exitCode = 1 ∧
      IsSaved (some (.ofText "out/found.json")) [extraFinding] extraName
        ((Kit.standard 80).run savingWords extraName).tree := by
  have hlint : IsLint savingWords "api.json" [.schema "oas3_0=schema.json", .output "out/found.json"] :=
    ⟨[], _, rfl, rfl, rfl⟩
  obtain ⟨tree, hsave⟩ : ∃ tree,
      extraName.saveFindings (.ofText "out/found.json") [extraFinding] = .ok () tree := ⟨_, rfl⟩
  have hsaved : ∀ path, (LintRequest.ofOptions "api.json" [.schema "oas3_0=schema.json",
        .output "out/found.json"]).output = some path →
      extraName.saveFindings path [extraFinding] = .ok () tree ∧
        (Console.print 80 ("[green]Findings:[/green] " ++ path.text)).isOk = true := by
    rintro path ⟨⟩
    exact ⟨hsave, isOk_print_coloured 80 "green".toList "Findings:".toList " out/found.json".toList
      (by cbv) (.inr rfl)⟩
  have hfinds := finds_extraName 80 (.ofOptions "api.json" [.schema "oas3_0=schema.json",
    .output "out/found.json"]) rfl rfl
  have hfault : ((Kit.standard 80).run savingWords extraName).fault = none := by
    rw [run_of_isLint hlint]
    exact fault_run_extraName _ rfl rfl hsaved
  obtain ⟨findings, hfinds', hcode, htree⟩ :=
    (exitCode_and_tree_of_isLint (Kit.standard 80) hlint extraName hfault).2
      fun hrefused => hrefused.not_finds _ hfinds
  obtain rfl : [extraFinding] = findings := hfinds.unique hfinds'
  exact ⟨hlint, hfault, by rw [hcode]; rfl, htree⟩

/-- A command line that says both that findings are no failure and that they are one. -/
def lastFailWords : List String :=
  ["lint", "api.json", "-s", "oas3_0=schema.json", "--no-fail", "--fail"]

/-- Findings are a failure although `--no-fail` is given, if `--fail` comes after it. -/
theorem exitCode_of_fail_after_noFail :
    IsLint lastFailWords "api.json" [.schema "oas3_0=schema.json", .fail false, .fail true] ∧
      ((Kit.standard 80).run lastFailWords extraName).fault = none ∧
      (LintRequest.ofOptions "api.json" [.schema "oas3_0=schema.json", .fail false, .fail true]).Finds
        (Kit.standard 80) extraName [extraFinding] ∧
      ((Kit.standard 80).run lastFailWords extraName).exitCode = 1 := by
  have hlint : IsLint lastFailWords "api.json"
      [.schema "oas3_0=schema.json", .fail false, .fail true] := ⟨[], _, rfl, rfl, rfl⟩
  have hfinds := finds_extraName 80 (.ofOptions "api.json"
    [.schema "oas3_0=schema.json", .fail false, .fail true]) rfl rfl
  have hfault := @fault_run_extraName (.ofOptions "api.json"
    [.schema "oas3_0=schema.json", .fail false, .fail true]) extraName rfl rfl (by rintro path ⟨⟩)
  rw [run_of_isLint hlint]
  refine ⟨hlint, hfault, hfinds, ?_⟩
  rcases refused_or_finds hfault with ⟨hrefused, -⟩ | ⟨findings, hfinds', hcode, -⟩
  · exact absurd hfinds (hrefused.not_finds _)
  · obtain rfl : [extraFinding] = findings := hfinds.unique hfinds'
    rw [hcode]
    rfl

end CommandLine

end ApiLint
