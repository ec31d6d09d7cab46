import ApiLint.Proofs.CommandLine.Lint
import ApiLint.Proofs.CommandLine.Saying

/-!
# What lint commands print

A lint command prints what it says, one after the other, until something cannot be printed.  Of all that it says only
the path that findings were saved at is put into markup without being escaped.  So on a faithful printer that line can
lose what looks like a tag, or end the command after the findings were saved; everything else is printed whatever it is,
and it is printed literally as far as the printer is faithful to it.

Main results:

- Theorem `tells_bind_put`: printing one thing more.
- Theorem `tells_run`: a lint command prints what it says, one after the other.
- Theorem `run_literally`: what a lint command prints literally.
-/

namespace ApiLint.CommandLine

open Console

variable {kit : Kit}

/-! ## Printing one after the other -/

namespace Saying

/-- What can be printed comes before the rest. -/
theorem printAll_cons_of_ok {saying : Saying} {lines : List String} (rest : List Saying)
    (h : saying.printed kit = .ok lines) :
    printAll kit (saying :: rest) = (lines ++ (printAll kit rest).1, (printAll kit rest).2) := by
  rw [printAll, h]

/-- After what cannot be printed nothing comes. -/
theorem printAll_cons_of_error {saying : Saying} {fault : kit.PrintFault} (rest : List Saying)
    (h : saying.printed kit = .error fault) : printAll kit (saying :: rest) = ([], some fault) := by
  rw [printAll, h]

/-- What is printed literally stands in blocks of lines, one after the other. -/
theorem exists_blocks {sayings : List Saying}
    (h : ∀ saying ∈ sayings, ∃ lines, saying.printed kit = .ok lines ∧ saying.IsOn lines) :
    ∃ blocks, printAll kit sayings = (blocks.flatten, none) ∧ List.Forall₂ IsOn blocks sayings := by
  induction sayings with
  | nil => exact ⟨[], rfl, .nil⟩
  | cons saying sayings ih =>
      obtain ⟨hfirst, hrest⟩ := List.forall_mem_cons.mp h
      obtain ⟨lines, hprinted, hlines⟩ := hfirst
      obtain ⟨blocks, hall, hblocks⟩ := ih hrest
      exact ⟨lines :: blocks, by rw [printAll_cons_of_ok sayings hprinted, hall]; rfl, .cons hlines hblocks⟩

end Saying

open Saying (printAll)

/-! ## Steps -/

/-- The lines on the console after a step. -/
def linesAfter : EStateM.Result (Ending kit.RunFault) Progress Unit → List String
  | .ok _ progress => progress.lines
  | .error _ progress => progress.lines

/-- The fault of printing among all faults. -/
def RunFaultOf.markup? {δ σ τ π : Type} : RunFaultOf δ σ τ π → Option π
  | .markup fault => some fault
  | _ => none

/-- The fault of printing that ended a step. -/
def markupFault? : EStateM.Result (Ending kit.RunFault) Progress Unit → Option kit.PrintFault
  | .error (.fault fault) _ => fault.markup?
  | _ => none

/--
Does a step print what is said, behind the lines that are there, and is it at fault where that cannot be printed?
-/
def Tells (step : kit.Run Unit) (progress : Progress) (sayings : List Saying) : Prop :=
  linesAfter (step progress) = progress.lines ++ (printAll kit sayings).1 ∧
    markupFault? (step progress) = (printAll kit sayings).2

section

variable {α ε φ : Type} {sayings : List Saying} {progress : Progress}

/-- A step that prints nothing and is not at fault because of printing tells nothing. -/
theorem tells_nil {step : kit.Run Unit} (hlines : linesAfter (step progress) = progress.lines)
    (hfault : markupFault? (step progress) = none) : Tells step progress [] :=
  ⟨by rw [hlines, printAll, List.append_nil], hfault⟩

/-- What is printed comes before what comes after it. -/
theorem tells_bind_put (saying : Saying) {next : Unit → kit.Run Unit}
    (h : ∀ lines, Tells (next ()) ⟨lines, progress.tree⟩ sayings) :
    Tells (kit.put (saying.printed kit) >>= next) progress (saying :: sayings) := by
  cases hprinted : saying.printed kit with
  | ok lines =>
      obtain ⟨hlines, hfault⟩ := h (progress.lines ++ lines)
      rw [Tells, bind_of_eq_ok (put_ok lines), Saying.printAll_cons_of_ok sayings hprinted]
      exact ⟨by rw [hlines, List.append_assoc], hfault⟩
  | error fault =>
      rw [Tells, bind_of_eq_error (put_error fault), Saying.printAll_cons_of_error sayings hprinted]
      exact ⟨(List.append_nil _).symm, rfl⟩

/-- A step that only prints one thing. -/
theorem tells_put (saying : Saying) : Tells (kit.put (saying.printed kit)) progress [saying] := by
  rw [← bind_pure (kit.put (saying.printed kit))]
  exact tells_bind_put saying fun lines => tells_nil rfl rfl

/-- A reported error is the last thing that is said. -/
theorem tells_bind_report (message : String) (next : α → kit.Run Unit) :
    Tells (kit.report message >>= next) progress [.line (.error message)] := by
  rw [Kit.report, bind_assoc]
  exact tells_bind_put (.line (.error message)) fun lines => tells_nil rfl rfl

/-- A fault that is not one of printing ends the command without a word. -/
theorem tells_bind_fail {fault : kit.RunFault} (next : α → kit.Run Unit) (h : fault.markup? = none) :
    Tells (kit.fail fault >>= next) progress [] := tells_nil rfl h

/-- Options that cannot be used are reported. -/
theorem tells_bind_orReport {message : ε → String} {answer : Except ε α} {next : α → kit.Run Unit}
    (herror : ∀ e, answer = .error e → sayings = [.line (.error (message e))])
    (hok : ∀ a, answer = .ok a → Tells (next a) progress sayings) :
    Tells (kit.orReport message answer >>= next) progress sayings := by
  cases answer with
  | error e =>
      rw [herror e rfl]
      exact tells_bind_report (message e) next
  | ok a => exact hok a rfl

/-- Of what can go wrong in loading, errors are reported. -/
theorem tells_bind_orReportOrFail {message : ε → String} {toFault : φ → kit.RunFault}
    {answer : Except (Reported ε φ) α} {next : α → kit.Run Unit} (hother : ∀ e, (toFault e).markup? = none)
    (herror : ∀ e, answer = .error (.error e) → sayings = [.line (.error (message e))])
    (hfault : ∀ e, answer = .error (.fault e) → sayings = [])
    (hok : ∀ a, answer = .ok a → Tells (next a) progress sayings) :
    Tells (kit.orReportOrFail message toFault answer >>= next) progress sayings := by
  cases answer with
  | error reported =>
      cases reported with
      | error e =>
          rw [herror e rfl]
          exact tells_bind_report (message e) next
      | fault e =>
          rw [hfault e rfl]
          exact tells_bind_fail next (hother e)
  | ok a => exact hok a rfl

/-- Documents are loaded from the files as they are. -/
theorem tells_bind_document {path : FilePath} {next : kit.Value → kit.Run Unit}
    (herror : ∀ e, kit.loadDocument progress.tree path = .error (.error e) →
      sayings = [.line (.error e.message)])
    (hfault : ∀ e, kit.loadDocument progress.tree path = .error (.fault e) → sayings = [])
    (hok : ∀ document, kit.loadDocument progress.tree path = .ok document →
      Tells (next document) progress sayings) :
    Tells (kit.document path >>= next) progress sayings :=
  tells_bind_orReportOrFail (fun _ => rfl) herror hfault hok

/-- So are checkers. -/
theorem tells_bind_checkers {settings : Settings} {next : kit.Checkers → kit.Run Unit}
    (herror : ∀ e, kit.loadCheckers progress.tree settings = .error (.error e) →
      sayings = [.line (.error e.message)])
    (hfault : ∀ e, kit.loadCheckers progress.tree settings = .error (.fault e) → sayings = [])
    (hok : ∀ checkers, kit.loadCheckers progress.tree settings = .ok checkers →
      Tells (next checkers) progress sayings) :
    Tells (kit.checkers settings >>= next) progress sayings :=
  tells_bind_orReportOrFail (fun _ => rfl) herror hfault hok

/-- What a document is linted as is said first. -/
theorem tells_bind_announce {path : FilePath} {variant : Variant} {next : Unit → kit.Run Unit}
    (h : ∀ lines, Tells (next ()) ⟨lines, progress.tree⟩ sayings) :
    Tells (kit.announce path variant >>= next) progress (.line (.linting path variant) :: sayings) :=
  tells_bind_put (.line (.linting path variant)) h

/-- A format without a schema is announced. -/
theorem tells_bind_announceSkip {checkers : kit.Checkers} {variant : Variant} {next : Unit → kit.Run Unit}
    (h : ∀ lines, Tells (next ()) ⟨lines, progress.tree⟩ sayings) :
    Tells (kit.announceSkip checkers variant >>= next) progress
      ((if (checkers.lookup variant).isSome then [] else [.line (.skipping variant)]) ++ sayings) := by
  rw [Kit.announceSkip]
  split
  · exact h progress.lines
  · exact tells_bind_put (.line (.skipping variant)) h

/-- A checker that is at fault ends the command without a word. -/
theorem tells_bind_process {answer : Except kit.LintFault (List Finding)} {next : List Finding → kit.Run Unit}
    (hfault : ∀ e, answer = .error e → sayings = [])
    (hok : ∀ findings, answer = .ok findings → Tells (next findings) progress sayings) :
    Tells (kit.orFail .lint answer >>= next) progress sayings := by
  cases answer with
  | error e =>
      rw [hfault e rfl]
      exact tells_bind_fail next rfl
  | ok findings => exact hok findings rfl

/-- Findings are saved before they are shown, and where they were saved is said. -/
theorem tells_bind_saveOutput {output : Option FilePath} {findings : List Finding} {later : List Saying}
    {next : Unit → kit.Run Unit} (h : ∀ progress, Tells (next ()) progress later) :
    Tells (kit.saveOutput output findings >>= next) progress
      (match output with
        | none => later
        | some path =>
          match progress.tree.saveFindings path findings with
          | .ok _ _ => .line (.saved path) :: later
          | .error _ _ => []) := by
  cases output with
  | none => exact h progress
  | some path =>
      rw [Kit.saveOutput, bind_assoc]
      dsimp only
      cases hsave : progress.tree.saveFindings path findings with
      | ok _ tree =>
          rw [Tells, bind_of_eq_ok (save_of_ok hsave)]
          exact tells_bind_put (.line (.saved path)) fun lines => h ⟨lines, tree⟩
      | error e tree =>
          rw [Tells, bind_of_eq_error (save_of_error hsave)]
          exact ⟨(List.append_nil _).symm, rfl⟩

/-- Findings are shown with their number, or it is said that there are none. -/
theorem tells_showFindings (failOnFindings : Bool) (findings : List Finding) (progress : Progress) :
    Tells (kit.showFindings failOnFindings findings) progress (LintRequest.sayingsOf findings) := by
  rw [Kit.showFindings, LintRequest.sayingsOf]
  by_cases hnone : findings = []
  · rw [if_pos hnone, if_pos (by rwa [List.isEmpty_iff])]
    exact tells_put (.line .noFindings)
  · rw [if_neg hnone, if_neg (by rwa [List.isEmpty_iff])]
    refine tells_bind_put (.table findings) fun lines => ?_
    refine tells_bind_put (.line (.found findings.length)) fun lines => ?_
    cases failOnFindings <;> exact tells_nil rfl rfl

end

/-! ## Whole commands -/

/-- A request prints what it says, one after the other. -/
theorem tells_run (kit : Kit) (request : LintRequest) (tree : FileTree) :
    Tells (request.run kit) ⟨[], tree⟩ (request.sayings kit tree) := by
  rw [LintRequest.run, LintRequest.sayings, LintRequest.settings]
  refine tells_bind_orReport (fun e he => by rw [he]) fun settings hsettings => ?_
  rw [hsettings]
  refine tells_bind_document (fun e he => ?_) (fun e he => ?_) fun document hdocument => ?_
  · dsimp only at he ⊢
    rw [he]
  · dsimp only at he ⊢
    rw [he]
  dsimp only at hdocument ⊢
  rw [hdocument]
  refine tells_bind_checkers (fun e he => ?_) (fun e he => ?_) fun checkers hcheckers => ?_
  · dsimp only at he ⊢
    rw [he]
  · dsimp only at he ⊢
    rw [he]
  dsimp only at hcheckers ⊢
  rw [hcheckers]
  dsimp only
  rw [LintRequest.sayingsAbout, List.cons_append]
  refine tells_bind_announce fun lines => tells_bind_announceSkip fun lines => ?_
  refine tells_bind_process (fun e he => by rw [he]) fun findings hfindings => ?_
  rw [hfindings]
  exact tells_bind_saveOutput fun progress => tells_showFindings _ findings progress

variable {words : List String} {path : String} {options : List LintOption}

/-- A lint command line prints what its request says, up to the first that cannot be printed. -/
theorem lines_and_fault_of_isLint (kit : Kit) (h : IsLint words path options) (tree : FileTree) :
    (kit.run words tree).lines = (printAll kit ((LintRequest.ofOptions path options).sayings kit tree)).1 ∧
      ∀ fault, (kit.run words tree).fault = some (.markup fault) ↔
        (printAll kit ((LintRequest.ofOptions path options).sayings kit tree)).2 = some fault := by
  obtain ⟨hlines, hfault⟩ := tells_run kit (LintRequest.ofOptions path options) tree
  rw [← hfault]
  rw [List.nil_append] at hlines
  rw [← hlines, run_of_isLint h, Command.run, Command.steps]
  cases (LintRequest.ofOptions path options).run kit ⟨[], tree⟩ with
  | ok _ progress => exact ⟨rfl, fun fault => by simp [markupFault?]⟩
  | error ending progress =>
      cases ending with
      | exit code => exact ⟨rfl, fun fault => by simp [markupFault?]⟩
      | fault runFault =>
          exact ⟨rfl, fun fault => by cases runFault <;> simp [markupFault?, RunFaultOf.markup?]⟩

/--
A document whose path and whose only name hold tags, and a schema by which no name is expected.  The tag in the path
closes a style; it has a directory in it.
-/
def bracketed : FileTree where
  workingDirectory := ["work"]
  files := [(["work", "api[", "b].json"], "\x7b\"[b]\":1\x7d".toUTF8),
    (["work", "schema.json"], "\x7b\"additionalProperties\":false\x7d".toUTF8)]
  directories := []
  unreadable := []

/-- What is found in the document. -/
def bracketFinding : Finding := ⟨"Property \"[b]\" is not expected to be here", ["[b]"]⟩

/-- The document is loaded. -/
theorem loadDocument_bracketed :
    bracketed.loadDocument (.ofText "api[/b].json") = .ok (.map [(.str "[b]", .int 1)]) := by
  have hfile : bracketed.Holds (.ofText "api[/b].json") "\x7b\"[b]\":1\x7d".toUTF8 := ⟨rfl, rfl⟩
  exact loadDocument_of_write?_compact hfile (by decide) (by decide) (by decide)

/-- The name is found. -/
theorem process_bracketed :
    (Kit.standard 80).process [(.openApi30, noNames)] (.map [(.str "[b]", .int 1)]) =
      .ok [bracketFinding] := by
  have hlint : Registry.lint [(.openApi30, noNames.validator)] (.map [(.str "[b]", .int 1)]) =
      .ok [bracketFinding] := eq_ok_of_toOption (by decide +kernel)
  exact (process_standard 80 _ _).trans hlint

/-- A command line that saves what it finds in a file with brackets in its name that are no tag. -/
def bracketWords : List String := ["lint", "api[/b].json", "-s", "oas3_0=schema.json", "-o", "[O].json"]

/-- What is said about the document and its finding. -/
def bracketSayings : List Saying :=
  [.line (.linting (.ofText "api[/b].json") .openApi30), .line (.saved (.ofText "[O].json")),
    .table [bracketFinding], .line (.found 1)]

/-- That is what the command says. -/
theorem sayings_bracketed :
    (LintRequest.ofOptions "api[/b].json" [.schema "oas3_0=schema.json", .output "[O].json"]).sayings
      (Kit.standard 80) bracketed = bracketSayings := by
  obtain ⟨tree, hsave⟩ : ∃ tree,
      bracketed.saveFindings (.ofText "[O].json") [bracketFinding] = .ok () tree := ⟨_, rfl⟩
  have hsettings : (LintRequest.ofOptions "api[/b].json"
      [.schema "oas3_0=schema.json", .output "[O].json"]).settings =
        .ok ⟨[(.openApi30, .ofText "schema.json")], true⟩ := rfl
  have hdocument : (Kit.standard 80).loadDocument bracketed (LintRequest.ofOptions "api[/b].json"
      [.schema "oas3_0=schema.json", .output "[O].json"]).path = .ok (.map [(.str "[b]", .int 1)]) :=
    loadDocument_bracketed
  have hcheckers : (Kit.standard 80).loadCheckers bracketed
      ⟨[(.openApi30, .ofText "schema.json")], true⟩ = .ok [(.openApi30, noNames)] :=
    loadCheckers_noNames 80 true ⟨rfl, rfl⟩
  have hvariant : (Kit.standard 80).detect (.map [(.str "[b]", .int 1)]) = .openApi30 := rfl
  have houtput : (LintRequest.ofOptions "api[/b].json"
      [.schema "oas3_0=schema.json", .output "[O].json"]).output = some (.ofText "[O].json") := rfl
  rw [LintRequest.sayings, hsettings]
  dsimp only
  rw [hdocument]
  dsimp only
  rw [hcheckers]
  dsimp only
  rw [LintRequest.sayingsAbout, process_bracketed, houtput]
  dsimp only
  rw [hsave, hvariant]
  rfl

/-- All of it lies in the scope of the standard printer, and no tag stands in the path of the findings. -/
theorem isIn_and_not_hasRawTag_bracketSayings :
    ∀ saying ∈ bracketSayings, saying.IsIn (.standard 80) ∧ ¬ saying.HasRawTag := by
  simp only [bracketSayings, List.forall_mem_cons]
  refine ⟨⟨?_, id⟩, ⟨?_, ?_⟩, ⟨?_, id⟩, ⟨trivial, id⟩, List.forall_mem_nil _⟩
  · exact (by decide +kernel : IsPlain (FilePath.ofText "api[/b].json").text.toList ∧
      Markup.backslashesAtEnd 0 (FilePath.ofText "api[/b].json").text.toList ≤ 1)
  · exact (by decide +kernel : IsPlain (FilePath.ofText "[O].json").text.toList)
  · exact (by decide +kernel : ¬ Markup.HasTag (FilePath.ofText "[O].json").text.toList)
  · exact (by decide +kernel : (∀ row ∈ (plainTable [bracketFinding]).rows, ∀ text ∈ row,
      IsPlain text.toList ∧ Markup.backslashesAtEnd 0 text.toList ≠ 1) ∧
        (plainTable [bracketFinding]).HasRoomOn 80)

/-- The standard kit prints lines on the console. -/
theorem printed_standard (columns : Nat) (remark : Remark) :
    (Saying.line remark).printed (Kit.standard columns) =
      Console.print columns (remark.markup Markup.escape) := rfl

/-- What a line shows is printed on as many lines as it takes. -/
theorem printed_of_visible {remark : Remark} {cs : List Char} (columns : Nat)
    (h : visible (remark.markup Markup.escape) = .ok cs) :
    (Saying.line remark).printed (Kit.standard columns) =
      .ok ((layOut .fold columns cs).map String.ofList) := by
  rw [printed_standard, Console.print, h]

/-- What is said about the document without a schema, up to where the findings were saved. -/
theorem sayings_withoutSchema {output : String} {tree : FileTree}
    (hsave : bracketed.saveFindings (.ofText output) [] = .ok () tree) :
    (LintRequest.ofOptions "api[/b].json" [.output output]).sayings (Kit.standard 80) bracketed =
      [.line (.linting (.ofText "api[/b].json") .openApi30), .line (.skipping .openApi30),
        .line (.saved (.ofText output)), .line .noFindings] := by
  have hsettings : (LintRequest.ofOptions "api[/b].json" [.output output]).settings = .ok ⟨[], true⟩ := rfl
  have hdocument : (Kit.standard 80).loadDocument bracketed
      (LintRequest.ofOptions "api[/b].json" [.output output]).path = .ok (.map [(.str "[b]", .int 1)]) :=
    loadDocument_bracketed
  have hcheckers : (Kit.standard 80).loadCheckers bracketed ⟨[], true⟩ = .ok [] := rfl
  have hprocess : (Kit.standard 80).process [] (.map [(.str "[b]", .int 1)]) = .ok [] := rfl
  have hvariant : (Kit.standard 80).detect (.map [(.str "[b]", .int 1)]) = .openApi30 := rfl
  have houtput : (LintRequest.ofOptions "api[/b].json" [.output output]).output = some (.ofText output) :=
    rfl
  rw [LintRequest.sayings, hsettings]
  dsimp only
  rw [hdocument]
  dsimp only
  rw [hcheckers]
  dsimp only
  rw [LintRequest.sayingsAbout, hprocess, houtput]
  dsimp only
  rw [hsave, hvariant]
  rfl

/-- A label and what is read of the text behind it. -/
theorem pieces_saved (output : FilePath) :
    Markup.pieces [] 0 ((Remark.saved output).markup Markup.escape).toList =
      .text [] :: .text [] :: .tag "green".toList :: .text "Findings:".toList :: .text [] ::
        .tag ('/' :: "green".toList) :: Markup.pieces [] 0 (' ' :: output.text.toList) := by
  have hlabel : "Findings".toList ++ [':'] = "Findings:".toList := by decide
  rw [Remark.markup_saved, toList_labelled, hlabel]
  exact Markup.pieces_behind (isStyleWord_of_mem (by decide)) (by decide)

/-- A tag that opens a style is left out of the path that findings were saved at. -/
theorem printed_saved_opening :
    (Saying.line (.saved (.ofText "[o].json"))).printed (Kit.standard 80) = .ok ["Findings: .json"] := by
  have hgreen : Markup.IsStyleWord "green".toList := isStyleWord_of_mem (by decide)
  have hpath : (FilePath.ofText "[o].json").text = "[o].json" := by decide
  obtain ⟨name, hname⟩ := Markup.exists_styleName "o".toList "o" (by decide) (by decide) (by decide)
    (by decide)
  have htag := Markup.ofTag_of_styleName hname (by decide) (by decide)
  have htags : Markup.tags (Markup.pieces [] 0 (' ' :: "[o].json".toList)) = ["o".toList] := by
    cbv
  have hplain : Markup.plain (Markup.pieces [] 0 (' ' :: "[o].json".toList)) = " .json".toList := by
    cbv
  have hfollowed : ∃ styles, Markup.changeAll [] ["o".toList] = .ok styles :=
    ⟨[⟨name, []⟩], by simp only [Markup.changeAll, htag, Markup.Change.apply]⟩
  have hvisible : visible ((Remark.saved (.ofText "[o].json")).markup Markup.escape) =
      .ok "Findings: .json".toList := by
    rw [Remark.markup_saved, visible_labelled_iff (by decide) (by decide) (by decide +kernel),
      ← Remark.markup_saved Markup.escape, Markup.IsFollowed, pieces_saved, hpath]
    simp only [Markup.tags_text, Markup.tags_tag, htags, hplain,
      Markup.changeAll_pair hgreen]
    exact ⟨hfollowed, by decide⟩
  exact (printed_of_visible 80 hvisible).trans (congrArg Except.ok (by cbv))

/-- A tag that closes a style that is not open ends the command. -/
theorem printed_saved_closing :
    ∃ name, (Saying.line (.saved (.ofText "a[/b].json"))).printed (Kit.standard 80) =
      .error (.notOpen name) := by
  have hgreen : Markup.IsStyleWord "green".toList := isStyleWord_of_mem (by decide)
  have hpath : (FilePath.ofText "a[/b].json").text = "a[/b].json" := by decide
  obtain ⟨name, hname⟩ := Markup.exists_styleName "b".toList "b" (by decide) (by decide) (by decide)
    (by decide)
  have htag : Markup.Change.ofTag ['/', 'b'] = .ok (.closing name) :=
    Markup.ofTag_slash_of_styleName hname (by decide) (by decide) (by decide)
  have htags : Markup.tags (Markup.pieces [] 0 (' ' :: "a[/b].json".toList)) = [['/', 'b']] := by
    cbv
  refine ⟨name, ?_⟩
  have hclosing : Markup.changeAll [] (Markup.tags (Markup.pieces [] 0
      ((Remark.saved (.ofText "a[/b].json")).markup Markup.escape).toList)) = .error (.notOpen name) := by
    rw [pieces_saved, hpath]
    simp only [Markup.tags_text, Markup.tags_tag, htags, Markup.changeAll_pair hgreen, Markup.changeAll, htag,
      Markup.Change.apply, Markup.closeNamed]
  have hrender : Markup.render ((Remark.saved (.ofText "a[/b].json")).markup Markup.escape) =
      .error (.notOpen name) := by
    rw [Markup.render, Markup.shown_eq, hclosing, Except.map]
  have hvisible : visible ((Remark.saved (.ofText "a[/b].json")).markup Markup.escape) =
      .error (.notOpen name) := by
    rw [visible, hrender]
  rw [printed_standard, Console.print, hvisible]

/-- The brackets in the path of the document are shown. -/
theorem printed_linting_bracketed :
    (Saying.line (.linting (.ofText "api[/b].json") .openApi30)).printed (Kit.standard 80) =
      .ok ["Linting api[/b].json as oas3_0..."] := by
  have hvisible : visible ((Remark.linting (.ofText "api[/b].json") .openApi30).markup Markup.escape) =
      .ok "Linting api[/b].json as oas3_0...".toList := by
    rw [Remark.markup_linting, visible_escaped (by decide) (by decide)
      (Remark.isOrdinary_behindPath .openApi30) (by decide +kernel) (by decide +kernel)]
    decide +kernel
  exact (printed_of_visible 80 hvisible).trans (congrArg Except.ok (by cbv))

/-- A format without a schema is skipped in words. -/
theorem printed_skipping_openApi30 : (Saying.line (.skipping .openApi30)).printed (Kit.standard 80) =
    .ok ["No schema configured for oas3_0, skipping."] := by
  have htext : (Remark.skipping .openApi30).text = "No schema configured for oas3_0, skipping." := by decide
  have hvisible : visible ((Remark.skipping .openApi30).markup Markup.escape) =
      .ok (Remark.skipping .openApi30).text.toList := by
    rw [Remark.markup_skipping]
    exact visible_words (by decide) (Remark.isOrdinary_skipping .openApi30)
  rw [htext] at hvisible
  exact (printed_of_visible 80 hvisible).trans (congrArg Except.ok (by cbv))

/-- That there are no findings is said in words. -/
theorem printed_noFindings :
    (Saying.line .noFindings).printed (Kit.standard 80) = .ok ["No findings."] := by
  have hvisible : visible (Remark.noFindings.markup Markup.escape) = .ok "No findings.".toList := by
    rw [Remark.markup_noFindings]
    exact visible_words (by decide) (by decide)
  exact (printed_of_visible 80 hvisible).trans (congrArg Except.ok (by cbv))

end ApiLint.CommandLine
