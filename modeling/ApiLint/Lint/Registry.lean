import ApiLint.Finding.Report
import ApiLint.Schema.RawErrors
import ApiLint.Variant

/-!
# Linting a document

A registry holds a validator for some of the description formats.  A document is checked by the validator
of its own format, and what that reports becomes findings.  Reports are taken as they come: entries that
cannot be read are skipped and never affect the others.
-/

namespace ApiLint

/-- One entry of a report: a raw error, or a value that may be read as one. -/
inductive ReportEntry where
  | error (e : RawError)
  | value (x : Node)

/-- What a validator answers. -/
inductive Report where
  /-- Any value; only the elements of one that is not empty count. -/
  | value (x : Node)
  /-- Entries one after the other. -/
  | entries (xs : List ReportEntry)

/-- Why linting a document ended without findings. -/
inductive LintError where
  | schema (fault : Schema.Fault)
  | numeral (error : LongNumeral)
deriving DecidableEq

/-- What stands for a validator: a check of documents, or something that cannot be called. -/
inductive Validator where
  | check (run : Node → Except LintError Report)
  | inert

/-- The validators by format. -/
abbrev Registry := List (Variant × Validator)

namespace Report

/-- The entries of a report. -/
def toEntries : Report → List ReportEntry
  | .entries xs => xs
  | .value x => if x.isTruthy then (x.elements?.getD []).map .value else []

end Report

/-- The raw error of an entry, if it can be read as one. -/
def ReportEntry.rawError? : ReportEntry → Option RawError
  | .error e => some e
  | .value (.map entries) => (RawError.ofEntries entries).toOption
  | .value _ => none

/-- The raw errors of a report, in its order. -/
def Report.rawErrors (r : Report) : List RawError := r.toEntries.filterMap ReportEntry.rawError?

/-- The validator that reports what a checker finds. -/
def Schema.Checker.validator (check : Schema.Checker) : Validator :=
  .check fun document =>
    match check.rawErrors document with
    | .ok errors => .ok (.entries (errors.map .error))
    | .error fault => .error (.schema fault)

/-- The validator made from a schema. -/
def Schema.Compiled.validator (c : Schema.Compiled) : Validator := c.checker.validator

namespace Registry

/-- The check that a document is subject to, with the format that it is registered for. -/
def check? (registry : Registry) (document : Node) :
    Option (Variant × (Node → Except LintError Report)) :=
  match registry.lookup (Variant.detect document) with
  | some (.check run) => some (Variant.detect document, run)
  | _ => none

/-- The raw errors that the validator of a document's format reports. -/
def rawErrors (registry : Registry) (document : Node) : Except LintError (List RawError) :=
  match registry.check? document with
  | none => .ok []
  | some (_, run) =>
    match run document with
    | .ok report => .ok report.rawErrors
    | .error e => .error e

/-- The findings of a document; without a validator for its format there are none. -/
def lint (registry : Registry) (document : Node) : Except LintError (List Finding) :=
  match registry.rawErrors document with
  | .error e => .error e
  | .ok errors =>
    match Finding.ofErrors document (errors.map some) with
    | .ok findings => .ok findings
    | .error e => .error (.numeral e)

end Registry

end ApiLint
