import ApiLint.Main
import ApiLint.Workspace
import ApiLint.Node.Shape
import ApiLint.Json.Descent
import ApiLint.Pattern.Portable
import ApiLint.Pointer.Place
import ApiLint.Pointer.Reading
import ApiLint.Schema.Joined
import ApiLint.Suggest.EditScript
import ApiLint.CommandLine.Meaning
import ApiLint.Console.Verbatim
import ApiLint.Console.Faithful
import ApiLint.CommandLine.Saying
import ApiLint.Yaml.Faults
import ApiLint.Load.Promise
import ApiLint.Lint.Group
import ApiLint.Proofs.Keyed
import ApiLint.Proofs.Text.Quoted
import ApiLint.Proofs.Node.Shape
import ApiLint.Proofs.Node.Size
import ApiLint.Proofs.Number.Numeral
import ApiLint.Proofs.Json.Text
import ApiLint.Proofs.Json.RoundTrip
import ApiLint.Proofs.Json.LongInteger
import ApiLint.Proofs.Json.Descent
import ApiLint.Proofs.Pointer.Segment
import ApiLint.Proofs.Pointer.Index
import ApiLint.Proofs.Pointer.Path
import ApiLint.Proofs.Pointer.Resolve
import ApiLint.Proofs.Pointer.Location
import ApiLint.Proofs.Pointer.Format
import ApiLint.Proofs.Pointer.Stepwise
import ApiLint.Proofs.Pointer.Item
import ApiLint.Proofs.Pointer.Scan
import ApiLint.Proofs.Message.Wording
import ApiLint.Proofs.Suggest.EditDistance
import ApiLint.Proofs.Suggest.EditScript
import ApiLint.Proofs.Suggest.Ranking
import ApiLint.Proofs.Suggest.Closest
import ApiLint.Proofs.Files.Tree
import ApiLint.Proofs.Yaml.Faults
import ApiLint.Proofs.Yaml.Scanner
import ApiLint.Proofs.Yaml.Lexer
import ApiLint.Proofs.Yaml.Tree
import ApiLint.Proofs.Load.Document
import ApiLint.Proofs.Load.Promise
import ApiLint.Proofs.Finding.Report
import ApiLint.Proofs.Finding.Refusal
import ApiLint.Proofs.Finding.Locality
import ApiLint.Proofs.Finding.Save
import ApiLint.Proofs.Finding.Suggestion
import ApiLint.Proofs.Finding.AllowedValues
import ApiLint.Proofs.Pattern.Alike
import ApiLint.Proofs.Pattern.Reading
import ApiLint.Proofs.Pattern.Sequence
import ApiLint.Proofs.Pattern.Join
import ApiLint.Proofs.Schema.Outcome
import ApiLint.Proofs.Schema.Report
import ApiLint.Proofs.Schema.Subschema
import ApiLint.Proofs.Schema.Reference
import ApiLint.Proofs.Schema.Fit
import ApiLint.Proofs.Schema.Carry
import ApiLint.Proofs.Schema.Descend
import ApiLint.Proofs.Schema.Names
import ApiLint.Proofs.Schema.Evaluate
import ApiLint.Proofs.Schema.Counted
import ApiLint.Proofs.Schema.Additional
import ApiLint.Proofs.Schema.MissingName
import ApiLint.Proofs.Lint.Group
import ApiLint.Proofs.Lint.Order
import ApiLint.Proofs.Lint.ElementOrder
import ApiLint.Proofs.Lint.Entries
import ApiLint.Proofs.Settings.Options
import ApiLint.Proofs.Console.Style
import ApiLint.Proofs.Console.Wrap
import ApiLint.Proofs.Console.Ellipsis
import ApiLint.Proofs.Console.Table
import ApiLint.Proofs.Console.Escape
import ApiLint.Proofs.Console.Verbatim
import ApiLint.Proofs.Console.Faithful
import ApiLint.Proofs.CommandLine.Lint
import ApiLint.Proofs.CommandLine.Saying
import ApiLint.Proofs.CommandLine.Printing
