import LineEditor.Address
import LineEditor.Buffer
import LineEditor.CommandLine
import LineEditor.Conduct
import LineEditor.Config
import LineEditor.Editor
import LineEditor.Failure
import LineEditor.Files
import LineEditor.Main
import LineEditor.Output
import LineEditor.Pattern
import LineEditor.Proofs.Bounds.Buffer
import LineEditor.Proofs.Bounds.Edit
import LineEditor.Proofs.Bounds.Session
import LineEditor.Proofs.Configuration.Loading
import LineEditor.Proofs.Configuration.Tree
import LineEditor.Proofs.Equations
import LineEditor.Proofs.Failure.Atomic
import LineEditor.Proofs.Failure.Loading
import LineEditor.Proofs.Failure.Reported
import LineEditor.Proofs.FileCommands
import LineEditor.Proofs.Files
import LineEditor.Proofs.Global.Arranged
import LineEditor.Proofs.Global.Selection
import LineEditor.Proofs.Global.Substituted
import LineEditor.Proofs.Global.Visits
import LineEditor.Proofs.Insertion
import LineEditor.Proofs.LineForm
import LineEditor.Proofs.Listing
import LineEditor.Proofs.Lookup.Numeric
import LineEditor.Proofs.Lookup.Walk
import LineEditor.Proofs.Naming.Command
import LineEditor.Proofs.Naming.Rule
import LineEditor.Proofs.Pattern.Delimiter
import LineEditor.Proofs.Pattern.Literal
import LineEditor.Proofs.Reading
import LineEditor.Proofs.Relocation
import LineEditor.Proofs.RoundTrip
import LineEditor.Proofs.SideBySide.Edit
import LineEditor.Proofs.SideBySide.Indifferent
import LineEditor.Proofs.SideBySide.Run
import LineEditor.Proofs.Statement.Accepted
import LineEditor.Proofs.Statement.Blanks
import LineEditor.Proofs.Statement.Scan
import LineEditor.Proofs.Statement.Written
import LineEditor.Proofs.Substitution
import LineEditor.Proofs.Truncation
import LineEditor.Regex
import LineEditor.Regex.Class
import LineEditor.Regex.Program
import LineEditor.Session
import LineEditor.Session.Composed
import LineEditor.Session.Execute
import LineEditor.Session.Global
import LineEditor.Statement
import LineEditor.Text
import LineEditor.Toml
import LineEditor.Unicode.CategoryTable
import LineEditor.Unicode.CharSet
import LineEditor.Unicode.FoldingTable
import LineEditor.Unicode.Property
import LineEditor.Unicode.PropertyTable
import LineEditor.Unicode.ScriptTable
