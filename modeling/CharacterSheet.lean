import CharacterSheet.Catalog.Templates
import CharacterSheet.Catalog.Traits
import CharacterSheet.Character.Assignment
import CharacterSheet.Character.Basic
import CharacterSheet.Character.Lifecycle
import CharacterSheet.Character.Profile
import CharacterSheet.Character.Resolve
import CharacterSheet.Character.View
import CharacterSheet.Data.Basic
import CharacterSheet.Data.Calendar
import CharacterSheet.Data.Display
import CharacterSheet.Data.Json.Encoding
import CharacterSheet.Data.Json.Reader
import CharacterSheet.Data.Json.Writer
import CharacterSheet.Data.Merge
import CharacterSheet.Data.Order
import CharacterSheet.Data.Readout
import CharacterSheet.Data.Scalar
import CharacterSheet.Data.Sets
import CharacterSheet.Data.Table
import CharacterSheet.Data.Toml.Reader
import CharacterSheet.Data.Toml.Scalar
import CharacterSheet.Data.Yaml.Cursor
import CharacterSheet.Data.Yaml.Node
import CharacterSheet.Data.Yaml.Reader
import CharacterSheet.Data.Yaml.Scalar
import CharacterSheet.Data.Yaml.Schema
import CharacterSheet.Data.Yaml.Token
import CharacterSheet.Definition.Decision
import CharacterSheet.Definition.Defect
import CharacterSheet.Definition.Directive
import CharacterSheet.Definition.Path
import CharacterSheet.Definition.Ruleset
import CharacterSheet.Definition.Snapshot
import CharacterSheet.Definition.Template
import CharacterSheet.Definition.Trait
import CharacterSheet.Engine
import CharacterSheet.Fault
import CharacterSheet.Formula.Basic
import CharacterSheet.Formula.Evaluation
import CharacterSheet.Formula.Time
import CharacterSheet.Number.Arithmetic
import CharacterSheet.Number.Binary64
import CharacterSheet.Number.Compare
import CharacterSheet.Number.Shortest
import CharacterSheet.Packaged.Core.Condition
import CharacterSheet.Packaged.Core.Paths
import CharacterSheet.Packaged.Core.People
import CharacterSheet.Packaged.Core.Powers
import CharacterSheet.Packaged.Core.Settings
import CharacterSheet.Packaged.Core.Templates
import CharacterSheet.Packaged.Library
import CharacterSheet.Record.Checked
import CharacterSheet.Record.Issue
import CharacterSheet.Record.Members
import CharacterSheet.Record.Scalars
import CharacterSheet.Rule.Directive
import CharacterSheet.Rule.Directives
import CharacterSheet.Rule.Tokens
import CharacterSheet.Source.Documents
import CharacterSheet.Source.Drafts
import CharacterSheet.Source.Folder
import CharacterSheet.Source.Load
import CharacterSheet.Text.Base64
import CharacterSheet.Text.Blank
import CharacterSheet.Text.Case
import CharacterSheet.Text.Codes
import CharacterSheet.Text.Digit
import CharacterSheet.Text.Integer
import CharacterSheet.Text.Printable
import CharacterSheet.Text.Quoted
import CharacterSheet.Text.Split
import CharacterSheet.Text.Word
import CharacterSheet.Version
import CharacterSheet.Vocabulary
import CharacterSheet.Proofs.Ascending
import CharacterSheet.Proofs.IntegerText
import CharacterSheet.Proofs.Result
import CharacterSheet.Proofs.TraitCatalog
import CharacterSheet.Proofs.Registration
import CharacterSheet.Proofs.Run
import CharacterSheet.Proofs.Sound
import CharacterSheet.Proofs.Exact
import CharacterSheet.Proofs.Growth
import CharacterSheet.Proofs.TemplateFaults
import CharacterSheet.Proofs.Numeral
import CharacterSheet.Proofs.ReadBack
import CharacterSheet.Proofs.SnapshotRecord
import CharacterSheet.Proofs.Keys
import CharacterSheet.Proofs.Rebuilding
import CharacterSheet.Proofs.Reload
import CharacterSheet.Proofs.Alike
import CharacterSheet.Proofs.Regaining
import CharacterSheet.Proofs.Membership
import CharacterSheet.Proofs.Removal
import CharacterSheet.Proofs.Consulting
import CharacterSheet.Proofs.Ranked
import CharacterSheet.Proofs.Superseding
import CharacterSheet.Proofs.Unfolding
import CharacterSheet.Proofs.Spelling
import CharacterSheet.Proofs.Aggregation
import CharacterSheet.Proofs.Clamping
import CharacterSheet.Proofs.Weighing
import CharacterSheet.Proofs.Isolation
import CharacterSheet.Proofs.Parentage
import CharacterSheet.Proofs.RowOrder
import CharacterSheet.Proofs.Dumps
import CharacterSheet.Proofs.Entries
import CharacterSheet.Proofs.Merging
import CharacterSheet.Proofs.Placement
import CharacterSheet.Proofs.Loading
import CharacterSheet.Proofs.Undoing
import CharacterSheet.Proofs.TemplateOrder
import CharacterSheet.Proofs.ForeignFiles
import CharacterSheet.Proofs.Sifting
import CharacterSheet.Proofs.Leniency
import CharacterSheet.Proofs.Guarding
import CharacterSheet.Proofs.SelfReference
import CharacterSheet.Proofs.Naming
import CharacterSheet.Proofs.Assigned
import CharacterSheet.Proofs.WriteBack
import CharacterSheet.Proofs.Descent
import CharacterSheet.Proofs.Granting
import CharacterSheet.Proofs.Rising
import CharacterSheet.Proofs.Sharing
import CharacterSheet.Proofs.Postfix
import CharacterSheet.Proofs.Reckoning
import CharacterSheet.Proofs.Doubles
import CharacterSheet.Proofs.StackMachine
import CharacterSheet.Proofs.Overflow
import CharacterSheet.Proofs.Consistency
import CharacterSheet.Proofs.Mantissa
import CharacterSheet.Proofs.Humanity
import CharacterSheet.Proofs.Splitting
import CharacterSheet.Proofs.Composing
import CharacterSheet.Proofs.Joining
import CharacterSheet.Proofs.Labels
import CharacterSheet.Proofs.Rereading
import CharacterSheet.Proofs.Overriding
import CharacterSheet.Proofs.Delimiting
