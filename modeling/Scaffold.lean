import Scaffold.Main
import Scaffold.Duration
import Scaffold.Naming
import Scaffold.Schema.Model
import Scaffold.Text.Alphanumeric
import Scaffold.Text.Numeral
import Scaffold.Text.Path
import Scaffold.Text.Quoted
import Scaffold.Text.Utf8
import Scaffold.Resource.Artifact
import Scaffold.Event
import Scaffold.Logging.Settings
import Scaffold.FileTree
import Scaffold.Generate
import Scaffold.Settings.Toml
import Scaffold.CommandLine
import Scaffold.Settings.Load
import Scaffold.Watch.Loop
import Scaffold.Watch.Timeline
import Scaffold.Program
import Scaffold.Proofs.Watch.Stages
import Scaffold.Proofs.Watch.Histories
import Scaffold.Proofs.Watch.NoLoss
import Scaffold.Proofs.Watch.Coalescing
import Scaffold.Proofs.Watch.Clock
import Scaffold.Proofs.Watch.Timing
import Scaffold.Proofs.Schema.Header
import Scaffold.Proofs.Schema.Scan
import Scaffold.Proofs.Schema.Lines
import Scaffold.Proofs.Schema.Trailing
import Scaffold.Proofs.Schema.RoundTrip
import Scaffold.Proofs.Schema.Grammar
import Scaffold.Proofs.Resource.CreateData
import Scaffold.Proofs.Outcome
import Scaffold.Proofs.Naming
import Scaffold.Proofs.Naming.WordBreaks
import Scaffold.Proofs.FileTree.Operations
import Scaffold.Proofs.FileTree.Holding
import Scaffold.Proofs.Generate.Layout
import Scaffold.Proofs.Generate.Steps
import Scaffold.Proofs.Generate.Folder
import Scaffold.Proofs.Generate.FromSource
import Scaffold.Proofs.Generate.Outputs
import Scaffold.Proofs.Watch.Batch
import Scaffold.Proofs.Watch.Ownership
import Scaffold.Proofs.Schema.Concatenation
import Scaffold.Proofs.Schema.Separators
import Scaffold.Proofs.Schema.Partition
import Scaffold.Proofs.Generate.Dependence
import Scaffold.Proofs.FileTree.Making
import Scaffold.Proofs.Generate.Trial
import Scaffold.Proofs.Generate.Failure
import Scaffold.Proofs.Generate.Confinement
import Scaffold.Proofs.Generate.Regeneration
import Scaffold.Proofs.Text.Numeral
import Scaffold.Proofs.Text.Parts
import Scaffold.Proofs.Settings.Layers
import Scaffold.Proofs.Settings.ModelList
import Scaffold.Proofs.Logging.Filter
import Scaffold.Proofs.Logging.Precedence
import Scaffold.Proofs.CommandLine.Lines
import Scaffold.Proofs.TypeScript.Imports
import Scaffold.Proofs.TypeScript.Methods
import Scaffold.Proofs.TypeScript.Literals
import Scaffold.Proofs.TypeScript.Classes
import Scaffold.Proofs.Resource.Texts
import Scaffold.Proofs.Resource.Links
import Scaffold.Proofs.Resource.Files
import Scaffold.Proofs.Resource.Guards
import Scaffold.Proofs.Resource.Literals
import Scaffold.Proofs.Resource.Classes
import Scaffold.Proofs.Resource.ValidatorImports
import Scaffold.Proofs.Resource.CreateDto
import Scaffold.Proofs.Resource.AuditWiring
import Scaffold.Proofs.Resource.Routes
