import FirmwareGen.Board.Generate
import FirmwareGen.Board.Header
import FirmwareGen.Board.Source
import FirmwareGen.C.Printer
import FirmwareGen.C.Syntax
import FirmwareGen.Calendar.DateTime
import FirmwareGen.Calendar.TimeSource
import FirmwareGen.Command.Arguments
import FirmwareGen.Command.Run
import FirmwareGen.Design.Import
import FirmwareGen.Document.Json.Printer
import FirmwareGen.Document.Json.Reader
import FirmwareGen.Document.Load
import FirmwareGen.Document.Record
import FirmwareGen.Document.Toml.Reader
import FirmwareGen.Document.Toml.Scalar
import FirmwareGen.Document.Toml.Tree
import FirmwareGen.Document.Value
import FirmwareGen.Main
import FirmwareGen.Markup.Attribute
import FirmwareGen.Markup.Document
import FirmwareGen.Markup.Element
import FirmwareGen.Markup.Entity
import FirmwareGen.Markup.Event
import FirmwareGen.Markup.Namespace
import FirmwareGen.Markup.Printer
import FirmwareGen.Markup.Token
import FirmwareGen.Model.Board
import FirmwareGen.Model.Choice
import FirmwareGen.Model.Modulator
import FirmwareGen.Model.Schema
import FirmwareGen.Modulators.Generate
import FirmwareGen.Modulators.Header
import FirmwareGen.Modulators.Plan
import FirmwareGen.Modulators.Source
import FirmwareGen.Naming.Identifier
import FirmwareGen.Naming.Scheme
import FirmwareGen.Output.Files
import FirmwareGen.Output.Sink
import FirmwareGen.Proofs.Board.Agreement
import FirmwareGen.Proofs.Board.Bodies
import FirmwareGen.Proofs.Board.Functions
import FirmwareGen.Proofs.Board.Influence
import FirmwareGen.Proofs.Board.Lines
import FirmwareGen.Proofs.Board.Macros
import FirmwareGen.Proofs.Board.Sections
import FirmwareGen.Proofs.Board.Startup
import FirmwareGen.Proofs.Board.Texts
import FirmwareGen.Proofs.C.Attributes
import FirmwareGen.Proofs.C.Blocks
import FirmwareGen.Proofs.C.Brackets
import FirmwareGen.Proofs.C.Callees
import FirmwareGen.Proofs.C.Calls
import FirmwareGen.Proofs.C.Cases
import FirmwareGen.Proofs.C.Enumerations
import FirmwareGen.Proofs.C.Guards
import FirmwareGen.Proofs.C.Heads
import FirmwareGen.Proofs.C.Names
import FirmwareGen.Proofs.C.OneLine
import FirmwareGen.Proofs.C.Quiet
import FirmwareGen.Proofs.C.Texts
import FirmwareGen.Proofs.C.Types
import FirmwareGen.Proofs.Calendar.Days
import FirmwareGen.Proofs.Calendar.Readings
import FirmwareGen.Proofs.Calendar.Timestamps
import FirmwareGen.Proofs.Command.Checking
import FirmwareGen.Proofs.Command.Destination
import FirmwareGen.Proofs.Command.Emission
import FirmwareGen.Proofs.Command.Saving
import FirmwareGen.Proofs.Command.Writing
import FirmwareGen.Proofs.Design.Expansion
import FirmwareGen.Proofs.Design.Parameters
import FirmwareGen.Proofs.Design.RoundTrip
import FirmwareGen.Proofs.Design.Selection
import FirmwareGen.Proofs.Document.Defaults
import FirmwareGen.Proofs.Document.Denotation
import FirmwareGen.Proofs.Document.Fields
import FirmwareGen.Proofs.Document.Json.Scalars
import FirmwareGen.Proofs.Document.Json.Values
import FirmwareGen.Proofs.Document.Records
import FirmwareGen.Proofs.Markup.Acceptance
import FirmwareGen.Proofs.Markup.Attributes
import FirmwareGen.Proofs.Markup.Expansion
import FirmwareGen.Proofs.Markup.Names
import FirmwareGen.Proofs.Markup.Places
import FirmwareGen.Proofs.Markup.Scans
import FirmwareGen.Proofs.Markup.Tags
import FirmwareGen.Proofs.Markup.Traversal
import FirmwareGen.Proofs.Markup.Trees
import FirmwareGen.Proofs.Markup.Visits
import FirmwareGen.Proofs.Modulators.Actions
import FirmwareGen.Proofs.Modulators.Agreement
import FirmwareGen.Proofs.Modulators.Calls
import FirmwareGen.Proofs.Modulators.Clashes
import FirmwareGen.Proofs.Modulators.Coverage
import FirmwareGen.Proofs.Modulators.Declarations
import FirmwareGen.Proofs.Modulators.Duty
import FirmwareGen.Proofs.Modulators.Functions
import FirmwareGen.Proofs.Modulators.Influence
import FirmwareGen.Proofs.Modulators.Interrupts
import FirmwareGen.Proofs.Modulators.Lines
import FirmwareGen.Proofs.Modulators.Linking
import FirmwareGen.Proofs.Modulators.Macros
import FirmwareGen.Proofs.Modulators.Names
import FirmwareGen.Proofs.Modulators.Preamble
import FirmwareGen.Proofs.Modulators.Quiet
import FirmwareGen.Proofs.Modulators.Routines
import FirmwareGen.Proofs.Modulators.Sections
import FirmwareGen.Proofs.Modulators.Streaming
import FirmwareGen.Proofs.Modulators.Texts
import FirmwareGen.Proofs.Modulators.Types
import FirmwareGen.Proofs.Naming.Identifiers
import FirmwareGen.Proofs.Naming.Phases
import FirmwareGen.Proofs.Naming.Sanitising
import FirmwareGen.Proofs.Naming.Stems
import FirmwareGen.Proofs.Output.Brackets
import FirmwareGen.Proofs.Output.Fallbacks
import FirmwareGen.Proofs.Output.Sinks
import FirmwareGen.Proofs.Storage.Changes
import FirmwareGen.Proofs.Storage.Joins
import FirmwareGen.Proofs.Storage.Runs
import FirmwareGen.Proofs.Text.CaseMap
import FirmwareGen.Proofs.Text.Lines
import FirmwareGen.Proofs.Text.Numeral
import FirmwareGen.Proofs.Text.Removal
import FirmwareGen.Proofs.Text.Settled
import FirmwareGen.Proofs.Text.Vocabulary
import FirmwareGen.Proofs.Text.Width
import FirmwareGen.Storage.FileTree
import FirmwareGen.Storage.Path
import FirmwareGen.Storage.Script
import FirmwareGen.Text.Blank
import FirmwareGen.Text.CaseMap
import FirmwareGen.Text.CaseTable
import FirmwareGen.Text.Numeral
import FirmwareGen.Text.Removal
