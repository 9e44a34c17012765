import ExperimentGroups.Allocation
import ExperimentGroups.Bucket
import ExperimentGroups.Command.Display
import ExperimentGroups.Command.Inspection
import ExperimentGroups.Command.Options
import ExperimentGroups.Command.Report
import ExperimentGroups.Command.Run
import ExperimentGroups.Console.Cell
import ExperimentGroups.Console.Cluster
import ExperimentGroups.Console.Color
import ExperimentGroups.Console.Emoji
import ExperimentGroups.Console.Literal
import ExperimentGroups.Console.Literal.Number
import ExperimentGroups.Console.Literal.Quoted
import ExperimentGroups.Console.Literal.Spacing
import ExperimentGroups.Console.Marked
import ExperimentGroups.Console.Markup
import ExperimentGroups.Console.Sequence
import ExperimentGroups.Console.Style
import ExperimentGroups.Console.Table
import ExperimentGroups.Console.Wrap
import ExperimentGroups.Definition
import ExperimentGroups.Dict
import ExperimentGroups.Double.Basic
import ExperimentGroups.Double.Layout
import ExperimentGroups.Double.Shortest
import ExperimentGroups.Groups.Document
import ExperimentGroups.Groups.Hook
import ExperimentGroups.Groups.Message
import ExperimentGroups.Groups.Metadata
import ExperimentGroups.Groups.Projection
import ExperimentGroups.Groups.Query
import ExperimentGroups.Groups.Rendering
import ExperimentGroups.Json.Basic
import ExperimentGroups.Json.Encoding
import ExperimentGroups.Json.Printer
import ExperimentGroups.Json.Reader
import ExperimentGroups.Json.Token
import ExperimentGroups.Lookup
import ExperimentGroups.Main
import ExperimentGroups.Override.Basic
import ExperimentGroups.Override.Item
import ExperimentGroups.Payload
import ExperimentGroups.Service.Address
import ExperimentGroups.Service.Host
import ExperimentGroups.Service.Host.Label
import ExperimentGroups.Service.Host.Letter
import ExperimentGroups.Service.Host.Numeric
import ExperimentGroups.Service.Host.Punycode
import ExperimentGroups.Service.Reply
import ExperimentGroups.Service.Request
import ExperimentGroups.Service.Resolution
import ExperimentGroups.Settings
import ExperimentGroups.Settings.EnvFile
import ExperimentGroups.Snapshot
import ExperimentGroups.Text.Blank
import ExperimentGroups.Text.Cased
import ExperimentGroups.Text.CharacterName
import ExperimentGroups.Text.Composition
import ExperimentGroups.Text.Digit
import ExperimentGroups.Text.Direction
import ExperimentGroups.Text.Grouped
import ExperimentGroups.Text.Integer
import ExperimentGroups.Text.Joining
import ExperimentGroups.Text.LowerCase
import ExperimentGroups.Text.Mark
import ExperimentGroups.Text.NameTable
import ExperimentGroups.Text.Printable
import ExperimentGroups.Text.Quoted
import ExperimentGroups.Text.Split
import ExperimentGroups.Text.Turns
import ExperimentGroups.Text.UpperCase
import ExperimentGroups.Text.Word
import ExperimentGroups.Wire.Document
import ExperimentGroups.Wire.Double
import ExperimentGroups.Wire.Integer
import ExperimentGroups.Wire.Naming
import ExperimentGroups.Wire.Nesting
import ExperimentGroups.Wire.Problem
import ExperimentGroups.Wire.Shape
import ExperimentGroups.Proofs.Nesting
import ExperimentGroups.Proofs.Reply
import ExperimentGroups.Proofs.Projection
import ExperimentGroups.Proofs.Rules
import ExperimentGroups.Proofs.Termination
import ExperimentGroups.Proofs.Precedence
import ExperimentGroups.Proofs.Reprojection
import ExperimentGroups.Proofs.History
import ExperimentGroups.Proofs.Rendering
import ExperimentGroups.Proofs.Independence
import ExperimentGroups.Proofs.Digits
import ExperimentGroups.Proofs.Decimals
import ExperimentGroups.Proofs.Numbers
import ExperimentGroups.Proofs.Scanning
import ExperimentGroups.Proofs.Building
import ExperimentGroups.Proofs.FreeForm
import ExperimentGroups.Proofs.Lawful
import ExperimentGroups.Proofs.RoundTrip
import ExperimentGroups.Proofs.Limits
import ExperimentGroups.Proofs.Contracts
import ExperimentGroups.Proofs.Finiteness
import ExperimentGroups.Proofs.Descent
import ExperimentGroups.Proofs.Printing
import ExperimentGroups.Proofs.Feedback
import ExperimentGroups.Proofs.Likeness
import ExperimentGroups.Proofs.Equality
import ExperimentGroups.Proofs.Messages
import ExperimentGroups.Proofs.Answers
import ExperimentGroups.Proofs.Items
import ExperimentGroups.Proofs.Surfaces
import ExperimentGroups.Proofs.Tags
import ExperimentGroups.Proofs.Drawing
import ExperimentGroups.Proofs.Outputs
import ExperimentGroups.Proofs.Candidates
import ExperimentGroups.Proofs.Slots
import ExperimentGroups.Proofs.Outcomes
import ExperimentGroups.Proofs.Chaining
import ExperimentGroups.Proofs.Places
import ExperimentGroups.Proofs.Spellings
import ExperimentGroups.Proofs.Appending
import ExperimentGroups.Proofs.Grammar
import ExperimentGroups.Proofs.Documents
import ExperimentGroups.Proofs.Pins
import ExperimentGroups.Proofs.Lowest
import ExperimentGroups.Proofs.Reports
import ExperimentGroups.Proofs.Entries
