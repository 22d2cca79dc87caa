import ClassDiagram.Catalog.Builtin
import ClassDiagram.Command
import ClassDiagram.Diagram
import ClassDiagram.Files
import ClassDiagram.Log.Line
import ClassDiagram.Main
import ClassDiagram.Proofs.Ancestry
import ClassDiagram.Proofs.Walk
import ClassDiagram.Proofs.Climb
import ClassDiagram.Proofs.Members
import ClassDiagram.Proofs.Invariants
import ClassDiagram.Proofs.Nesting
import ClassDiagram.Proofs.Expansions
import ClassDiagram.Proofs.UnknownAncestors
import ClassDiagram.Proofs.PlainWalk
import ClassDiagram.Proofs.Links
import ClassDiagram.Proofs.Saturation
import ClassDiagram.Proofs.Monotone
import ClassDiagram.Proofs.Lookups
import ClassDiagram.Proofs.FirstOccurrences
import ClassDiagram.Proofs.Additions
import ClassDiagram.Proofs.Edges
import ClassDiagram.Proofs.DistinctLines
import ClassDiagram.Proofs.DisplayNames
import ClassDiagram.Proofs.ScriptLines
import ClassDiagram.Proofs.Detail
import ClassDiagram.Proofs.Requested
import ClassDiagram.Proofs.Json.Spelling
import ClassDiagram.Proofs.Json.ReadText
import ClassDiagram.Proofs.Json.ReadValue
import ClassDiagram.Proofs.Json.ReadRecord
import ClassDiagram.Proofs.WrittenCatalog
import ClassDiagram.Proofs.Json.Form
import ClassDiagram.Proofs.Json.SkipValue
import ClassDiagram.Proofs.Json.Consumed
import ClassDiagram.Proofs.Json.ReadForm
import ClassDiagram.Proofs.Json.ReadParts
import ClassDiagram.Proofs.Json.ReadRows
import ClassDiagram.Proofs.CatalogForm
import ClassDiagram.Proofs.Json.Break
import ClassDiagram.Proofs.Json.KeyFault
import ClassDiagram.Proofs.ShortRows
import ClassDiagram.Proofs.CatalogHistory
import ClassDiagram.Proofs.FaultyKeys
import ClassDiagram.Proofs.SwitchReaders
import ClassDiagram.Proofs.WrittenInteger
import ClassDiagram.Proofs.RequestFaults
import ClassDiagram.Proofs.SwitchPairs
import ClassDiagram.Proofs.OptionChoice
import ClassDiagram.Proofs.Outcome
import ClassDiagram.Proofs.Report
