import Letterpress.Engine
import Letterpress.Text.Digits
import Letterpress.Proofs.Catalogue.Disposal
import Letterpress.Proofs.Catalogue.Invalidation
import Letterpress.Proofs.Catalogue.SingleFlight
import Letterpress.Proofs.Generation.Cleanup
import Letterpress.Proofs.Generation.Handoff
import Letterpress.Proofs.Generation.Lifecycle
import Letterpress.Proofs.Generation.Numbering
import Letterpress.Proofs.Generation.Taxonomy
import Letterpress.Proofs.Block.Passage
import Letterpress.Proofs.Catalogue.Load
import Letterpress.Proofs.Catalogue.Freshness
import Letterpress.Proofs.Hypertext.Printing
import Letterpress.Proofs.Structure.Outline
import Letterpress.Proofs.Number.Rounding
import Letterpress.Proofs.Catalogue.Steady
import Letterpress.Workshop
import Letterpress.Proofs.Catalogue.Settling
import Letterpress.Proofs.Generation.Discipline
import Letterpress.Proofs.Workspace
import Letterpress.Proofs.Workshop.Turn
import Letterpress.Proofs.Workshop.View
import Letterpress.Proofs.Workshop.Isolation
import Letterpress.Proofs.Workshop.Completion
import Letterpress.Proofs.Workshop.Alone
import Letterpress.Proofs.Text.Tidy
import Letterpress.Proofs.Hypertext.Nesting
import Letterpress.Proofs.Block.Row
import Letterpress.Proofs.Block.Marker
import Letterpress.Proofs.Block.Item
import Letterpress.Proofs.Block.Line
import Letterpress.Proofs.Block.Markdown
import Letterpress.Hypertext.Token
import Letterpress.Proofs.Hypertext.Token
import Letterpress.Proofs.Document.Head
import Letterpress.Proofs.Style.Sheet
import Letterpress.Proofs.Storage.Storeroom
import Letterpress.Proofs.Expression.Placeholder
import Letterpress.Proofs.Document.FrontMatter
import Letterpress.Proofs.Storage.Leftover
import Letterpress.Proofs.Catalogue.FallThrough
import Letterpress.Proofs.Catalogue.Confinement
import Letterpress.Proofs.Press.Browser
import Letterpress.Proofs.Press.Context
import Letterpress.Proofs.Press.Balance
import Letterpress.Proofs.Path
import Letterpress.Proofs.Generation.Listener
import Letterpress.Proofs.Context.Layers
import Letterpress.Proofs.Number.Whole
import Letterpress.Proofs.Context.Route
import Letterpress.Proofs.Structure.Reference
import Letterpress.Proofs.Structure.Substitution
import Letterpress.Proofs.Json.Scalar
import Letterpress.Proofs.Json.RoundTrip
import Letterpress.Proofs.Structure.Source
import Letterpress.Proofs.Options.Resolution
import Letterpress.Proofs.Options.Acceptance
import Letterpress.Proofs.Generation.Rejection
import Letterpress.Proofs.Helper.Sorting
import Letterpress.Proofs.Calendar.Epoch
import Letterpress.Proofs.Calendar.Iso
import Letterpress.Proofs.Helper.Dates
import Letterpress.Proofs.Number.Shortest
import Letterpress.Proofs.Number.Decimal
import Letterpress.Proofs.Number.Reading
import Letterpress.Proofs.Helper.Amounts
import Letterpress.Proofs.Helper.Totals
import Letterpress.Proofs.Measure
import Letterpress.Proofs.Generation.Owner
import Letterpress.Proofs.DocumentNumber
import Letterpress.Proofs.Pdf
