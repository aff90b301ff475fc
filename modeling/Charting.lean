import Charting.Inspect
import Charting.Proofs.BarPlacement
import Charting.Proofs.BoundFields
import Charting.Proofs.Description.Order
import Charting.Proofs.Events
import Charting.Proofs.FreeOptions
import Charting.Proofs.Layer.Lifecycle
import Charting.Proofs.Layer.Passes
import Charting.Proofs.Layer.Redrawing
import Charting.Proofs.NameMap
import Charting.Proofs.Options.Access
import Charting.Proofs.Options.Exchange
import Charting.Proofs.Options.Grouping
import Charting.Proofs.Options.Paths
import Charting.Proofs.Options.Resolving
import Charting.Proofs.Plot.ColumnSettled
import Charting.Proofs.Plot.ColumnTags
import Charting.Proofs.Plot.ColumnTicks
import Charting.Proofs.Plot.LabelSlot
import Charting.Proofs.RegistryHistory
import Charting.Proofs.Rows
import Charting.Proofs.RuleTrials
import Charting.Proofs.Scale
import Charting.Proofs.Settings
import Charting.Proofs.TagOrientation
import Charting.Proofs.TagSettings
import Charting.Registry
