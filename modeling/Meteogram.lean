import Meteogram.Archive.RunningTotal
import Meteogram.Chart.ConfigText
import Meteogram.Chart.Preset
import Meteogram.Chart.Tooltip
import Meteogram.Compass
import Meteogram.Dataset.Edit
import Meteogram.Table.Html
import Meteogram.View
import Meteogram.Proofs.Calendar.Gregorian
import Meteogram.Proofs.Calendar.Instant
import Meteogram.Proofs.Calendar.Bucket
import Meteogram.Proofs.Calendar.Partition
import Meteogram.Proofs.Calendar.Written
import Meteogram.Proofs.Calendar.Shapes
import Meteogram.Proofs.Align.Walk
import Meteogram.Proofs.Align.Aligner
import Meteogram.Proofs.Align.Faults
import Meteogram.Proofs.Align.Labels
import Meteogram.Proofs.Align.Values
import Meteogram.Proofs.Align.Columns
import Meteogram.Proofs.Align.Window
import Meteogram.Proofs.Align.Independence
import Meteogram.Proofs.Align.Slots
import Meteogram.Proofs.Align.Epochs
import Meteogram.Proofs.Record
import Meteogram.Proofs.Record.Written
import Meteogram.Proofs.Text.Digits
import Meteogram.Proofs.RunningTotal
import Meteogram.Proofs.Annotation
import Meteogram.Proofs.Chart.Written
import Meteogram.Proofs.Chart.Assembly
import Meteogram.Proofs.Chart.RunningTotal
import Meteogram.Proofs.Chart.Labels
import Meteogram.Proofs.Alike
import Meteogram.Proofs.Json.Number
import Meteogram.Proofs.Json.Decode
import Meteogram.Proofs.Dataset.Written
import Meteogram.Proofs.Archive.Records
import Meteogram.Proofs.Archive.Group
import Meteogram.Proofs.Archive.Aggregate
import Meteogram.Proofs.Archive.Chart
import Meteogram.Proofs.Archive.BuiltIn
import Meteogram.Proofs.Archive.Cut
import Meteogram.Proofs.Archive.RunningTotal
import Meteogram.Proofs.Archive.Total
import Meteogram.Proofs.Archive.Extreme
import Meteogram.Proofs.Archive.Daily
import Meteogram.Proofs.Archive.Monthly
import Meteogram.Proofs.Archive.Times
import Meteogram.Proofs.Archive.Rows
import Meteogram.Proofs.Archive.RawRows
import Meteogram.Proofs.Table.Html
import Meteogram.Proofs.Fetch
