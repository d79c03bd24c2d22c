import Meteogram.Archive.Query
import Meteogram.Chart.Config
import Meteogram.Fetch
import Meteogram.Settings
import Meteogram.Table

/-!
# Views

A view renders charts and tables with one set of settings: from a dataset at hand, from a server, or
straight from an archive file.
-/

namespace Meteogram

/-- Whatever can go wrong in a view. -/
inductive ViewError where
  | chart (e : ChartError)
  | table (e : TableError)
  | fetch (e : FetchError)
  | archive (e : ArchiveError)
  | noArchivePath
  | unsupportedAggregate (period : Period)
deriving DecidableEq, Repr

def ViewError.message : ViewError → String
  | chart e => e.message
  | table e => e.message
  | fetch e => e.message
  | archive e => e.message
  | noArchivePath => "No archive path configured"
  | unsupportedAggregate period => "Archive aggregation by " ++ period.name ++ " is not supported"

structure View where
  settings : Settings
deriving DecidableEq, Repr, Inhabited

namespace View

def fetcher (v : View) : Fetcher := ⟨v.settings.baseUrl⟩

/-- The chart of a dataset, on the given axis or on the calendar of its own period. -/
def chart (v : View) (spec : ChartSpec) (dataset : Dataset) (axis : Option Axis) :
    Except ViewError ChartConfig :=
  (ChartConfig.ofDataset spec dataset axis v.settings.alignOptions).mapError .chart

/-- The table of a dataset. -/
def table (v : View) (spec : TableSpec) (dataset : Dataset) : Except ViewError Table :=
  (Table.ofDataset dataset spec v.settings.utcOffset).mapError .table

/-- The chart of a dataset that is fetched from an address or a path below the base. -/
def fetchChart (v : View) (exchange : Exchange) (spec : ChartSpec) (url : String)
    (axis : Option Axis) : Except ViewError ChartConfig := do
  let dataset ← (v.fetcher.fetchAny exchange url).mapError .fetch
  v.chart spec dataset axis

/-- The dataset that a query finds in the archive; `files` is what lies at a path. -/
def archiveDataset (v : View) (files : String → Option FileContent) (q : ArchiveQuery) :
    Except ViewError Dataset := do
  match v.settings.archivePath with
  | none => .error .noArchivePath
  | some path =>
    let archive ← (Archive.load ⟨path, files path⟩).mapError .archive
    match q.bucketing? v.settings.utcOffset with
    | none => .error (.unsupportedAggregate q.period)
    | some toBuckets =>
      let buckets : Except FrameError Frame := do toBuckets (← q.cut archive)
      let buckets ← buckets.mapError fun e => .archive (.processing e)
      (q.toDataset buckets).mapError .archive

/-- The chart of the dataset that a query finds in the archive. -/
def archiveChart (v : View) (files : String → Option FileContent) (spec : ChartSpec)
    (q : ArchiveQuery) (axis : Option Axis) : Except ViewError ChartConfig := do
  v.chart spec (← v.archiveDataset files q) axis

end View

end Meteogram
