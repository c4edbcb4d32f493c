import RangeSort.Log
import RangeSort.Partition.Grouping
import RangeSort.Partition.Quantile
import RangeSort.Partition.Reservoir
import RangeSort.Table.Preview
import RangeSort.Table.Storage

/-! The steps of a distributed sort, with what they report: one task samples and stores
the boundaries, the others load them and route. -/

namespace RangeSort

/-- A count in a message. -/
def countText (n : Nat) : String :=
  String.ofList (natChars n)

namespace SortKey

def determineBoundaries (key : SortKey) (records : List Row) (parts : Nat) : Logged (List Row) := do
  let found ← .ofExcept ((key.boundaries records parts).mapError .config)
  let (bounds, size) := (countText found.length, countText records.length)
  .say .debug <|
    if records.isEmpty then "Empty sample, no partition boundaries"
    else s!"Computed {bounds} partition boundaries from {size} sampled records"
  return found

/-- Boundaries from a sample of at most `size` records. -/
def sampleBoundaries {σ : Type} (source : MoveSource σ) (state : σ) (key : SortKey)
    (records : List Row) (size parts : Nat) : Logged (List Row) := do
  let sample := (Reservoir.sample source records size state).1
  .say .debug s!"Sampled {countText sample.length} of {countText records.length} records"
  key.determineBoundaries sample parts

/-- What is stored of boundaries, and where. -/
def boundaryTable (key : SortKey) (settings : Settings) (boundaries : List Row) :
    Logged (String × Table) := do
  let location ← .ofExcept ((settings.required Settings.boundariesKey).mapError .config)
  let t ← .ofExcept (Table.ofRows key.schema boundaries)
  .say .trace s!"Boundary table:\n{preview t.fields boundaries}"
  return (location, t)

/-- Stores boundaries at the configured location. -/
def writeBoundaries {σ : Type} [Storage σ] (key : SortKey) (settings : Settings) (store : σ)
    (boundaries : List Row) : Logged Unit × σ :=
  let planned := key.boundaryTable settings boundaries
  let written := match planned.result with
    | .ok (location, t) => Storage.write store location t
    | .error e => (.error e, store)
  (do
    let (location, _) ← planned
    .ofExcept written.1
    .say .debug s!"Wrote {countText boundaries.length} partition boundaries to {location}",
    written.2)

end SortKey

namespace Router

/-- Loads the boundaries from the configured location. Whatever is wrong with them is an
error of the configuration. -/
def configure {σ : Type} [Storage σ] [TypeEquality] (settings : Settings) (key : SortKey)
    (store : σ) : Logged Router := do
  let location ← .ofExcept ((settings.required Settings.boundariesKey).mapError .config)
  let boundaries ← .ofExcept ((Storage.readTable store location key.schema).mapError fun e =>
    .config (.unreadable location e))
  let router ← .ofExcept ((ofBoundaries key boundaries).mapError fun e =>
    .config (.corrupt location e))
  .say .info s!"Loaded {countText boundaries.length} partition boundaries from {location}"
  return router

end Router

end RangeSort
