/-!
# Division of a byte budget

A buffer cache divides its bytes among segments: part of them for directories of
entries, the rest for data. Every segment has room for at least one entry and one
byte of data, however small the budget is.
-/

namespace CacheDepot.Buffer

/-- Directory bytes of an entry. -/
def entrySize : Nat := 64

/-- Bytes that a segment takes for itself. -/
def segmentHeader : Nat := 256

/-- The most segments. -/
def maxSegments : Nat := 64

/-- The least number of bytes worth a segment of its own. -/
def minSegmentSize : Nat := 1048576

/-- One segment for a single thread; otherwise the largest power of two that leaves every segment
its least number of bytes, within bounds. -/
def segmentCount (total : Nat) (threadSafe : Bool) : Nat :=
  if threadSafe then Nat.pow 2 (Nat.log2 (min maxSegments (max 1 (total / minSegmentSize)))) else 1

structure Layout where
  segments : Nat
  entriesPerSegment : Nat
  dataPerSegment : Nat
  deriving DecidableEq, Repr

namespace Layout

/-- The division of `total` bytes of which `directory` are for the directories. -/
def divide (total directory : Nat) (threadSafe : Bool) : Layout :=
  let segments := segmentCount total threadSafe
  let entries := max 1 (directory / entrySize / segments)
  { segments := segments
    entriesPerSegment := entries
    dataPerSegment := max 1 ((total - entries * entrySize * segments) / segments) }

/-- Bytes that each segment reserves. -/
def reservation (layout : Layout) : Nat :=
  segmentHeader + layout.entriesPerSegment * entrySize

end Layout

end CacheDepot.Buffer
