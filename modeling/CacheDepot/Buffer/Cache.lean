import CacheDepot.Buffer.Layout
import CacheDepot.Buffer.Segment
import CacheDepot.Digest.SipHash
import CacheDepot.Memory.Arena

/-!
# The buffer cache

A cache of buffers that is divided into segments. A key belongs to the segment
that its hash selects. The directories and headers of the segments are reserved
in an arena, which lives as long as the cache.
-/

namespace CacheDepot.Buffer

open Memory (Allocator Arena Exhausted)

/-- A segment could not be reserved. -/
structure OutOfMemory where
  segment : Nat
  cause : Exhausted
  deriving DecidableEq, Repr

def OutOfMemory.message (error : OutOfMemory) : String :=
  s!"out of memory while allocating segment {error.segment}"

structure Cache where
  segments : Array Segment
  totalSize : UInt64
  directorySize : UInt64
  threadSafe : Bool
  hits : Nat := 0
  misses : Nat := 0
  arena : Arena

/-- Totals over the segments, and the counts of reads. -/
structure Stats where
  entries : Nat
  used : Nat
  hits : Nat
  misses : Nat
  deriving DecidableEq, Repr

/-- Reserves the segments that remain, `index` being the number of the next one. Stops at the first
one that does not fit. -/
def reserveSegments (bytes : UInt64) :
    (remaining index : Nat) → Arena → Allocator → Option OutOfMemory × Arena × Allocator
  | 0, _, arena, a => (none, arena, a)
  | remaining + 1, index, arena, a =>
      match arena.reserve bytes a with
      | .ok (larger, next) => reserveSegments bytes remaining (index + 1) larger next
      | .error error => (some ⟨index, error⟩, arena, a)

/-- The octets that a key is hashed by: its length in eight octets, then the key. -/
def hashInput (key : Key) : List UInt8 :=
  (List.range 8).map (fun i => UInt8.ofNat (key.size / Nat.pow 256 i)) ++ key.data.toList

def hash (key : Key) : UInt64 :=
  Digest.sipHash (hashInput key)

namespace Cache

/-- Builds a cache of `total` bytes in an arena, `directory` of them for the directories. If a
segment cannot be reserved, the arena ends. -/
def create (arena : Arena) (total directory : UInt64) (threadSafe : Bool) (a : Allocator) :
    Except OutOfMemory Cache × Allocator :=
  let layout := Layout.divide total.toNat directory.toNat threadSafe
  match reserveSegments (.ofNat layout.reservation) layout.segments 0 arena a with
  | (some error, partly, next) => (.error error, Arena.dropped ⟨0⟩ (partly.cleared next))
  | (none, full, next) =>
      let segment := Segment.empty layout.dataPerSegment layout.entriesPerSegment
      (.ok
        { segments := Array.replicate layout.segments segment
          totalSize := total
          directorySize := directory
          threadSafe := threadSafe
          arena := full }, next)

/-- The number of the segment that a key belongs to. The number of segments is a power of two. -/
def segmentIndex (key : Key) (cache : Cache) : Nat :=
  (hash key).toNat &&& (cache.segments.size - 1)

/-- The segment that a key belongs to. -/
def segment? (key : Key) (cache : Cache) : Option Segment :=
  cache.segments[cache.segmentIndex key]?

/-- Looks a buffer up and counts the outcome. -/
def get (key : Key) (cache : Cache) : Option Value × Cache :=
  match (cache.segment? key).bind (Segment.get? key) with
  | some value => (some value, { cache with hits := cache.hits + 1 })
  | none => (none, { cache with misses := cache.misses + 1 })

def contains (key : Key) (cache : Cache) : Bool :=
  match cache.segment? key with
  | some segment => segment.contains key
  | none => false

/-- Changes the segment that a key belongs to. -/
def changeSegment (key : Key) (act : Segment → Bool × Segment) (cache : Cache) : Bool × Cache :=
  match cache.segment? key with
  | some segment =>
      let (answer, next) := act segment
      (answer, { cache with
        segments := cache.segments.setIfInBounds (cache.segmentIndex key) next })
  | none => (false, cache)

/-- Stores a buffer; tells whether it fits a segment at all. -/
def set (key : Key) (value : Value) (cache : Cache) : Bool × Cache :=
  cache.changeSegment key (Segment.insert key value)

/-- Forgets a buffer; tells whether it was there. -/
def remove (key : Key) (cache : Cache) : Bool × Cache :=
  cache.changeSegment key (Segment.remove key)

def stats (cache : Cache) : Stats :=
  { entries := cache.segments.foldl (fun entries segment => entries + segment.size) 0
    used := cache.segments.foldl (fun used segment => used + segment.used) 0
    hits := cache.hits
    misses := cache.misses }

end Cache

/-- A use of a cache. -/
inductive Access where
  | set (key : Key) (value : Value)
  | get (key : Key)
  | contains (key : Key)
  | remove (key : Key)

/-- What came of it. -/
inductive Answer where
  | flag (value : Bool)
  | buffer (value : Option Value)
  deriving DecidableEq

namespace Access

def key : Access → Key
  | .set key _ => key
  | .get key => key
  | .contains key => key
  | .remove key => key

end Access

namespace Cache

def perform (access : Access) (cache : Cache) : Answer × Cache :=
  match access with
  | .set key value =>
      let (stored, next) := cache.set key value
      (.flag stored, next)
  | .get key =>
      let (value, next) := cache.get key
      (.buffer value, next)
  | .contains key => (.flag (cache.contains key), cache)
  | .remove key =>
      let (removed, next) := cache.remove key
      (.flag removed, next)

/-- The answers to accesses in order, and the cache after them. -/
def run : List Access → Cache → List Answer × Cache
  | [], cache => ([], cache)
  | access :: rest, cache =>
      let (answer, next) := cache.perform access
      let (answers, last) := run rest next
      (answer :: answers, last)

end Cache

end CacheDepot.Buffer
