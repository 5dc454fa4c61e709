import CacheDepot.Buffer.Dictionary

/-!
# Segments

A segment keeps buffers up to a number of bytes and a number of entries. To make
room it forgets the buffers that were stored first. Reading a buffer does not
change what is forgotten next; storing a buffer under a key that is present does,
since the key moves to the young end.
-/

namespace CacheDepot.Buffer

structure Segment where
  /-- Most bytes of keys and values together. -/
  capacity : Nat
  maxEntries : Nat
  entries : Dictionary := {}
  /-- The keys present, the one stored first in front. -/
  order : List Key := []
  /-- Bytes of the keys and values present. -/
  used : Nat := 0
  deriving DecidableEq

namespace Segment

/-- A segment without entries. -/
def empty (capacity maxEntries : Nat) : Segment :=
  { capacity := capacity, maxEntries := maxEntries }

def get? (key : Key) (s : Segment) : Option Value :=
  s.entries.get? key

def contains (key : Key) (s : Segment) : Bool :=
  s.entries.contains key

def size (s : Segment) : Nat :=
  s.entries.size

/-- Forgets a key; tells whether it was present. -/
def remove (key : Key) (s : Segment) : Bool × Segment :=
  match s.entries.get? key with
  | some value =>
      (true, { s with
        entries := s.entries.erase key
        order := s.order.filter (· ≠ key)
        used := s.used - cost key value })
  | none => (false, s)

/-- Whether an entry of that many bytes does not fit beside the ones present. -/
def isFull (bytes : Nat) (s : Segment) : Bool :=
  s.capacity < s.used + bytes || s.maxEntries ≤ s.entries.size

/-- Forgets the key in front of the queue; `rest` is the queue behind it. -/
def evict (oldest : Key) (rest : List Key) (s : Segment) : Segment :=
  match s.entries.get? oldest with
  | some value =>
      { s with
        entries := s.entries.erase oldest
        order := rest
        used := s.used - cost oldest value }
  | none => { s with order := rest }

/-- Forgets the oldest keys until an entry of that many bytes fits; the list is the queue. -/
def makeRoom (bytes : Nat) : List Key → Segment → Segment
  | [], s => s
  | oldest :: rest, s =>
      if s.isFull bytes then makeRoom bytes rest (s.evict oldest rest) else s

/-- Adds an entry at the young end. -/
def push (key : Key) (value : Value) (s : Segment) : Segment :=
  { s with
    entries := s.entries.insert key value
    order := s.order ++ [key]
    used := s.used + cost key value }

/-- Stores a buffer in place of the one under its key; tells whether it fits the segment at all. -/
def insert (key : Key) (value : Value) (s : Segment) : Bool × Segment :=
  let without := (s.remove key).2
  if s.capacity < cost key value then (false, without)
  else (true, (makeRoom (cost key value) without.order without).push key value)

end Segment

end CacheDepot.Buffer
