import CacheDepot.Buffer.Cache

/-!
# Batches

A batch is one access, or the same use of many keys that differ by a number at
their end. Of the latter only the numbers are told that the cache answered yes to.
-/

namespace CacheDepot.Buffer

/-- What is done with a key. -/
inductive Use where
  | set (value : Value)
  | get
  | contains
  | remove

namespace Use

def on (key : Key) : Use → Access
  | .set value => .set key value
  | .get => .get key
  | .contains => .contains key
  | .remove => .remove key

end Use

namespace Answer

/-- A flag that is set, or a buffer that was found. -/
def isYes : Answer → Bool
  | .flag value => value
  | .buffer value => value.isSome

end Answer

inductive Batch where
  | single (access : Access)
  /-- The keys are `start` followed by a number in decimal, from `first` on to below `stop`. -/
  | numbered (use : Use) (start : Key) (first stop : Nat)

/-- What came of a batch. -/
inductive Yield where
  | single (answer : Answer)
  /-- The numbers whose keys were answered yes to. -/
  | numbers (found : List Nat)
  deriving DecidableEq

namespace Cache

/-- The numbers out of a list whose keys are answered yes to. -/
def performNumbered (use : Use) (start : Key) : List Nat → Cache → List Nat × Cache
  | [], cache => ([], cache)
  | number :: rest, cache =>
      let (answer, next) := cache.perform (use.on (start ++ (toString number).toUTF8))
      let (found, last) := performNumbered use start rest next
      (if answer.isYes then number :: found else found, last)

def performBatch (batch : Batch) (cache : Cache) : Yield × Cache :=
  match batch with
  | .single access =>
      let (answer, next) := cache.perform access
      (.single answer, next)
  | .numbered use start first stop =>
      let (found, next) := performNumbered use start (List.range' first (stop - first)) cache
      (.numbers found, next)

end Cache

end CacheDepot.Buffer
