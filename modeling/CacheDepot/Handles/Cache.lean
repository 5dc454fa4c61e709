import CacheDepot.Files.Handle
import CacheDepot.Memory.Arena

/-!
# The file handle cache

Open files that nobody uses are kept for the next one who opens the same path, up
to a number of them. Of several that fit, the one given back last is taken; when
there are too many, the one given back first is closed. A loan always starts at
the beginning of its file.
-/

namespace CacheDepot.Handles

open Files (FileError Handle Tree)
open Memory (Allocator Arena Exhausted)

/-- An open file with the path under which it was opened last. -/
structure Loan where
  path : String
  handle : Handle
  deriving DecidableEq, Repr

/-- Why a handle, or the cache itself, could not be had. -/
inductive HandleError where
  | arena (error : Exhausted)
  | cannotOpen (path : String) (error : FileError)
  /-- A kept handle could not be moved to the start of its file. -/
  | cannotRewind (error : FileError)
  deriving DecidableEq, Repr

namespace HandleError

def message : HandleError → String
  | .arena error => "arena error: " ++ error.message
  | .cannotOpen path error => "cannot open " ++ path ++ ": " ++ error.message
  | .cannotRewind error => "I/O error: " ++ error.message

/-- The message of the error behind this one. -/
def causeMessage : HandleError → String
  | .arena error => error.message
  | .cannotOpen _ error => error.message
  | .cannotRewind error => error.message

end HandleError

/-- Bytes that a handle cache reserves. -/
def bookkeeping : UInt64 := 256

structure Cache where
  /-- Most idle handles kept. -/
  maxHandles : UInt64
  threadSafe : Bool
  /-- The handles that nobody uses, the one given back first in front. -/
  idle : List Loan := []
  hits : Nat := 0
  misses : Nat := 0
  arena : Arena
  deriving DecidableEq, Repr

/-- Takes the last handle of a path out of a list. -/
def takeLast? (path : String) : List Loan → Option (Handle × List Loan)
  | [] => none
  | loan :: rest =>
      match takeLast? path rest with
      | some (handle, others) => some (handle, loan :: others)
      | none => if Files.samePath loan.path path then some (loan.handle, rest) else none

namespace Cache

/-- Builds a cache in an arena. If its bookkeeping cannot be reserved, the arena ends. -/
def create (arena : Arena) (maxHandles : UInt64) (threadSafe : Bool) (a : Allocator) :
    Except HandleError Cache × Allocator :=
  match arena.reserve bookkeeping a with
  | .error error => (.error (.arena error), arena.dropped a)
  | .ok (larger, next) =>
      (.ok { maxHandles := maxHandles, threadSafe := threadSafe, arena := larger }, next)

/-- Lends a handle of a path. `number` is the number of the handle if a new one is opened. A kept
handle that cannot be moved to the start of its file is closed. -/
def lend (files : Tree) (path : String) (number : Nat) (cache : Cache) :
    Except HandleError Loan × Cache :=
  match takeLast? path cache.idle with
  | some (handle, others) =>
      let next := { cache with idle := others, hits := cache.hits + 1 }
      match handle.seek files 0 with
      | .ok rewound => (.ok ⟨path, rewound⟩, next)
      | .error error => (.error (.cannotRewind error), next)
  | none =>
      let next := { cache with misses := cache.misses + 1 }
      match Handle.openAt files path number with
      | .ok handle => (.ok ⟨path, handle⟩, next)
      | .error error => (.error (.cannotOpen path error), next)

/-- Takes a loan back. The handles given back first are closed until no more are kept than
allowed. -/
def giveBack (loan : Loan) (cache : Cache) : Cache :=
  if cache.maxHandles = 0 then cache
  else
    let returned := cache.idle ++ [loan]
    { cache with idle := returned.drop (returned.length - cache.maxHandles.toNat) }

/-- Closes every handle that nobody uses. -/
def flush (cache : Cache) : Cache :=
  { cache with idle := [] }

end Cache

end CacheDepot.Handles
