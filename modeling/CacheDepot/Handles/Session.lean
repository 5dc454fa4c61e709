import CacheDepot.Handles.Cache

/-!
# Sessions of loans

A session is a handle cache in use: the files, the loans that are out, each in a
named slot, and the number of handles opened so far. Files may be written and
unlinked in between; a handle that is open goes on seeing its file.
-/

namespace CacheDepot.Handles

open Files (FileError Handle Tree)

structure Session where
  files : Tree
  cache : Cache
  /-- The loans that are out, in ascending order of their slots. -/
  loans : List (String × Loan) := []
  /-- Handles opened so far; the next one gets this number. -/
  opened : Nat := 0

/-- What a user of a session can do. -/
inductive Operation where
  /-- Borrows a handle into a slot; what was in the slot is given back afterwards. -/
  | borrow (slot path : String)
  /-- Borrows, reads and gives back. -/
  | touch (path : String) (limit : Option Nat)
  | read (slot : String) (limit : Option Nat)
  | seek (slot : String) (position : Nat)
  | length (slot : String)
  | giveBack (slot : String)
  | flush
  | write (path : String) (content : Tree.Content)
  | unlink (path : String)

/-- What came of it. -/
inductive Outcome where
  | done
  | noLoan
  | borrowed (path : String)
  | octets (content : ByteArray)
  | position (value : Nat)
  | length (value : Nat)
  | refused (error : HandleError)
  | failed (error : FileError)

namespace Session

def loan? (slot : String) (s : Session) : Option Loan :=
  s.loans.lookup slot

/-- Puts a loan into a slot of an ascending list. -/
def putLoan (slot : String) (loan : Loan) : List (String × Loan) → List (String × Loan)
  | [] => [(slot, loan)]
  | (other, present) :: rest =>
      if other = slot then (slot, loan) :: rest
      else if slot < other then (slot, loan) :: (other, present) :: rest
      else (other, present) :: putLoan slot loan rest

def withoutLoan (slot : String) (loans : List (String × Loan)) : List (String × Loan) :=
  loans.filter fun entry => entry.1 ≠ slot

/-- Borrows a handle of a path, counting it if it is a new one. -/
def borrow (path : String) (s : Session) : Except HandleError Loan × Session :=
  match s.cache.lend s.files path s.opened with
  | (.ok loan, cache) =>
      (.ok loan, { s with
        cache := cache
        opened := if loan.handle.number = s.opened then s.opened + 1 else s.opened })
  | (.error error, cache) => (.error error, { s with cache := cache })

/-- Gives back the loan in a slot, if there is one. -/
def giveBack (slot : String) (s : Session) : Session :=
  match s.loan? slot with
  | some loan =>
      { s with cache := s.cache.giveBack loan, loans := withoutLoan slot s.loans }
  | none => s

def readLoan (loan : Loan) (limit : Option Nat) (s : Session) : Outcome × Loan × Session :=
  match loan.handle.read s.files limit with
  | (.ok octets, handle, files) =>
      (.octets octets, { loan with handle := handle }, { s with files := files })
  | (.error error, handle, files) =>
      (.failed error, { loan with handle := handle }, { s with files := files })

def perform (operation : Operation) (s : Session) : Outcome × Session :=
  match operation with
  | .borrow slot path =>
      match s.borrow path with
      | (.ok loan, next) =>
          let rest := next.giveBack slot
          (.borrowed loan.path, { rest with loans := putLoan slot loan rest.loans })
      | (.error error, next) => (.refused error, next)
  | .touch path limit =>
      match s.borrow path with
      | (.ok loan, next) =>
          let (outcome, read, after) := next.readLoan loan limit
          (outcome, { after with cache := after.cache.giveBack read })
      | (.error error, next) => (.refused error, next)
  | .read slot limit =>
      match s.loan? slot with
      | some loan =>
          let (outcome, read, after) := s.readLoan loan limit
          (outcome, { after with loans := putLoan slot read after.loans })
      | none => (.noLoan, s)
  | .seek slot position =>
      match s.loan? slot with
      | some loan =>
          match loan.handle.seek s.files position with
          | .ok handle =>
              (.position position,
                { s with loans := putLoan slot { loan with handle := handle } s.loans })
          | .error error => (.failed error, s)
      | none => (.noLoan, s)
  | .length slot =>
      match s.loan? slot with
      | some loan => (.length (loan.handle.length s.files), s)
      | none => (.noLoan, s)
  | .giveBack slot =>
      match s.loan? slot with
      | some _ => (.done, s.giveBack slot)
      | none => (.noLoan, s)
  | .flush => (.done, { s with cache := s.cache.flush })
  | .write path content => (.done, { s with files := s.files.place path content })
  | .unlink path => (.done, { s with files := s.files.unlink path })

/-- The outcomes of operations in order, and the session after them. -/
def run : List Operation → Session → List Outcome × Session
  | [], s => ([], s)
  | operation :: rest, s =>
      let (outcome, next) := s.perform operation
      let (outcomes, last) := run rest next
      (outcome :: outcomes, last)

/-- The session after every loan was given back, in ascending order of the slots. -/
def finish (s : Session) : Session :=
  { s with cache := s.loans.foldl (fun cache entry => cache.giveBack entry.2) s.cache, loans := [] }

end Session

end CacheDepot.Handles
