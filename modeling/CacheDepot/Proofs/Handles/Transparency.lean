import CacheDepot.Proofs.Files.Resolution
import CacheDepot.Proofs.Handles.Custody

/-!
# Keeping handles, seen from outside

A session that keeps handles is compared with one that keeps none, over files that
nobody writes or unlinks. Opening a path gives the same in both, unless a handle is
kept for that path. A kept handle is not looked up again: it is lent even if the
spelling that is asked for leads nowhere, and it cannot be lent if it is on a pipe.
Two loans of one regular file read the same, whatever else is done in between.
-/

namespace CacheDepot.Handles

open Files (FileError Handle Tree)

/-! ## Lending without and with a kept handle -/

/-- What opening a path anew gives. -/
def openAnew (files : Tree) (path : String) (number : Nat) : Except HandleError Loan :=
  match files.resolve path with
  | .ok node => .ok ⟨path, ⟨number, node, 0⟩⟩
  | .error error => .error (.cannotOpen path error)

theorem resolve_of_openAnew {files : Tree} {path : String} {number : Nat} {loan : Loan}
    (opened : openAnew files path number = .ok loan) :
    files.resolve path = .ok loan.handle.node := by
  unfold openAnew at opened
  split at opened
  · next node resolves =>
      cases opened
      exact resolves
  · cases opened

/-- A loan without the number that tells it from others. -/
def Loan.view (loan : Loan) : String × Nat × Nat :=
  (loan.path, loan.handle.node, loan.handle.position)

theorem seek_start_of_pipe {files : Tree} {handle : Handle} (pipe : files.IsPipe handle.node) :
    handle.seek files 0 = .error .illegalSeek := by
  obtain ⟨queued, found⟩ := pipe
  rw [Handle.seek, found]

theorem seek_start {files : Tree} {handle : Handle} (noPipe : ¬ files.IsPipe handle.node) :
    handle.seek files 0 = .ok { handle with position := 0 } := by
  unfold Handle.seek
  split
  · next queued found => exact absurd ⟨queued, found⟩ noPipe
  · rfl

namespace Cache

variable {files : Tree} {path : String} {number : Nat} {cache : Cache}

theorem fst_lend_of_absent (absent : ∀ kept ∈ cache.idle, ¬ Files.samePath kept.path path) :
    (cache.lend files path number).1 = openAnew files path number := by
  rw [lend, takeLast?_eq_none.mpr absent]
  unfold openAnew Handle.openAt
  dsimp only
  cases files.resolve path <;> rfl

variable {handle : Handle} {others : List Loan}

theorem fst_lend_of_pipe (found : takeLast? path cache.idle = some (handle, others))
    (pipe : files.IsPipe handle.node) :
    (cache.lend files path number).1 = .error (.cannotRewind .illegalSeek) := by
  rw [lend, found]
  dsimp only
  rw [seek_start_of_pipe pipe]

theorem fst_lend_of_kept (found : takeLast? path cache.idle = some (handle, others))
    (noPipe : ¬ files.IsPipe handle.node) :
    (cache.lend files path number).1 = .ok ⟨path, { handle with position := 0 }⟩ := by
  rw [lend, found]
  dsimp only
  rw [seek_start noPipe]

end Cache

/-! ## Reading a regular file -/

/-- What a read at a position of a file gives. -/
def octetsAt (content : ByteArray) (position : Nat) (limit : Option Nat) : ByteArray :=
  content.extract position <|
    match limit with
    | some count => min content.size (position + count)
    | none => content.size

theorem read_regular {files : Tree} {handle : Handle} {content : ByteArray}
    (found : files.node? handle.node = some (.regular content)) (limit : Option Nat) :
    handle.read files limit =
      (.ok (octetsAt content handle.position limit),
        { handle with
          position := handle.position + (octetsAt content handle.position limit).size },
        files) := by
  unfold Handle.read
  split
  · next nothing =>
      have empty : octetsAt content handle.position limit = ByteArray.empty := by
        subst nothing
        rw [← ByteArray.size_eq_zero_iff]
        simp only [octetsAt, ByteArray.size_extract]
        omega
      rw [empty]
      rfl
  · rw [found]
    rfl

/-! ## Operations that leave the files -/

namespace Operation

/-- Nothing is written or unlinked. -/
def Steady : Operation → Prop
  | .write _ _ => False
  | .unlink _ => False
  | _ => True

/-- What is out in a slot is not replaced and not given back. -/
def Spares (slot : String) : Operation → Prop
  | .borrow other _ => other ≠ slot
  | .giveBack other => other ≠ slot
  | _ => True

end Operation

namespace Session

theorem fst_borrow (path : String) (s : Session) :
    (s.borrow path).1 = (s.cache.lend s.files path s.opened).1 := by
  unfold borrow
  split <;> next answer => rw [answer]

theorem files_of_borrow {path : String} {s next : Session} {answer : Except HandleError Loan}
    (borrowed : s.borrow path = (answer, next)) : next.files = s.files := by
  unfold borrow at borrowed
  split at borrowed <;> (cases borrowed; rfl)

theorem loans_of_borrow {path : String} {s next : Session} {answer : Except HandleError Loan}
    (borrowed : s.borrow path = (answer, next)) : next.loans = s.loans := by
  unfold borrow at borrowed
  split at borrowed <;> (cases borrowed; rfl)

theorem files_giveBack (slot : String) (s : Session) : (s.giveBack slot).files = s.files := by
  unfold giveBack
  split <;> rfl

theorem files_readLoan (loan : Loan) (limit : Option Nat) (s : Session) :
    (s.readLoan loan limit).2.2.files = (loan.handle.read s.files limit).2.2 := by
  obtain ⟨outcome, read⟩ := readLoan_eq loan limit s
  rw [read]

theorem alike_perform {operation : Operation} (steady : operation.Steady) (s : Session) :
    s.files.Alike (s.perform operation).2.files := by
  cases operation with
  | borrow slot path =>
      simp only [perform]
      split
      · next loan next borrowed =>
          dsimp only
          rw [files_giveBack, files_of_borrow borrowed]
          exact Tree.Alike.refl _
      · next error next borrowed => exact files_of_borrow borrowed ▸ Tree.Alike.refl _
  | touch path limit =>
      simp only [perform]
      split
      · next loan next borrowed =>
          dsimp only
          rw [files_readLoan, ← files_of_borrow borrowed]
          exact Tree.alike_read next.files loan.handle limit
      · next error next borrowed => exact files_of_borrow borrowed ▸ Tree.Alike.refl _
  | read slot limit =>
      simp only [perform]
      split
      · next loan found =>
          dsimp only
          rw [files_readLoan]
          exact Tree.alike_read s.files loan.handle limit
      · exact Tree.Alike.refl _
  | seek slot position =>
      simp only [perform]
      split
      · split <;> exact Tree.Alike.refl _
      · exact Tree.Alike.refl _
  | length slot =>
      simp only [perform]
      split <;> exact Tree.Alike.refl _
  | giveBack slot =>
      simp only [perform]
      split
      · exact files_giveBack slot s ▸ Tree.Alike.refl _
      · exact Tree.Alike.refl _
  | flush => exact Tree.Alike.refl _
  | write path content | unlink path => cases steady

theorem alike_run {operations : List Operation} (steady : ∀ op ∈ operations, op.Steady)
    (s : Session) : s.files.Alike (run operations s).2.files := by
  induction operations generalizing s with
  | nil => exact Tree.Alike.refl _
  | cons operation rest ih =>
      obtain ⟨first, later⟩ := List.forall_mem_cons.mp steady
      exact (alike_perform first s).trans (ih later _)

/-- Every file that was opened is still where its path leads. -/
theorem resolve_of_mem_openings {operations : List Operation}
    (steady : ∀ op ∈ operations, op.Steady) {s : Session} {opening : Opening}
    (openingMem : opening ∈ openings operations s) :
    s.files.resolve opening.path = .ok opening.node := by
  induction operations generalizing s with
  | nil => cases openingMem
  | cons operation rest ih =>
      obtain ⟨first, later⟩ := List.forall_mem_cons.mp steady
      rcases List.mem_append.mp openingMem with now | afterwards
      · have opened := Option.mem_toList.mp now
        obtain ⟨path, -, opened⟩ := Option.bind_eq_some_iff.mp opened
        unfold opening? at opened
        split at opened
        · next absent resolves =>
            cases opened
            exact resolves
        · cases opened
      · rw [(alike_perform first s).resolve_eq]
        exact ih later afterwards

/-! ## The position of a loan in a regular file -/

/-- The position that the loan in a slot has in a file after an operation. -/
def cursor (slot : String) (content : ByteArray) (position : Nat) : Operation → Nat
  | .read other limit =>
      if other = slot then position + (octetsAt content position limit).size else position
  | .seek other target =>
      if other = slot then if target < Handle.positionCount then target else position
      else position
  | _ => position

/-- The loan in a slot is on a regular file with that content, at that position. -/
def Holds (slot : String) (content : ByteArray) (position : Nat) (s : Session) : Prop :=
  ∃ loan, s.loan? slot = some loan ∧ loan.handle.position = position ∧
    s.files.node? loan.handle.node = some (.regular content)

theorem loan?_giveBack {slot other : String} (apart : other ≠ slot) (s : Session) :
    (s.giveBack other).loan? slot = s.loan? slot := by
  unfold giveBack
  split
  · exact Named.lookup_filter_ne (Ne.symm apart)
  · rfl

theorem loan?_perform_borrow_of_ne {slot other : String} (apart : other ≠ slot) (path : String)
    (s : Session) : (s.perform (.borrow other path)).2.loan? slot = s.loan? slot := by
  simp only [perform]
  split
  · next loan next borrowed =>
      dsimp only
      rw [loan?, lookup_putLoan, if_neg (Ne.symm apart)]
      change (next.giveBack other).loan? slot = _
      rw [loan?_giveBack apart, loan?, loans_of_borrow borrowed, loan?]
  · next error next borrowed => exact congrArg (List.lookup slot) (loans_of_borrow borrowed)

theorem loan?_perform_touch (slot path : String) (limit : Option Nat) (s : Session) :
    (s.perform (.touch path limit)).2.loan? slot = s.loan? slot := by
  simp only [perform]
  split
  · next loan next borrowed =>
      obtain ⟨outcome, read⟩ := readLoan_eq loan limit next
      simp only [read]
      rw [loan?, loans_of_borrow borrowed, loan?]
  · next error next borrowed => exact congrArg (List.lookup slot) (loans_of_borrow borrowed)

namespace Holds

variable {slot : String} {content : ByteArray} {position : Nat} {s : Session}

/-- Reading gives what the file has at the position of the loan. -/
theorem fst_perform_read (holds : Holds slot content position s) (limit : Option Nat) :
    (s.perform (.read slot limit)).1 = .octets (octetsAt content position limit) := by
  obtain ⟨loan, found, rfl, onFile⟩ := holds
  simp only [Session.perform, found, readLoan, read_regular onFile]

/-- Reading moves on by as many octets as it gives. -/
theorem read (holds : Holds slot content position s) (limit : Option Nat) :
    Holds slot content (position + (octetsAt content position limit).size)
      (s.perform (.read slot limit)).2 := by
  obtain ⟨loan, found, rfl, onFile⟩ := holds
  simp only [Session.perform, found, readLoan, read_regular onFile]
  exact ⟨_, lookup_putLoan.trans (if_pos rfl), rfl, onFile⟩

/-- A position that is out of range is refused. -/
theorem seek (holds : Holds slot content position s) (target : Nat) :
    Holds slot content (if target < Handle.positionCount then target else position)
      (s.perform (.seek slot target)).2 := by
  obtain ⟨loan, found, rfl, onFile⟩ := holds
  simp only [Session.perform, found, Handle.seek, onFile]
  by_cases inRange : target < Handle.positionCount
  · simp only [inRange, if_true]
    exact ⟨_, lookup_putLoan.trans (if_pos rfl), rfl, onFile⟩
  · simp only [inRange, if_false]
    exact ⟨loan, found, rfl, onFile⟩

/-- An operation that leaves the loan in the slot leaves its position. -/
theorem stay (holds : Holds slot content position s) {operation : Operation}
    (steady : operation.Steady)
    (same : (s.perform operation).2.loan? slot = s.loan? slot) :
    Holds slot content position (s.perform operation).2 := by
  obtain ⟨loan, found, atPosition, onFile⟩ := holds
  exact ⟨loan, same.trans found, atPosition, (alike_perform steady s).node?_regular onFile⟩

theorem perform (holds : Holds slot content position s) {operation : Operation}
    (steady : operation.Steady) (spares : operation.Spares slot) :
    Holds slot content (cursor slot content position operation) (s.perform operation).2 := by
  cases operation with
  | borrow other path => exact holds.stay steady (loan?_perform_borrow_of_ne spares path s)
  | touch path limit => exact holds.stay steady (loan?_perform_touch slot path limit s)
  | read other limit =>
      by_cases here : other = slot
      · subst here
        rw [cursor, if_pos rfl]
        exact holds.read limit
      · rw [cursor, if_neg here]
        exact holds.stay steady (loan?_perform_read (Ne.symm here) limit s)
  | seek other target =>
      by_cases here : other = slot
      · subst here
        rw [cursor, if_pos rfl]
        exact holds.seek target
      · rw [cursor, if_neg here]
        exact holds.stay steady (loan?_perform_seek (Ne.symm here) target s)
  | length other =>
      refine holds.stay steady ?_
      simp only [Session.perform]
      split <;> rfl
  | giveBack other =>
      refine holds.stay steady ?_
      simp only [Session.perform]
      split
      · exact loan?_giveBack spares s
      · rfl
  | flush => exact holds.stay steady rfl
  | write path content | unlink path => cases steady

theorem run (holds : Holds slot content position s) {operations : List Operation}
    (steady : ∀ op ∈ operations, op.Steady) (spares : ∀ op ∈ operations, op.Spares slot) :
    Holds slot content (operations.foldl (cursor slot content) position)
      (Session.run operations s).2 := by
  induction operations generalizing s position with
  | nil => exact holds
  | cons operation rest ih =>
      obtain ⟨firstSteady, laterSteady⟩ := List.forall_mem_cons.mp steady
      obtain ⟨firstSpares, laterSpares⟩ := List.forall_mem_cons.mp spares
      exact ih (holds.perform firstSteady firstSpares) laterSteady laterSpares

end Holds

/-- What is borrowed on a regular file is held at its start. -/
theorem holds_of_borrow {path : String} {s : Session} {loan : Loan} {content : ByteArray}
    (borrowed : (s.borrow path).1 = .ok loan)
    (onFile : s.files.node? loan.handle.node = some (.regular content)) (slot : String) :
    Holds slot content 0 (s.perform (.borrow slot path)).2 := by
  have pair : s.borrow path = (.ok loan, (s.borrow path).2) := Prod.ext borrowed rfl
  refine ⟨loan, loan?_perform_borrow pair slot, (start_of_borrow pair).2, ?_⟩
  have steady : (Operation.borrow slot path).Steady := trivial
  exact (alike_perform steady s).node?_regular onFile

theorem perform_touch {path : String} {s : Session} {loan : Loan} {content : ByteArray}
    (borrowed : (s.borrow path).1 = .ok loan)
    (onFile : s.files.node? loan.handle.node = some (.regular content)) (limit : Option Nat) :
    (s.perform (.touch path limit)).1 = .octets (octetsAt content 0 limit) := by
  have pair : s.borrow path = (.ok loan, (s.borrow path).2) := Prod.ext borrowed rfl
  rw [← files_of_borrow pair] at onFile
  have read := read_regular onFile limit
  rw [(start_of_borrow pair).2] at read
  simp only [perform]
  rw [pair]
  simp only [readLoan]
  rw [read]

/-! ## Sessions over files that stay -/

/-- A session in which nothing was done yet. -/
def unused (files : Tree) (maxHandles : UInt64) (threadSafe : Bool) (arena : Memory.Arena) :
    Session :=
  { files := files, cache :=
    { maxHandles := maxHandles, threadSafe := threadSafe, arena := arena } }

/-- The files are the ones given, and each handle that is kept is on the file that a spelling of
its path leads to. -/
structure Over (files : Tree) (s : Session) : Prop where
  alike : files.Alike s.files
  spelled : ∀ kept ∈ s.cache.idle, ∃ spelling, Files.samePath spelling kept.path ∧
    files.resolve spelling = .ok kept.handle.node

theorem over_run (files : Tree) (maxHandles : UInt64) (threadSafe : Bool) (arena : Memory.Arena)
    {operations : List Operation} (steady : ∀ op ∈ operations, op.Steady) :
    Over files (run operations (unused files maxHandles threadSafe arena)).2 where
  alike := alike_run steady (unused files maxHandles threadSafe arena)
  spelled kept keptMem := by
    have custody := (Custody.start files maxHandles threadSafe arena).run operations
    obtain ⟨first, found, same, node⟩ :=
      custody.known kept (List.mem_append_right _ (List.mem_append_right _ keptMem))
    refine ⟨first.path, ?_, ?_⟩
    · rw [Files.samePath_iff] at same ⊢
      exact same.symm
    · rw [node]
      exact resolve_of_mem_openings steady (List.mem_of_getElem? found)

theorem idle_run_zero (files : Tree) (threadSafe : Bool) (arena : Memory.Arena)
    (operations : List Operation) :
    (run operations (unused files 0 threadSafe arena)).2.cache.idle = [] := by
  have custody := (Custody.start files 0 threadSafe arena).run operations
  exact List.eq_nil_of_length_eq_zero (Nat.le_zero.mp custody.bounded)

namespace Over

variable {files : Tree} {s : Session} {path : String}

/-- A path that no handle is kept for is opened anew. -/
theorem fst_borrow_of_absent (based : Over files s)
    (absent : ∀ kept ∈ s.cache.idle, ¬ Files.samePath kept.path path) :
    (s.borrow path).1 = openAnew files path s.opened := by
  rw [fst_borrow, Cache.fst_lend_of_absent absent, openAnew, openAnew, based.alike.resolve_eq]

variable {handle : Handle} {others : List Loan}

theorem fst_borrow_of_pipe (based : Over files s)
    (found : takeLast? path s.cache.idle = some (handle, others))
    (pipe : files.IsPipe handle.node) :
    (s.borrow path).1 = .error (.cannotRewind .illegalSeek) := by
  rw [fst_borrow]
  exact Cache.fst_lend_of_pipe found ((based.alike.isPipe_iff _).mp pipe)

theorem fst_borrow_of_kept (based : Over files s)
    (found : takeLast? path s.cache.idle = some (handle, others))
    (noPipe : ¬ files.IsPipe handle.node) :
    (s.borrow path).1 = .ok ⟨path, { handle with position := 0 }⟩ := by
  rw [fst_borrow]
  exact Cache.fst_lend_of_kept found (mt (based.alike.isPipe_iff _).mpr noPipe)

theorem exists_spelling (based : Over files s)
    (found : takeLast? path s.cache.idle = some (handle, others)) :
    ∃ spelling, Files.samePath spelling path ∧ files.resolve spelling = .ok handle.node := by
  obtain ⟨kept, rfl, same, perm⟩ := takeLast?_eq_some found
  obtain ⟨spelling, spelled, leads⟩ :=
    based.spelled kept (perm.mem_iff.mpr List.mem_cons_self)
  rw [Files.samePath_iff] at same spelled
  exact ⟨spelling, Files.samePath_iff.mpr (spelled.trans same), leads⟩

/-- What is lent for a path is the file that the path leads to, if it leads anywhere. -/
theorem view_of_borrow (based : Over files s) {node : Nat}
    (resolves : files.resolve path = .ok node) {loan : Loan}
    (borrowed : (s.borrow path).1 = .ok loan) : loan.view = (path, node, 0) := by
  cases found : takeLast? path s.cache.idle with
  | none =>
      rw [based.fst_borrow_of_absent (takeLast?_eq_none.mp found), openAnew, resolves] at borrowed
      cases borrowed
      rfl
  | some taken =>
      obtain ⟨handle, others⟩ := taken
      obtain ⟨spelling, same, leads⟩ := based.exists_spelling found
      by_cases pipe : files.IsPipe handle.node
      · cases (based.fst_borrow_of_pipe found pipe).symm.trans borrowed
      · cases (based.fst_borrow_of_kept found pipe).symm.trans borrowed
        rw [← Tree.eq_of_resolve_of_samePath same leads resolves]
        rfl

end Over

/-! ## With and without keeping handles -/

/-- A path is opened with the same result whether handles are kept or not, unless a handle is kept
for it that is on a pipe, or the path leads nowhere itself. A kept handle is lent again without
looking the path up, and lost to a pipe. If a path is opened with and without keeping handles, both
loans are of one file, and they read the same if it is a regular file. -/
theorem borrow_agrees_without_keeping (files : Tree) (maxHandles : UInt64) (threadSafe : Bool)
    (arena : Memory.Arena) (operations : List Operation) (steady : ∀ op ∈ operations, op.Steady)
    (path : String) :
    let keeping := (run operations (unused files maxHandles threadSafe arena)).2
    let plain := (run operations (unused files 0 threadSafe arena)).2
    (plain.borrow path).1 = openAnew files path plain.opened ∧
    ((∀ handle others, takeLast? path keeping.cache.idle = some (handle, others) →
        ¬ files.IsPipe handle.node ∧ ∃ node, files.resolve path = .ok node) →
      (keeping.borrow path).1.map Loan.view = (plain.borrow path).1.map Loan.view) ∧
    (∀ handle others, takeLast? path keeping.cache.idle = some (handle, others) →
      (∃ spelling, Files.samePath spelling path ∧ files.resolve spelling = .ok handle.node) ∧
      (files.IsPipe handle.node →
        (keeping.borrow path).1 = .error (.cannotRewind .illegalSeek)) ∧
      (¬ files.IsPipe handle.node →
        (keeping.borrow path).1 = .ok ⟨path, { handle with position := 0 }⟩)) ∧
    ∀ loan other, (keeping.borrow path).1 = .ok loan → (plain.borrow path).1 = .ok other →
      loan.view = other.view ∧
      ∀ content, files.node? loan.handle.node = some (.regular content) →
        (∀ limit, (keeping.perform (.touch path limit)).1 =
          (plain.perform (.touch path limit)).1) ∧
        ∀ slot more, (∀ op ∈ more, op.Steady) → (∀ op ∈ more, op.Spares slot) →
          ∀ limit,
            ((run more (keeping.perform (.borrow slot path)).2).2.perform (.read slot limit)).1 =
              ((run more (plain.perform (.borrow slot path)).2).2.perform
                (.read slot limit)).1 := by
  intro keeping plain
  have based : Over files keeping := over_run files maxHandles threadSafe arena steady
  have plainBased : Over files plain := over_run files 0 threadSafe arena steady
  have anew : (plain.borrow path).1 = openAnew files path plain.opened := by
    apply plainBased.fst_borrow_of_absent
    rw [idle_run_zero files threadSafe arena operations]
    exact fun kept keptMem => absurd keptMem List.not_mem_nil
  refine ⟨anew, ?_, ?_, ?_⟩
  · intro fits
    rw [anew, openAnew]
    cases found : takeLast? path keeping.cache.idle with
    | none =>
        rw [based.fst_borrow_of_absent (takeLast?_eq_none.mp found), openAnew]
        cases files.resolve path <;> rfl
    | some taken =>
        obtain ⟨noPipe, node, resolves⟩ := fits taken.1 taken.2 found
        have borrowed := based.fst_borrow_of_kept found noPipe
        have view := based.view_of_borrow resolves borrowed
        rw [borrowed, resolves]
        exact congrArg Except.ok view
  · intro handle others found
    exact ⟨based.exists_spelling found, based.fst_borrow_of_pipe found,
      based.fst_borrow_of_kept found⟩
  · intro loan other borrowed borrowedPlain
    have resolves := resolve_of_openAnew (anew.symm.trans borrowedPlain)
    have view := based.view_of_borrow resolves borrowed
    have viewPlain := plainBased.view_of_borrow resolves borrowedPlain
    have node : loan.handle.node = other.handle.node := congrArg (fun seen => seen.2.1) view
    refine ⟨view.trans viewPlain.symm, ?_⟩
    intro content onFile
    have here := based.alike.node?_regular onFile
    have there := plainBased.alike.node?_regular (node ▸ onFile)
    constructor
    · intro limit
      rw [perform_touch borrowed here, perform_touch borrowedPlain there]
    · intro slot more moreSteady spares limit
      have holds := (holds_of_borrow borrowed here slot).run moreSteady spares
      have holdsPlain := (holds_of_borrow borrowedPlain there slot).run moreSteady spares
      rw [holds.fst_perform_read, holdsPlain.fst_perform_read]

/-- A file is opened again under another spelling, read a little, and read to its end. -/
theorem borrow_agrees_without_keeping_of_dots :
    let files := Tree.empty.place "d/f" (.bytes ⟨#[1, 2, 3]⟩)
    let operations : List Operation := [.borrow "a" "d/f", .giveBack "a"]
    let keeping := (run operations (unused files 1 true ⟨0⟩)).2
    let plain := (run operations (unused files 0 true ⟨0⟩)).2
    (takeLast? "d/./f" keeping.cache.idle).isSome ∧
    (keeping.borrow "d/./f").1.map Loan.view = (plain.borrow "d/./f").1.map Loan.view ∧
    ((run [.read "b" (some 1)] (keeping.perform (.borrow "b" "d/./f")).2).2.perform
        (.read "b" none)).1 =
      ((run [.read "b" (some 1)] (plain.perform (.borrow "b" "d/./f")).2).2.perform
        (.read "b" none)).1 := by
  intro files operations keeping plain
  have steady : ∀ op ∈ operations, op.Steady := by simp [operations, Operation.Steady]
  obtain ⟨-, agree, -, reads⟩ :=
    borrow_agrees_without_keeping files 1 true ⟨0⟩ operations steady "d/./f"
  have found : takeLast? "d/./f" keeping.cache.idle = some (⟨0, 3, 0⟩, []) := by decide +kernel
  have resolves : files.resolve "d/./f" = .ok 3 := by decide +kernel
  have onFile : files.node? 3 = some (.regular ⟨#[1, 2, 3]⟩) := rfl
  have borrowed : (keeping.borrow "d/./f").1 = .ok ⟨"d/./f", ⟨0, 3, 0⟩⟩ := by decide +kernel
  have borrowedPlain : (plain.borrow "d/./f").1 = .ok ⟨"d/./f", ⟨1, 3, 0⟩⟩ := by decide +kernel
  refine ⟨by rw [found]; rfl, agree ?_, ?_⟩
  · intro handle others taken
    cases found.symm.trans taken
    refine ⟨?_, 3, resolves⟩
    rintro ⟨queued, pipe⟩
    cases onFile.symm.trans pipe
  · refine ((reads _ _ borrowed borrowedPlain).2 _ onFile).2 "b" _ ?_ ?_ none
    · simp [Operation.Steady]
    · simp [Operation.Spares]

/-- A pipe that was given back is not opened again, though it is if nothing is kept. A slash after
the name of a file that was given back is accepted, though it is refused if nothing is kept. -/
theorem keeping_handles_shows :
    let used (path : String) : List Operation := [.borrow "a" path, .giveBack "a"]
    let pipe := Tree.empty.place "p" .pipe
    let file := Tree.empty.place "f" (.bytes ⟨#[1, 2, 3]⟩)
    ((run (used "p") (unused pipe 1 true ⟨0⟩)).2.borrow "p").1 =
      .error (.cannotRewind .illegalSeek) ∧
    ((run (used "p") (unused pipe 0 true ⟨0⟩)).2.borrow "p").1 = .ok ⟨"p", ⟨1, 2, 0⟩⟩ ∧
    ((run (used "f") (unused file 1 true ⟨0⟩)).2.borrow "f/").1 = .ok ⟨"f/", ⟨0, 2, 0⟩⟩ ∧
    ((run (used "f") (unused file 0 true ⟨0⟩)).2.borrow "f/").1 =
      .error (.cannotOpen "f/" .notADirectory) := by
  decide +kernel

end Session

end CacheDepot.Handles
