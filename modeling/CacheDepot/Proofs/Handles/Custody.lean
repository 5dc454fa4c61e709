import CacheDepot.Proofs.Handles.Lending
import CacheDepot.Proofs.Handles.Slots
import Mathlib.Data.List.Nodup

/-!
# Custody of handles

Every handle that a session opens is in one place: out in one slot, kept once, or
closed for good. The history of a session tells under which path a handle was opened
and which file it found; a handle never leaves that file, and it is lent only under
spellings of that path.

In between, a handle may be in hand: it is taken out of one place before it is put
into the next one. What is said of a session is said together with the loans in hand.
-/

namespace CacheDepot.Handles

open Files (Tree)
open List (Perm Subperm)
open scoped List

/-- A file that was opened, and the path that led to it then. -/
structure Opening where
  path : String
  node : Nat

/-- The handle was opened under that path, up to spelling, and is on the file found then. -/
def Loan.From (made : List Opening) (loan : Loan) : Prop :=
  ∃ first, made[loan.handle.number]? = some first ∧ Files.samePath loan.path first.path ∧
    loan.handle.node = first.node

namespace Loan.From

variable {made : List Opening} {loan : Loan}

theorem append (known : loan.From made) (later : List Opening) : loan.From (made ++ later) := by
  obtain ⟨first, found, same, node⟩ := known
  obtain ⟨inRange, -⟩ := List.getElem?_eq_some_iff.mp found
  exact ⟨first, (List.getElem?_append_left inRange).trans found, same, node⟩

theorem number_lt (known : loan.From made) : loan.handle.number < made.length := by
  obtain ⟨first, found, -, -⟩ := known
  exact (List.getElem?_eq_some_iff.mp found).1

/-- A handle stays the same one under another spelling and at another position. -/
theorem congr (known : loan.From made) {used : Loan}
    (number : used.handle.number = loan.handle.number) (node : used.handle.node = loan.handle.node)
    (path : Files.samePath used.path loan.path) : used.From made := by
  obtain ⟨first, found, same, onNode⟩ := known
  rw [Files.samePath_iff] at path same
  exact ⟨first, number ▸ found, Files.samePath_iff.mpr (path.trans same), node.trans onNode⟩

end Loan.From

namespace Session

/-! ## Files opened -/

/-- The file that asking for a path opens, if none is kept for the path. -/
def opening? (path : String) (s : Session) : Option Opening :=
  match takeLast? path s.cache.idle, s.files.resolve path with
  | none, .ok node => some ⟨path, node⟩
  | _, _ => none

/-- The path that an operation asks for. -/
def asked? : Operation → Option String
  | .borrow _ path => some path
  | .touch path _ => some path
  | _ => none

/-- The file that an operation opens. -/
def opened? (operation : Operation) (s : Session) : Option Opening :=
  (asked? operation).bind fun path => s.opening? path

/-- The files that operations open, in order. -/
def openings : List Operation → Session → List Opening
  | [], _ => []
  | operation :: rest, s =>
      (s.opened? operation).toList ++ openings rest (s.perform operation).2

/-- Reading moves the handle of a loan and may take from the files, and does nothing else. -/
theorem readLoan_eq (loan : Loan) (limit : Option Nat) (s : Session) :
    ∃ outcome, s.readLoan loan limit =
      (outcome, { loan with handle := (loan.handle.read s.files limit).2.1 },
        { s with files := (loan.handle.read s.files limit).2.2 }) := by
  unfold readLoan
  generalize loan.handle.read s.files limit = answer
  rcases answer with ⟨error | octets, handle, files⟩
  · exact ⟨_, rfl⟩
  · exact ⟨_, rfl⟩

/-! ## Custody -/

/-- All open files: those in hand, those out in slots and those kept. -/
def handles (hand : List Loan) (s : Session) : List Loan :=
  hand ++ (s.loans.map Prod.snd ++ s.cache.idle)

/-- How often a handle is out in a slot. -/
def lent (number : Nat) (s : Session) : Nat :=
  (s.loans.map Prod.snd).countP fun loan => loan.handle.number = number

/-- How often a handle is kept. -/
def kept (number : Nat) (s : Session) : Nat :=
  s.cache.idle.countP fun loan => loan.handle.number = number

theorem countP_handles (number : Nat) (hand : List Loan) (s : Session) :
    (s.handles hand).countP (fun loan => loan.handle.number = number) =
      hand.countP (fun loan => loan.handle.number = number) + (s.lent number + s.kept number) := by
  rw [handles, List.countP_append, List.countP_append, lent, kept]

/-- What a session and the loans in hand keep to. `made` lists the files opened so far, and `most`
says how many times each handle may occur; handles that are yet to be opened must have a place. -/
structure Custody (maxHandles : UInt64) (most : Nat → Nat) (made : List Opening) (hand : List Loan)
    (s : Session) : Prop where
  opened : s.opened = made.length
  slots : (s.loans.map Prod.fst).Pairwise (· < ·)
  allowed : s.cache.maxHandles = maxHandles
  bounded : s.cache.idle.length ≤ maxHandles.toNat
  known : ∀ loan ∈ s.handles hand, loan.From made
  once : ∀ number,
    (s.handles hand).countP (fun loan => loan.handle.number = number) ≤ most number
  room : ∀ number, made.length ≤ number → 1 ≤ most number

namespace Custody

variable {maxHandles : UInt64} {most : Nat → Nat} {made : List Opening} {hand : List Loan}
  {s next : Session}

theorem start (files : Tree) (maxHandles : UInt64) (threadSafe : Bool) (arena : Memory.Arena) :
    Custody maxHandles (fun _ => 1) [] [] { files := files, cache :=
      { maxHandles := maxHandles, threadSafe := threadSafe, arena := arena } } where
  opened := rfl
  slots := List.Pairwise.nil
  allowed := rfl
  bounded := Nat.zero_le _
  known := by simp [handles]
  once := by simp [handles]
  room _ _ := Nat.le_refl 1

/-- Handles that move between places, or are closed, stay in custody. -/
theorem move (custody : Custody maxHandles most made hand s) {rest : List Loan}
    (fewer : Subperm (next.handles rest) (s.handles hand)) (opened : next.opened = s.opened)
    (slots : (next.loans.map Prod.fst).Pairwise (· < ·))
    (allowed : next.cache.maxHandles = s.cache.maxHandles)
    (bounded : next.cache.idle.length ≤ maxHandles.toNat) :
    Custody maxHandles most made rest next where
  opened := opened.trans custody.opened
  slots := slots
  allowed := allowed.trans custody.allowed
  bounded := bounded
  known loan loanMem := custody.known loan (fewer.subset loanMem)
  once number := Nat.le_trans (fewer.countP_le _) (custody.once number)
  room := custody.room

theorem distinct (custody : Custody maxHandles most made hand s) :
    (s.loans.map Prod.fst).Nodup := by
  refine custody.slots.imp ?_
  rintro slot other before rfl
  exact String.lt_irrefl slot before

theorem files (custody : Custody maxHandles most made hand s) (files : Tree) :
    Custody maxHandles most made hand { s with files := files } :=
  custody.move (Subperm.refl _) rfl custody.slots rfl custody.bounded

variable {loan : Loan} {slot : String}

/-- A loan in hand may be used: it stays on its file and under its path. -/
theorem use (custody : Custody maxHandles most made (loan :: hand) s) (used : Loan)
    (number : used.handle.number = loan.handle.number) (node : used.handle.node = loan.handle.node)
    (path : Files.samePath used.path loan.path) :
    Custody maxHandles most made (used :: hand) s where
  opened := custody.opened
  slots := custody.slots
  allowed := custody.allowed
  bounded := custody.bounded
  known other otherMem := by
    rcases List.mem_cons.mp otherMem with rfl | later
    · exact (custody.known loan List.mem_cons_self).congr number node path
    · exact custody.known other (List.mem_cons_of_mem loan later)
  once other := by
    have before := custody.once other
    rw [countP_handles, List.countP_cons] at before ⊢
    rwa [number]
  room := custody.room

/-- Takes a loan out of its slot. -/
theorem take (custody : Custody maxHandles most made hand s) (found : s.loan? slot = some loan) :
    Custody maxHandles most made (loan :: hand) { s with loans := withoutLoan slot s.loans } := by
  have perm := (Named.perm_of_lookup custody.distinct found).map Prod.snd
  refine custody.move ?_ rfl ?_ rfl custody.bounded
  · apply Perm.subperm
    calc loan :: hand ++ ((withoutLoan slot s.loans).map Prod.snd ++ s.cache.idle)
      _ ~ hand ++ (loan :: ((withoutLoan slot s.loans).map Prod.snd ++ s.cache.idle)) :=
          List.perm_middle.symm
      _ ~ hand ++ (s.loans.map Prod.snd ++ s.cache.idle) :=
          (perm.append_right s.cache.idle).symm.append_left hand
  · exact custody.slots.sublist (List.filter_sublist.map Prod.fst)

/-- What is in a slot may be closed. -/
theorem vacate (custody : Custody maxHandles most made hand s) (slot : String) :
    Custody maxHandles most made hand { s with loans := withoutLoan slot s.loans } := by
  have fewer : (withoutLoan slot s.loans).Sublist s.loans := List.filter_sublist
  refine custody.move ?_ rfl (custody.slots.sublist (fewer.map Prod.fst)) rfl custody.bounded
  exact (((fewer.map Prod.snd).append_right s.cache.idle).append_left hand).subperm

/-- Puts a loan in hand into a slot whose own loan is gone. -/
theorem put
    (custody :
      Custody maxHandles most made (loan :: hand) { s with loans := withoutLoan slot s.loans })
    (slots : (s.loans.map Prod.fst).Pairwise (· < ·)) :
    Custody maxHandles most made hand { s with loans := putLoan slot loan s.loans } := by
  have perm := (perm_putLoan slot loan slots).map Prod.snd
  refine custody.move ?_ rfl (ascending_putLoan slots) rfl custody.bounded
  apply Perm.subperm
  calc hand ++ ((putLoan slot loan s.loans).map Prod.snd ++ s.cache.idle)
    _ ~ hand ++ (loan :: ((withoutLoan slot s.loans).map Prod.snd ++ s.cache.idle)) :=
        (perm.append_right s.cache.idle).append_left hand
    _ ~ loan :: hand ++ ((withoutLoan slot s.loans).map Prod.snd ++ s.cache.idle) :=
        List.perm_middle

/-- Hands a loan in hand back to the cache. -/
theorem keep (custody : Custody maxHandles most made (loan :: hand) s) :
    Custody maxHandles most made hand { s with cache := s.cache.giveBack loan } := by
  refine custody.move ?_ rfl custody.slots (Cache.maxHandles_giveBack loan s.cache) ?_
  · have fewer := (Cache.idle_giveBack_sublist loan s.cache).append_left (s.loans.map Prod.snd)
    have last : hand ++ (s.loans.map Prod.snd ++ (s.cache.idle ++ [loan])) ~
        loan :: hand ++ (s.loans.map Prod.snd ++ s.cache.idle) := by
      simpa using List.perm_append_singleton loan (hand ++ (s.loans.map Prod.snd ++ s.cache.idle))
    exact (fewer.append_left hand).subperm.trans last.subperm
  · have bounded := custody.bounded
    rw [← custody.allowed] at bounded ⊢
    exact Cache.length_idle_giveBack loan bounded

/-- What is in a slot is handed back, whatever else is in hand. -/
theorem giveBack (custody : Custody maxHandles most made hand s) (slot : String) :
    Custody maxHandles most made hand (s.giveBack slot) := by
  unfold Session.giveBack
  split
  · next found => exact (custody.take found).keep
  · exact custody

/-- Takes a loan that is kept. -/
theorem fetch (custody : Custody maxHandles most made hand s) {others : List Loan} (cache : Cache)
    (perm : s.cache.idle ~ loan :: others) (idle : cache.idle = others)
    (allowed : cache.maxHandles = s.cache.maxHandles) :
    Custody maxHandles most made (loan :: hand) { s with cache := cache } := by
  subst idle
  refine custody.move ?_ rfl custody.slots allowed ?_
  · apply Perm.subperm
    calc loan :: hand ++ (s.loans.map Prod.snd ++ cache.idle)
      _ ~ hand ++ (loan :: (s.loans.map Prod.snd ++ cache.idle)) := List.perm_middle.symm
      _ ~ hand ++ (s.loans.map Prod.snd ++ loan :: cache.idle) :=
          List.perm_middle.symm.append_left hand
      _ ~ hand ++ (s.loans.map Prod.snd ++ s.cache.idle) :=
          (perm.symm.append_left _).append_left hand
  · have lengths := perm.length_eq
    have bounded := custody.bounded
    rw [List.length_cons] at lengths
    change cache.idle.length ≤ _
    omega

/-- A loan in hand may be closed. -/
theorem close (custody : Custody maxHandles most made (loan :: hand) s) :
    Custody maxHandles most made hand s :=
  custody.move (List.sublist_cons_self _ _).subperm rfl custody.slots rfl custody.bounded

/-- No handle has a number yet to be given out. -/
theorem countP_eq_zero (custody : Custody maxHandles most made hand s) {number : Nat}
    (unused : made.length ≤ number) :
    (s.handles hand).countP (fun loan => loan.handle.number = number) = 0 := by
  rw [List.countP_eq_zero]
  intro loan loanMem same
  have known := (custody.known loan loanMem).number_lt
  rw [of_decide_eq_true same] at known
  omega

/-- A file that is opened gets the next number and is in hand. -/
theorem fresh (custody : Custody maxHandles most made hand s) (first : Opening) :
    Custody maxHandles most (made ++ [first]) (⟨first.path, ⟨s.opened, first.node, 0⟩⟩ :: hand)
      { s with opened := s.opened + 1 } where
  opened := by
    rw [List.length_append, ← custody.opened]
    rfl
  slots := custody.slots
  allowed := custody.allowed
  bounded := custody.bounded
  known loan loanMem := by
    rcases List.mem_cons.mp loanMem with rfl | old
    · refine ⟨first, ?_, samePath_self _, rfl⟩
      rw [custody.opened]
      exact List.getElem?_concat_length
    · exact (custody.known loan old).append [first]
  once number := by
    have before := custody.once number
    change (_ :: s.handles hand).countP _ ≤ most number
    rw [List.countP_cons]
    by_cases same : s.opened = number
    · have unused : made.length ≤ number := custody.opened ▸ Nat.le_of_eq same
      have room := custody.room number unused
      rw [custody.countP_eq_zero unused, if_pos (by simpa using same)]
      omega
    · rw [if_neg (by simpa using same)]
      omega
  room number later := custody.room number (by rw [List.length_append] at later; omega)

/-- Asking for a path puts a loan in hand, or closes or leaves what is kept. -/
theorem borrow (custody : Custody maxHandles most made [] s) (path : String) :
    Custody maxHandles most (made ++ (s.opening? path).toList) (s.borrow path).1.toOption.toList
      (s.borrow path).2 := by
  have lending := Cache.lending s.files path s.opened s.cache
  unfold Session.borrow opening?
  generalize s.cache.lend s.files path s.opened = answer at lending
  cases lending with
  | @again kept others found perm same =>
      have known : kept.From made := custody.known kept (by simp [handles, perm.mem_iff])
      have old : kept.handle.number ≠ s.opened := by
        rw [custody.opened]
        exact Nat.ne_of_lt known.number_lt
      have back : Files.samePath path kept.path := by
        rw [Files.samePath_iff] at same ⊢
        exact same.symm
      simp only [found, if_neg old, Option.toList_none, List.append_nil]
      have inHand :=
        custody.fetch { s.cache with idle := others, hits := s.cache.hits + 1 } perm rfl rfl
      exact inHand.use ⟨path, { kept.handle with position := 0 }⟩ rfl rfl back
  | @lost kept others error found perm =>
      simp only [found, Option.toList_none, List.append_nil]
      have inHand :=
        custody.fetch { s.cache with idle := others, hits := s.cache.hits + 1 } perm rfl rfl
      exact inHand.close
  | @opened node absent resolves =>
      simp only [absent, resolves, if_true, Option.toList_some]
      have counted : Custody maxHandles most made []
          { s with cache := { s.cache with misses := s.cache.misses + 1 } } :=
        custody.move (Subperm.refl _) rfl custody.slots rfl custody.bounded
      exact counted.fresh ⟨path, node⟩
  | @refused error absent fails =>
      simp only [absent, fails, Option.toList_none, List.append_nil]
      exact custody.move (Subperm.refl _) rfl custody.slots rfl custody.bounded

theorem perform_of_unasked (custody : Custody maxHandles most made [] s) {operation : Operation}
    (unasked : asked? operation = none) :
    Custody maxHandles most made [] (s.perform operation).2 := by
  cases operation with
  | borrow slot path => cases unasked
  | touch path limit => cases unasked
  | read slot limit =>
      simp only [Session.perform]
      split
      · next loan found =>
          have same : Files.samePath loan.path loan.path := samePath_self _
          obtain ⟨outcome, read⟩ := readLoan_eq loan limit s
          obtain ⟨number, node⟩ := read_same_handle s.files loan.handle limit
          simp only [read]
          have inHand := (custody.take found).use
            { loan with handle := (loan.handle.read s.files limit).2.1 } number node same
          exact (inHand.put custody.slots).files _
      · exact custody
  | seek slot position =>
      simp only [Session.perform]
      split
      · next loan found =>
          have same : Files.samePath loan.path loan.path := samePath_self _
          split
          · next handle sought =>
              rw [eq_of_seek sought]
              have inHand := (custody.take found).use
                { loan with handle := { loan.handle with position := position } } rfl rfl same
              exact inHand.put custody.slots
          · exact custody
      · exact custody
  | length slot =>
      simp only [Session.perform]
      split <;> exact custody
  | giveBack slot =>
      simp only [Session.perform]
      split
      · exact custody.giveBack slot
      · exact custody
  | flush =>
      refine custody.move ?_ rfl custody.slots rfl (Nat.zero_le _)
      exact ((List.nil_sublist s.cache.idle).append_left (s.loans.map Prod.snd)).subperm
  | write path content => exact custody.files _
  | unlink path => exact custody.files _

theorem perform (custody : Custody maxHandles most made [] s) (operation : Operation) :
    Custody maxHandles most (made ++ (s.opened? operation).toList) [] (s.perform operation).2 := by
  cases operation with
  | borrow slot path =>
      have asked := custody.borrow path
      change Custody maxHandles most (made ++ (s.opening? path).toList) [] _
      simp only [Session.perform]
      generalize s.borrow path = answer at asked ⊢
      rcases answer with ⟨error | loan, next⟩
      · exact asked
      · have returned := asked.giveBack slot
        exact (returned.vacate slot).put returned.slots
  | touch path limit =>
      have asked := custody.borrow path
      change Custody maxHandles most (made ++ (s.opening? path).toList) [] _
      simp only [Session.perform]
      generalize s.borrow path = answer at asked ⊢
      rcases answer with ⟨error | loan, next⟩
      · exact asked
      · obtain ⟨outcome, read⟩ := readLoan_eq loan limit next
        obtain ⟨number, node⟩ := read_same_handle next.files loan.handle limit
        simp only [read]
        have inHand := Custody.use asked
          { loan with handle := (loan.handle.read next.files limit).2.1 } number node
          (samePath_self _)
        exact (inHand.files _).keep
  | read slot limit | seek slot position | length slot | giveBack slot | flush
  | write path content | unlink path =>
      change Custody maxHandles most (made ++ []) [] _
      rw [List.append_nil]
      exact custody.perform_of_unasked rfl

theorem run (custody : Custody maxHandles most made [] s) (operations : List Operation) :
    Custody maxHandles most (made ++ openings operations s) [] (Session.run operations s).2 := by
  induction operations generalizing s made with
  | nil =>
      rw [openings, List.append_nil]
      exact custody
  | cons operation rest ih =>
      rw [openings, ← List.append_assoc]
      exact ih (custody.perform operation)

/-- A handle that is in no place stays in none. -/
theorem closed (custody : Custody maxHandles most made [] s) {number : Nat}
    (known : number < made.length) (notLent : s.lent number = 0) (notKept : s.kept number = 0)
    (more : List Operation) :
    (Session.run more s).2.lent number = 0 ∧ (Session.run more s).2.kept number = 0 := by
  have shut : Custody maxHandles (fun other => if other = number then 0 else most other) made []
      s := { custody with
    once := by
      intro other
      split
      · next same =>
          rw [countP_handles, same, notLent, notKept]
          exact Nat.le_refl 0
      · exact custody.once other
    room := by
      intro other later
      rw [if_neg (by omega)]
      exact custody.room other later }
  have places := (shut.run more).once number
  rw [countP_handles, if_pos rfl] at places
  omega

end Custody

/-! ## Every handle in one place -/

theorem loan?_perform_read {slot other : String} (apart : other ≠ slot) (limit : Option Nat)
    (s : Session) : (s.perform (.read slot limit)).2.loan? other = s.loan? other := by
  simp only [perform]
  split
  · next loan found =>
      obtain ⟨outcome, read⟩ := readLoan_eq loan limit s
      simp only [read, loan?, lookup_putLoan, if_neg apart]
  · rfl

theorem loan?_perform_seek {slot other : String} (apart : other ≠ slot) (position : Nat)
    (s : Session) : (s.perform (.seek slot position)).2.loan? other = s.loan? other := by
  simp only [perform]
  split
  · split
    · simp only [loan?, lookup_putLoan, if_neg apart]
    · rfl
  · rfl

/-- What is borrowed into a slot is what asking for the path gives. -/
theorem loan?_perform_borrow {path : String} {s next : Session} {loan : Loan}
    (borrowed : s.borrow path = (.ok loan, next)) (slot : String) :
    (s.perform (.borrow slot path)).2.loan? slot = some loan := by
  simp only [perform, borrowed, loan?, lookup_putLoan, if_true]

/-- A loan starts at the beginning of its file. -/
theorem start_of_borrow {path : String} {s next : Session} {loan : Loan}
    (borrowed : s.borrow path = (.ok loan, next)) :
    loan.path = path ∧ loan.handle.position = 0 := by
  have lending := Cache.lending s.files path s.opened s.cache
  unfold borrow at borrowed
  generalize s.cache.lend s.files path s.opened = answer at lending borrowed
  cases lending with
  | again | opened =>
      cases borrowed
      exact ⟨rfl, rfl⟩
  | lost | refused => cases borrowed

theorem number_ne_of_slots {s : Session} (once : ∀ number, s.lent number ≤ 1)
    {slot other : String} {loan another : Loan} (found : s.loan? slot = some loan)
    (foundOther : s.loan? other = some another) (apart : slot ≠ other) :
    loan.handle.number ≠ another.handle.number := by
  intro same
  have distinct : (s.loans.map fun entry => entry.2.handle.number).Nodup := by
    rw [List.nodup_iff_count_le_one]
    intro number
    have atMost := once number
    rw [lent, List.countP_map] at atMost
    rw [List.count, List.countP_map]
    exact atMost
  have one := List.inj_on_of_nodup_map distinct (Named.mem_of_lookup found)
    (Named.mem_of_lookup foundOther) same
  exact apart (congrArg Prod.fst one)

namespace Custody

variable {maxHandles : UInt64} {made : List Opening} {s next : Session}

theorem places_le_one (custody : Custody maxHandles (fun _ => 1) made [] s) (number : Nat) :
    s.lent number + s.kept number ≤ 1 := by
  have once := custody.once number
  rwa [countP_handles, List.countP_nil, Nat.zero_add] at once

theorem one_place (custody : Custody maxHandles (fun _ => 1) made [] s) {number : Nat}
    (known : number < made.length) :
    (s.lent number = 1 ∧ s.kept number = 0) ∨ (s.lent number = 0 ∧ s.kept number = 1) ∨
      ∀ more, (Session.run more s).2.lent number = 0 ∧ (Session.run more s).2.kept number = 0 := by
  have once := custody.places_le_one number
  by_cases gone : s.lent number = 0 ∧ s.kept number = 0
  · exact Or.inr (Or.inr (custody.closed known gone.1 gone.2))
  · omega

/-- Whoever borrows a handle reads the file that the handle was first opened on, from the start. -/
theorem reads_first (custody : Custody maxHandles (fun _ => 1) made [] s) {path : String}
    {loan : Loan} (borrowed : s.borrow path = (.ok loan, next)) :
    ∃ first, (made ++ (s.opening? path).toList)[loan.handle.number]? = some first ∧
      Files.samePath path first.path ∧ loan.handle.node = first.node ∧
      ∀ tree, (loan.handle.read tree none).1 = tree.contentAt first.node := by
  obtain ⟨asked, atStart⟩ := start_of_borrow borrowed
  have inHand := custody.borrow path
  rw [borrowed] at inHand
  obtain ⟨first, found, same, node⟩ := inHand.known loan List.mem_cons_self
  refine ⟨first, found, asked ▸ same, node, ?_⟩
  intro tree
  rw [← node]
  exact read_from_start atStart tree

end Custody

/-- Every handle opened is out in one slot, or kept once, or closed for good, so that no two slots
share one, and using a slot leaves the loans in others as they were. No more handles are kept than
allowed. A handle is found only under its first path, on its first file, and whoever borrows it
reads that file from the start. -/
theorem run_handles_in_one_place (files : Tree) (maxHandles : UInt64) (threadSafe : Bool)
    (arena : Memory.Arena) (operations : List Operation) :
    let unused : Session :=
      { files := files, cache :=
        { maxHandles := maxHandles, threadSafe := threadSafe, arena := arena } }
    let made := openings operations unused
    let s := (run operations unused).2
    s.opened = made.length ∧
    (∀ number, number < made.length →
      (s.lent number = 1 ∧ s.kept number = 0) ∨ (s.lent number = 0 ∧ s.kept number = 1) ∨
        ∀ more, (run more s).2.lent number = 0 ∧ (run more s).2.kept number = 0) ∧
    (∀ number, made.length ≤ number → s.lent number = 0 ∧ s.kept number = 0) ∧
    (∀ slot other loan another, s.loan? slot = some loan → s.loan? other = some another →
      slot ≠ other → loan.handle.number ≠ another.handle.number) ∧
    (∀ slot other, other ≠ slot →
      (∀ limit, (s.perform (.read slot limit)).2.loan? other = s.loan? other) ∧
      ∀ position, (s.perform (.seek slot position)).2.loan? other = s.loan? other) ∧
    s.cache.idle.length ≤ maxHandles.toNat ∧
    (∀ loan, loan ∈ s.cache.idle ∨ (∃ slot, s.loan? slot = some loan) → loan.From made) ∧
    ∀ path loan next, s.borrow path = (.ok loan, next) →
      (∀ slot, (s.perform (.borrow slot path)).2.loan? slot = some loan) ∧
      loan.path = path ∧ loan.handle.position = 0 ∧
      ∃ first, (made ++ (s.opening? path).toList)[loan.handle.number]? = some first ∧
        Files.samePath path first.path ∧ loan.handle.node = first.node ∧
        ∀ tree, (loan.handle.read tree none).1 = tree.contentAt first.node := by
  intro unused made s
  have custody : Custody maxHandles (fun _ => 1) made [] s :=
    (Custody.start files maxHandles threadSafe arena).run operations
  refine ⟨custody.opened, ?_, ?_, ?_, ?_, custody.bounded, ?_, ?_⟩
  · intro number known
    exact custody.one_place known
  · intro number unopened
    have none := custody.countP_eq_zero unopened
    rw [countP_handles] at none
    omega
  · intro slot other loan another found foundOther apart
    refine number_ne_of_slots ?_ found foundOther apart
    intro number
    exact Nat.le_trans (Nat.le_add_right _ _) (custody.places_le_one number)
  · intro slot other apart
    exact ⟨fun limit => loan?_perform_read apart limit s,
      fun position => loan?_perform_seek apart position s⟩
  · rintro loan (kept | ⟨slot, found⟩)
    · exact custody.known loan (List.mem_append_right (s.loans.map Prod.snd) kept)
    · have slotMem : loan ∈ s.loans.map Prod.snd :=
        List.mem_map.mpr ⟨(slot, loan), Named.mem_of_lookup found, rfl⟩
      exact custody.known loan (List.mem_append_left s.cache.idle slotMem)
  · intro path loan next borrowed
    obtain ⟨asked, atStart⟩ := start_of_borrow borrowed
    exact ⟨loan?_perform_borrow borrowed, asked, atStart, custody.reads_first borrowed⟩

end Session

end CacheDepot.Handles
