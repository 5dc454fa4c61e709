import CacheDepot.Handles.Session
import CacheDepot.Proofs.Named

/-!
# Slots of loans

Slots are kept in ascending order, one loan each. A loan that is put into a slot
takes the place of what was there and leaves the other slots as they were.
-/

namespace CacheDepot.Handles

open List (Perm)
open Named (lookup_cons filter_ne_of_absent)

namespace Session

variable {slot other : String} {loan : Loan} {loans : List (String × Loan)}

theorem lookup_putLoan :
    (putLoan slot loan loans).lookup other =
      if other = slot then some loan else loans.lookup other := by
  induction loans with
  | nil => exact lookup_cons slot loan
  | cons first rest ih =>
      obtain ⟨present, old⟩ := first
      unfold putLoan
      split
      · next same =>
          subst same
          rw [lookup_cons, lookup_cons]
          split <;> rfl
      · next different =>
          split
          · exact lookup_cons slot loan
          · rw [lookup_cons, lookup_cons, ih]
            by_cases here : other = present
            · subst here
              simp [different]
            · simp [here]

theorem perm_putLoan (slot : String) (loan : Loan)
    (ascending : (loans.map Prod.fst).Pairwise (· < ·)) :
    Perm (putLoan slot loan loans) ((slot, loan) :: withoutLoan slot loans) := by
  induction loans with
  | nil => exact Perm.refl _
  | cons first rest ih =>
      obtain ⟨present, old⟩ := first
      obtain ⟨least, restAscending⟩ := List.pairwise_cons.mp ascending
      unfold putLoan
      split
      · next same =>
          subst same
          have fresh : present ∉ rest.map Prod.fst :=
            fun presentMem => String.lt_irrefl present (least present presentMem)
          rw [withoutLoan, List.filter_cons_of_neg (by simp), filter_ne_of_absent fresh]
      · next different =>
          split
          · next before =>
              have absent : slot ∉ ((present, old) :: rest).map Prod.fst := by
                intro slotMem
                rcases List.mem_cons.mp slotMem with same | later
                · exact different same.symm
                · exact String.lt_irrefl slot (String.lt_trans before (least slot later))
              rw [withoutLoan, filter_ne_of_absent absent]
          · rw [withoutLoan, List.filter_cons_of_pos (by simpa using different), ← withoutLoan]
            exact ((ih restAscending).cons _).trans (Perm.swap _ _ _)

theorem ascending_putLoan (ascending : (loans.map Prod.fst).Pairwise (· < ·)) :
    ((putLoan slot loan loans).map Prod.fst).Pairwise (· < ·) := by
  induction loans with
  | nil => exact List.pairwise_singleton _ _
  | cons first rest ih =>
      obtain ⟨present, old⟩ := first
      obtain ⟨least, restAscending⟩ := List.pairwise_cons.mp ascending
      unfold putLoan
      split
      · next same =>
          subst same
          exact ascending
      · next different =>
          split
          · next before =>
              refine List.pairwise_cons.mpr ⟨?_, ascending⟩
              intro later laterMem
              rcases List.mem_cons.mp laterMem with rfl | laterMem
              · exact before
              · exact String.lt_trans before (least later laterMem)
          · next notBefore =>
              refine List.pairwise_cons.mpr ⟨?_, ih restAscending⟩
              intro later laterMem
              have put := ((perm_putLoan slot loan restAscending).map Prod.fst).mem_iff.mp laterMem
              rcases List.mem_cons.mp put with rfl | kept
              · by_contra notAfter
                exact different
                  (String.le_antisymm (String.not_lt.mp notBefore) (String.not_lt.mp notAfter))
              · exact least later ((List.filter_sublist.map Prod.fst).subset kept)

end Session

end CacheDepot.Handles
