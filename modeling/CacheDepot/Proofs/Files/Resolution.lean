import CacheDepot.Files.Handle
import Mathlib.Data.List.Basic

/-!
# Where paths lead

What a path leads to depends on the directories alone, and reading takes octets from
pipes only. Spellings of one path that lead somewhere all lead to the same file. It is
not the case that all of them lead somewhere if one does: a dot or a slash after a
name asks for a directory there.
-/

namespace CacheDepot.Files

/-! ## Reading leaves the directories -/

namespace Tree

/-- The trees differ at most in what their pipes hold. -/
def Alike (first second : Tree) : Prop :=
  ∀ number, first.node? number = second.node? number ∨
    ∃ queued left, first.node? number = some (.pipe queued) ∧
      second.node? number = some (.pipe left)

def IsPipe (tree : Tree) (number : Nat) : Prop :=
  ∃ queued, tree.node? number = some (.pipe queued)

theorem Alike.refl (tree : Tree) : tree.Alike tree :=
  fun _ => Or.inl rfl

theorem Alike.trans {first second third : Tree} (start : first.Alike second)
    (rest : second.Alike third) : first.Alike third := by
  intro number
  rcases start number with same | ⟨queued, left, before, between⟩
  · rw [same]
    exact rest number
  · rcases rest number with same | ⟨_, last, _, after⟩
    · exact Or.inr ⟨queued, left, before, same ▸ between⟩
    · exact Or.inr ⟨queued, last, before, after⟩

theorem alike_setNode {tree : Tree} {number : Nat} (pipe : tree.IsPipe number)
    (left : ByteArray) : tree.Alike (tree.setNode number (.pipe left)) := by
  intro other
  by_cases same : other = number
  · subst same
    obtain ⟨queued, found⟩ := pipe
    have inRange : other < tree.nodes.size := (Array.getElem?_eq_some_iff.mp found).1
    refine Or.inr ⟨queued, left, found, ?_⟩
    simp [node?, setNode, inRange]
  · refine Or.inl ?_
    rw [node?, node?, setNode, Array.getElem?_setIfInBounds_ne (Ne.symm same)]

theorem alike_read (tree : Tree) (handle : Handle) (limit : Option Nat) :
    tree.Alike (handle.read tree limit).2.2 := by
  unfold Handle.read
  split
  · exact Alike.refl tree
  · split
    · exact Alike.refl tree
    · next queued found => exact alike_setNode ⟨queued, found⟩ _
    · exact Alike.refl tree
    · exact Alike.refl tree

namespace Alike

variable {first second : Tree}

theorem node?_regular (alike : first.Alike second) {number : Nat} {content : ByteArray}
    (found : first.node? number = some (.regular content)) :
    second.node? number = some (.regular content) := by
  rcases alike number with same | ⟨queued, left, before, -⟩
  · exact same ▸ found
  · rw [before] at found
    cases found

theorem isPipe_iff (alike : first.Alike second) (number : Nat) :
    first.IsPipe number ↔ second.IsPipe number := by
  unfold IsPipe
  rcases alike number with same | ⟨queued, left, before, after⟩
  · rw [same]
  · exact iff_of_true ⟨queued, before⟩ ⟨left, after⟩

theorem enter_eq (alike : first.Alike second) (number : Nat) (name : String) :
    first.enter number name = second.enter number name := by
  unfold enter
  rcases alike number with same | ⟨queued, left, before, after⟩
  · rw [same]
  · rw [before, after]

theorem walk_eq (alike : first.Alike second) (number : Nat) (names : List String) :
    first.walk number names = second.walk number names := by
  induction names generalizing number with
  | nil => rfl
  | cons name rest ih =>
      simp only [walk, alike.enter_eq number name]
      split
      · next child entered => exact ih child
      · rfl

theorem resolve_eq (alike : first.Alike second) (path : String) :
    first.resolve path = second.resolve path := by
  simp only [resolve, alike.walk_eq]
  cases second.walk (startOf path) (names path) with
  | error error => rfl
  | ok number =>
      rcases alike number with same | ⟨queued, left, before, after⟩
      · simp only [same]
      · simp only [before, after]

end Alike

end Tree

/-! ## Spellings -/

/-- The name that a component stands for inside a path. -/
def Component.name? : Component → Option String
  | .root => none
  | .here => none
  | .up => some ".."
  | .name text => some text

theorem root_mem_components {path : String} :
    Component.root ∈ components path ↔ isAbsolute path := by
  have inner : Component.root ∉ (names path).filterMap componentOf? := by
    simp only [List.mem_filterMap, componentOf?, not_exists]
    grind
  unfold components
  grind

/-- The components of a path tell all its names but the dots. -/
theorem filterMap_name?_components (path : String) :
    (components path).filterMap Component.name? = (names path).filter (· ≠ ".") := by
  have inner (list : List String) :
      (list.filterMap componentOf?).filterMap Component.name? = list.filter (· ≠ ".") := by
    induction list with
    | nil => rfl
    | cons name rest ih =>
        by_cases dot : name = "."
        · simpa [componentOf?, dot] using ih
        · by_cases up : name = ".."
          · simpa [componentOf?, up, Component.name?] using ih
          · simpa [componentOf?, dot, up, Component.name?] using ih
  unfold components
  dsimp only
  split
  · exact inner (names path)
  · split
    · exact inner (names path)
    · exact inner (names path)

/-- Spellings of a path start at the same node and differ in dots at most. -/
theorem names_of_samePath {first second : String} (same : samePath first second) :
    Tree.startOf first = Tree.startOf second ∧
      (names first).filter (· ≠ ".") = (names second).filter (· ≠ ".") := by
  have components := samePath_iff.mp same
  constructor
  · have root : isAbsolute first ↔ isAbsolute second := by
      rw [← root_mem_components, components, root_mem_components]
    simp only [Tree.startOf, root]
  · rw [← filterMap_name?_components, components, filterMap_name?_components]

namespace Tree

variable {tree : Tree} {number node : Nat}

theorem eq_of_enter_dot (entered : tree.enter number "." = .ok node) : node = number := by
  unfold enter at entered
  split at entered
  · cases entered
    rfl
  · cases entered
  · cases entered

/-- Dots lead back to where they are. -/
theorem walk_filter_of_walk {names : List String} (walked : tree.walk number names = .ok node) :
    tree.walk number (names.filter (· ≠ ".")) = .ok node := by
  induction names generalizing number with
  | nil => exact walked
  | cons name rest ih =>
      rw [walk] at walked
      split at walked
      · next child entered =>
          by_cases dot : name = "."
          · subst dot
            cases eq_of_enter_dot entered
            rw [List.filter_cons_of_neg (by simp)]
            exact ih walked
          · rw [List.filter_cons_of_pos (by simpa using dot), walk, entered]
            exact ih walked
      · cases walked

theorem walk_of_resolve {path : String} (resolves : tree.resolve path = .ok node) :
    tree.walk (startOf path) (names path) = .ok node := by
  unfold resolve at resolves
  split at resolves
  · cases resolves
  · split at resolves
    · cases resolves
    · split at resolves
      · cases resolves
      · split at resolves
        · cases resolves
        · next number walked =>
            rw [walked]
            split at resolves
            · split at resolves
              · exact resolves
              · cases resolves
            · exact resolves

/-- Spellings of one path do not lead to different files. -/
theorem eq_of_resolve_of_samePath {first second : String} {other : Nat}
    (same : samePath first second) (resolves : tree.resolve first = .ok node)
    (resolvesToo : tree.resolve second = .ok other) : node = other := by
  obtain ⟨start, names⟩ := names_of_samePath same
  have walked := walk_filter_of_walk (walk_of_resolve resolves)
  have walkedToo := walk_filter_of_walk (walk_of_resolve resolvesToo)
  rw [start, names, walkedToo] at walked
  cases walked
  rfl

/-- A slash after the name of a regular file is refused, though it makes no other path. -/
example :
    let tree := empty.place "f" (.bytes ByteArray.empty)
    samePath "f" "f/" ∧ (tree.resolve "f").toOption = some 2 ∧
      (tree.resolve "f/").toOption = none := by
  decide +kernel

end Tree

end CacheDepot.Files
