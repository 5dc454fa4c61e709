import CacheDepot.Files.Tree

/-!
# Open files

An open file is a node together with a position of its own. Numbers tell open
files apart, also when they are of the same node.
-/

namespace CacheDepot.Files

/-- An open file. -/
structure Handle where
  number : Nat
  node : Nat
  position : Nat
  deriving DecidableEq, Repr

namespace Handle

/-- Opens a path for reading, at the start of the file. -/
def openAt (tree : Tree) (path : String) (number : Nat) : Except FileError Handle :=
  match tree.resolve path with
  | .ok node => .ok ⟨number, node, 0⟩
  | .error error => .error error

/-- Reads from the position on, at most `limit` octets if there is a limit. A request for no octets
does not touch the file. -/
def read (tree : Tree) (handle : Handle) (limit : Option Nat) :
    Except FileError ByteArray × Handle × Tree :=
  if limit = some 0 then (.ok ByteArray.empty, handle, tree)
  else
    match tree.node? handle.node with
    | some (.regular content) =>
        let stop := match limit with
          | some count => min content.size (handle.position + count)
          | none => content.size
        let octets := content.extract handle.position stop
        (.ok octets, { handle with position := handle.position + octets.size }, tree)
    | some (.pipe queued) =>
        let count := match limit with
          | some count => min queued.size count
          | none => queued.size
        (.ok (queued.extract 0 count), handle,
          tree.setNode handle.node (.pipe (queued.extract count queued.size)))
    | some (.directory _ _) => (.error .isADirectory, handle, tree)
    | none => (.error .notFound, handle, tree)

/-- The number of positions, `2 ^ 63`. -/
def positionCount : Nat := 9223372036854775808

/-- Moves the position. A pipe has none. -/
def seek (tree : Tree) (handle : Handle) (position : Nat) : Except FileError Handle :=
  match tree.node? handle.node with
  | some (.pipe _) => .error .illegalSeek
  | _ =>
      if position < positionCount then .ok { handle with position := position }
      else .error .invalidArgument

/-- The length of a directory is that of one block. -/
def length (tree : Tree) (handle : Handle) : Nat :=
  match tree.node? handle.node with
  | some (.regular content) => content.size
  | some (.directory _ _) => 4096
  | _ => 0

end Handle

end CacheDepot.Files
