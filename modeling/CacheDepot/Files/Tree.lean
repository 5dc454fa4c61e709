import CacheDepot.Files.Path
import CacheDepot.Files.Reader

/-!
# File trees

The files that a run can see: regular files, named pipes and directories,
numbered so that a file keeps its number while its content changes and after its
name is gone. Node 1 is the working directory. Node 0 stands for every directory
above it; nothing is known of what else those hold.
-/

namespace CacheDepot.Files

/-- A file. -/
inductive Node where
  | regular (content : ByteArray)
  /-- A named pipe with what was written to it and not yet read. -/
  | pipe (queued : ByteArray)
  | directory (parent : Nat) (entries : List (String × Nat))

structure Tree where
  nodes : Array Node

namespace Tree

/-- A working directory without files. -/
def empty : Tree :=
  ⟨#[.directory 0 [], .directory 0 []]⟩

def node? (tree : Tree) (number : Nat) : Option Node :=
  tree.nodes[number]?

/-- The longest name, in octets. -/
def nameLimit : Nat := 255

/-- The longest path, in octets. -/
def pathLimit : Nat := 4095

/-- The node that a name leads to from a node. -/
def enter (tree : Tree) (number : Nat) (name : String) : Except FileError Nat :=
  match tree.node? number with
  | some (.directory parent entries) =>
      if name = "." then .ok number
      else if name = ".." then .ok parent
      else if nameLimit < name.utf8ByteSize then .error .nameTooLong
      else
        match entries.lookup name with
        | some child => .ok child
        | none => .error .notFound
  | some _ => .error .notADirectory
  | none => .error .notFound

def walk (tree : Tree) (number : Nat) : List String → Except FileError Nat
  | [] => .ok number
  | name :: rest =>
      match tree.enter number name with
      | .ok next => tree.walk next rest
      | .error error => .error error

def startOf (path : String) : Nat :=
  if isAbsolute path then 0 else 1

def endsInSlash (path : String) : Bool :=
  path.toList.getLast? = some '/'

/-- The node that a path names. A path that ends in a slash names a directory or nothing. -/
def resolve (tree : Tree) (path : String) : Except FileError Nat :=
  if path.toList.any (fun c => c.toNat = 0) then .error .nulInName
  else if path.isEmpty then .error .notFound
  else if pathLimit < path.utf8ByteSize then .error .nameTooLong
  else
    match tree.walk (startOf path) (names path) with
    | .error error => .error error
    | .ok number =>
        if endsInSlash path then
          match tree.node? number with
          | some (.directory _ _) => .ok number
          | _ => .error .notADirectory
        else .ok number

/-- The whole content of a file. -/
def contentAt (tree : Tree) (number : Nat) : Except FileError ByteArray :=
  match tree.node? number with
  | some (.regular content) => .ok content
  | some (.pipe queued) => .ok queued
  | some (.directory _ _) => .error .isADirectory
  | none => .error .notFound

/-- Reads whole files. A path that does not lead to a file does not exist, for whatever reason. -/
def reader (tree : Tree) : Reader :=
  fun path =>
    match tree.resolve path with
    | .error _ => .ok none
    | .ok number =>
        match tree.contentAt number with
        | .ok content => .ok (some content)
        | .error error => .error error

def setNode (tree : Tree) (number : Nat) (node : Node) : Tree :=
  ⟨tree.nodes.setIfInBounds number node⟩

/-- Adds a node under a name of a directory; gives the new node's number. -/
def addEntry (tree : Tree) (directory : Nat) (name : String) (node : Node) : Tree × Nat :=
  let number := tree.nodes.size
  match tree.node? directory with
  | some (.directory parent entries) =>
      (⟨(tree.nodes.push node).setIfInBounds directory
        (.directory parent ((name, number) :: entries))⟩, number)
  | _ => (tree, directory)

/-- What a path is to be given. -/
inductive Content where
  | bytes (content : ByteArray)
  | directory
  | pipe

/-- A node with new content in place of an old one. Directories and pipes stay what they are. -/
def withContent (content : Content) : Node → Node
  | .regular old =>
      match content with
      | .bytes new => .regular new
      | _ => .regular old
  | .pipe queued =>
      match content with
      | .bytes new => .pipe (queued ++ new)
      | _ => .pipe queued
  | node => node

def created (content : Content) (parent : Nat) : Node :=
  match content with
  | .bytes new => .regular new
  | .directory => .directory parent []
  | .pipe => .pipe ByteArray.empty

/-- Gives the file at the end of a list of names, seen from a directory, a content. Directories on
the way and the file itself are made if they do not exist. -/
def placeFrom (content : Content) (tree : Tree) (number : Nat) : List String → Tree
  | [] => tree
  | [name] =>
      match tree.enter number name with
      | .ok child =>
          match tree.node? child with
          | some node => tree.setNode child (withContent content node)
          | none => tree
      | .error _ => (tree.addEntry number name (created content number)).1
  | name :: rest =>
      match tree.enter number name with
      | .ok child => placeFrom content tree child rest
      | .error _ =>
          let (next, child) := tree.addEntry number name (.directory number [])
          placeFrom content next child rest

/-- Gives the file at a path a content; an existing file keeps its number. -/
def place (tree : Tree) (path : String) (content : Content) : Tree :=
  placeFrom content tree (startOf path) (names path)

/-- Takes a name out of a directory. The file stays for those who have it open. -/
def removeName (tree : Tree) (directory : Nat) (name : String) : Tree :=
  match tree.node? directory with
  | some (.directory parent entries) =>
      tree.setNode directory (.directory parent (entries.filter fun entry => entry.1 ≠ name))
  | _ => tree

/-- Unlinks a file that is no directory; does nothing if there is none. -/
def unlink (tree : Tree) (path : String) : Tree :=
  match tree.resolve path with
  | .error _ => tree
  | .ok number =>
      match tree.node? number, (names path).getLast?,
          tree.walk (startOf path) (names path).dropLast with
      | some (.directory _ _), _, _ => tree
      | some _, some name, .ok directory => tree.removeName directory name
      | _, _, _ => tree

end Tree

end CacheDepot.Files
