import VirtualShell.Files.Error
import VirtualShell.Path
import VirtualShell.Table

/-!
Contract: a file tree as a table of numbered nodes.

Owns:
- `Node`, a file or a directory; a directory maps the names of its children to
  their numbers, and no node knows its own name.
- `Files`, the nodes by number, the next free number, and the time of day.
- `Files.find?`, the node at a path, found by walking from the root.
- `Files.Action`, an operation that can change the tree and can fail. What it has
  changed before it fails stays changed.

Does not own: the operations (`VirtualShell.Files.Operations`).
-/

namespace VirtualShell

/-- A file or a directory, with the time of its last change. -/
inductive Node where
  | file (modified : Int) (content : String)
  | directory (modified : Int) (children : Table String Nat)
deriving DecidableEq, Repr

namespace Node

/-- Whether a node is a directory. -/
def isDirectory : Node → Bool
  | .file _ _ => false
  | .directory _ _ => true

/-- The time of the last change. -/
def modified : Node → Int
  | .file modified _ => modified
  | .directory modified _ => modified

/-- The children of a directory; a file has none. -/
def children : Node → Table String Nat
  | .file _ _ => .empty
  | .directory _ children => children

/-- The permission bits of a node. -/
def mode : Node → Nat
  | .file _ _ => 0o644
  | .directory _ _ => 0o755

/-- The number of bytes that a node holds. -/
def size : Node → Nat
  | .file _ content => content.utf8ByteSize
  | .directory _ _ => 0

end Node

/-- The nodes of a file tree by number, the next free number and the time of day. -/
structure Files where
  nodes : Table Nat Node
  next : Nat
  now : Int
deriving DecidableEq, Repr

namespace Files

/-- The number of the root directory. -/
def root : Nat := 0

/-- The tree that holds the root directory only. -/
def empty (now : Int) : Files :=
  ⟨Table.empty.insert root (.directory now .empty), root + 1, now⟩

/-- The number of the node that `parts` lead to from the node `number`. -/
def walk (files : Files) (number : Nat) : List String → Option Nat
  | [] => some number
  | part :: rest =>
      match (files.nodes.get? number).bind fun node => node.children.get? part with
      | some child => files.walk child rest
      | none => none

/-- The number of the node with the given components. -/
def numberAt? (files : Files) (parts : List String) : Option Nat :=
  files.walk root parts

/-- The node with the given components. -/
def find? (files : Files) (parts : List String) : Option Node :=
  (files.numberAt? parts).bind files.nodes.get?

/-- Whether there is a node at a path. -/
def contains (files : Files) (path : String) : Bool :=
  (files.find? (Path.parts path)).isSome

/-- An operation that can change the tree and can fail. -/
abbrev Action (α : Type) := ExceptT FileError (StateM Files) α

/-- An operation that fails. -/
def fail {α : Type} (cause : FileCause) (path : String) : Action α :=
  throw ⟨cause, path⟩

/-- What is known of a node without reading it. -/
structure Info where
  isDirectory : Bool
  mode : Nat
  size : Nat
  modified : Int
deriving DecidableEq, Repr

end Files

/-- What is known of a node without reading it. -/
def Node.info (node : Node) : Files.Info :=
  ⟨node.isDirectory, node.mode, node.size, node.modified⟩

end VirtualShell
