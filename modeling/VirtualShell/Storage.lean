import VirtualShell.Files.Operations

/-!
Contract: the place where a shell keeps its files.

Owns:
- `FileOperation`, what a shell asks of its storage.
- `Storage`, a file tree, whether the shell made it itself, and the operations that
  it refuses. A shell lays out only a storage that it made itself.
- One function per operation. A refused operation fails with `permissionDenied` and
  the first path it was given, and changes nothing.
-/

namespace VirtualShell

/-- What a shell asks of its storage. -/
inductive FileOperation where
  | read
  | write
  | append
  | contains
  | info
  | makeDirectory
  | list
  | remove
  | copy
  | move
  | allPaths
deriving DecidableEq, Repr

/-- A file tree behind an access rule. -/
structure Storage where
  files : Files
  isOwn : Bool
  refused : List FileOperation

namespace Storage

/-- A storage that the shell makes itself; nothing is refused. -/
def own (files : Files) : Storage := ⟨files, true, []⟩

/-- An operation on a storage. -/
abbrev Action (α : Type) := ExceptT FileError (StateM Storage) α

/-- Runs an operation of the file tree, unless it is refused. -/
def perform {α : Type} (operation : FileOperation) (path : String) (action : Files.Action α) :
    Action α := do
  let storage ← get
  if storage.refused.contains operation then throw ⟨.permissionDenied, path⟩
  let (result, files) := action.run storage.files
  set { storage with files := files }
  MonadExcept.ofExcept result

/-- The content of a file. -/
def read (path : String) : Action String :=
  perform .read path (Files.read path)

/-- Replaces the content of a file, or makes the file. -/
def write (path content : String) : Action Unit :=
  perform .write path (Files.write path content false)

/-- Puts text behind the content of a file, or makes the file. -/
def append (path content : String) : Action Unit :=
  perform .append path (Files.append path content)

/-- Whether there is something at a path. -/
def contains (path : String) : Action Bool :=
  perform .contains path do return (← get).contains path

/-- What is known of the node at a path. -/
def info (path : String) : Action Files.Info :=
  perform .info path (Files.info path)

/-- Makes a directory. -/
def makeDirectory (path : String) (recursive : Bool) : Action Unit :=
  perform .makeDirectory path (Files.makeDirectory path recursive)

/-- The names in a directory, sorted. -/
def list (path : String) : Action (List String) :=
  perform .list path (Files.list path)

/-- Removes a node. -/
def remove (path : String) (recursive force : Bool) : Action Unit :=
  perform .remove path (Files.remove path recursive force)

/-- Copies a file or a directory. -/
def copy (source target : String) (recursive : Bool) : Action Unit :=
  perform .copy source (Files.copy source target recursive)

/-- Moves a file or a directory. -/
def move (source target : String) : Action Unit :=
  perform .move source (Files.move source target)

/-- Every path, sorted. -/
def allPaths (storage : Storage) : Except FileError (List String) :=
  if storage.refused.contains .allPaths then .error ⟨.permissionDenied, ""⟩
  else .ok storage.files.allPaths

end Storage

end VirtualShell
