import VirtualShell.Files.Basic
import VirtualShell.Text.Order

/-!
Contract: what can be done with a file tree.

Owns:
- reading: `read`, `info`, `list`, `allPaths` and `snapshot`;
- writing: `write`, `append`, `makeDirectory`, `remove`, `copy` and `move`.

Every operation reads its paths from the root. An error reports a path as it was
given, except that a missing or unfit parent, and everything that happens on the
way of a copy, is reported with the absolute path.

`forget`, `pathsBelow`, `createDirectories` and the copy of a directory go down a tree by
recursion. The stack of the host is taken to suffice for as many levels as there are; here
the recursions are bounded by the number of nodes or the length of a path, which no tree
that can be reached exceeds.
-/

namespace VirtualShell.Files

/-- The node at a path; `none` if there is none. -/
def nodeAt (parts : List String) : Action (Option Node) := do
  return (← get).find? parts

/-- The number of the directory that holds the entry with the given components. -/
def parentNumber (parts : List String) : Action Nat := do
  let files ← get
  match files.numberAt? (Path.parentParts parts) with
  | none => fail .notFound (Path.text parts)
  | some number =>
      if (files.nodes.get? number).any Node.isDirectory then return number
      else fail .notDirectory (Path.text parts)

/-- The name of the entry with the given components. -/
def entryName (parts : List String) : String :=
  parts.getLast?.getD ""

/-- The tree with one node replaced. -/
def setNode (files : Files) (number : Nat) (node : Node) : Files :=
  { files with nodes := files.nodes.insert number node }

/-- The tree with the children of a directory changed now. -/
def changeChildren
    (files : Files)
    (directory : Nat)
    (change : Table String Nat → Table String Nat) : Files :=
  match files.nodes.get? directory with
  | some (.directory _ children) =>
      files.setNode directory (.directory files.now (change children))
  | _ => files

/-- The tree in which `directory` has the child `number` under `name`. -/
def link (files : Files) (directory : Nat) (name : String) (number : Nat) : Files :=
  files.changeChildren directory fun children => children.insert name number

/-- The tree in which `directory` has no child under `name`. -/
def unlink (files : Files) (directory : Nat) (name : String) : Files :=
  files.changeChildren directory fun children => children.erase name

/-- The tree with a fresh node under `name`. -/
def create (files : Files) (directory : Nat) (name : String) (node : Node) : Files :=
  let number := files.next
  { files.setNode number node with next := number + 1 }.link directory name number

/-- The numbers of a node and of everything below it, at most `depth` levels deep. -/
def numbersBelow (files : Files) : Nat → Nat → List Nat
  | 0, number => [number]
  | depth + 1, number =>
      let children := ((files.nodes.get? number).map Node.children).getD .empty
      number :: (children.entries.map Prod.snd).flatMap (files.numbersBelow depth)

/-- The tree without a node and everything below it; a path never has more components
than the tree has nodes. -/
def forget (files : Files) (number : Nat) : Files :=
  { files with nodes := files.nodes.eraseAll (files.numbersBelow files.nodes.size number) }

/-- The content of a file. -/
def read (path : String) : Action String := do
  match ← nodeAt (Path.parts path) with
  | none => fail .notFound path
  | some (.directory _ _) => fail .isDirectory path
  | some (.file _ content) => return content

/-- What is known of the node at a path. -/
def info (path : String) : Action Info := do
  match ← nodeAt (Path.parts path) with
  | none => fail .notFound path
  | some node => return node.info

/-- The names in a directory, sorted. -/
def list (path : String) : Action (List String) := do
  match ← nodeAt (Path.parts path) with
  | none => fail .notFound path
  | some (.file _ _) => fail .notDirectory path
  | some (.directory _ children) => return Text.sorted children.keys

/-- The paths of everything below a node, at most `depth` levels deep; `path` is the
path of the node, empty for the root. -/
def pathsBelow (files : Files) : Nat → String → Nat → List String
  | 0, _, _ => []
  | depth + 1, path, number =>
      let children := ((files.nodes.get? number).map Node.children).getD .empty
      children.entries.flatMap fun (name, child) =>
        let childPath := path ++ "/" ++ name
        childPath :: files.pathsBelow depth childPath child

/-- Every path of the tree, sorted, the root included. -/
def allPaths (files : Files) : List String :=
  Text.sorted ("/" :: files.pathsBelow files.nodes.size "" root)

/-- Every path that is `under` or below it, with the content of each file. -/
def snapshot (files : Files) (under : String) : List (String × Option String) :=
  let below := if under = "/" then "/" else under ++ "/"
  (files.allPaths.filter fun path => path = under || Text.startsWith path below).map fun path =>
    (path, match files.find? (Path.parts path) with
      | some (.file _ content) => some content
      | _ => none)

/-- Makes a directory in an existing one. -/
def createDirectory (parts : List String) : Action Unit := do
  let parent ← parentNumber parts
  modify fun files => files.create parent (entryName parts) (.directory files.now .empty)

/-- Makes a directory that is not there yet, and before it those of its ancestors that
are not there either. -/
def createDirectories (parts : List String) : Action Unit := do
  if _rooted : parts = [] then return
  else
    if (← nodeAt (Path.parentParts parts)).isNone then
      createDirectories (Path.parentParts parts)
    createDirectory parts
termination_by parts.length
decreasing_by
  have := List.length_pos_iff.2 _rooted
  simp only [Path.parentParts, List.length_dropLast]
  omega

/-- Makes a directory; with `recursive` also its ancestors, and then a directory that is
there already is fine. -/
def makeDirectory (path : String) (recursive : Bool) : Action Unit := do
  let parts := Path.parts path
  match ← nodeAt parts with
  | some node =>
      if node.isDirectory && recursive then return else fail .alreadyExists path
  | none => if recursive then createDirectories parts else createDirectory parts

/-- Replaces the content of a file, or makes the file; with `parents` also the
directories that lead to it. -/
def write (path content : String) (parents : Bool) : Action Unit := do
  let parts := Path.parts path
  match (← get).numberAt? parts with
  | some number =>
      match (← get).nodes.get? number with
      | some (.file _ _) => modify fun files => files.setNode number (.file files.now content)
      | _ => fail .isDirectory path
  | none =>
      if parents then makeDirectory (Path.text (Path.parentParts parts)) true
      let parent ← parentNumber parts
      modify fun files => files.create parent (entryName parts) (.file files.now content)

/-- Puts text behind the content of a file, or makes the file. -/
def append (path content : String) : Action Unit := do
  let parts := Path.parts path
  match (← get).numberAt? parts with
  | some number =>
      match (← get).nodes.get? number with
      | some (.file _ old) =>
          modify fun files => files.setNode number (.file files.now (old ++ content))
      | _ => fail .isDirectory path
  | none => write (Path.text parts) content false

/-- Removes a node; with `recursive` also a directory that is not empty, and with
`force` a missing node is fine. -/
def remove (path : String) (recursive force : Bool) : Action Unit := do
  let parts := Path.parts path
  if parts = [] then fail .busy path
  match (← get).numberAt? parts with
  | none => if force then return else fail .notFound path
  | some number =>
      let children := (((← get).nodes.get? number).map Node.children).getD .empty
      if !children.isEmpty && !recursive then fail .notEmpty path
      let parent ← parentNumber parts
      modify fun files => (files.unlink parent (entryName parts)).forget number

/-- Copies what is at `source` to `target`, the entries of a directory by `copyEntry`. -/
def copyWith
    (copyEntry : String → String → Action Unit)
    (source target : String)
    (recursive : Bool) : Action Unit := do
  let sourceParts := Path.parts source
  let targetParts := Path.parts target
  match ← nodeAt sourceParts with
  | none => fail .notFound source
  | some (.file _ content) => write (Path.text targetParts) content false
  | some (.directory _ children) =>
      if !recursive then fail .isDirectory source
      else if sourceParts.isPrefixOf targetParts then fail .invalidArgument target
      else
        makeDirectory (Path.text targetParts) true
        (Text.sorted children.keys).forM fun name =>
          copyEntry (Path.text (sourceParts ++ [name])) (Path.text (targetParts ++ [name]))

/-- Copies what is at `source` to `target`, at most `depth` directories deep. -/
def copyWithin : Nat → String → String → Bool → Action Unit
  | 0 => copyWith fun _ _ => return
  | depth + 1 => copyWith fun source target => copyWithin depth source target true

/-- Copies a file to exactly `target`, replacing a file there; with `recursive` also a
directory, whose entries are laid over a directory that is there already. -/
def copy (source target : String) (recursive : Bool) : Action Unit := do
  copyWithin (← get).nodes.size source target recursive

/-- Moves a node to exactly `target`, replacing a file there. -/
def move (source target : String) : Action Unit := do
  let sourceParts := Path.parts source
  let targetParts := Path.parts target
  match (← get).numberAt? sourceParts with
  | none => fail .notFound source
  | some number =>
      if sourceParts = targetParts then return
      if sourceParts.isPrefixOf targetParts then fail .invalidArgument target
      let sourceIsDirectory := ((← get).nodes.get? number).any Node.isDirectory
      let replaced := (← get).numberAt? targetParts
      let targetIsDirectory := (replaced.bind (← get).nodes.get?).any Node.isDirectory
      let targetParent ← parentNumber targetParts
      if targetIsDirectory then fail .isDirectory target
      if replaced.isSome && sourceIsDirectory then fail .notDirectory target
      if let some old := replaced then
        modify fun files => (files.unlink targetParent (entryName targetParts)).forget old
      let sourceParent ← parentNumber sourceParts
      modify fun files =>
        (files.unlink sourceParent (entryName sourceParts)).link targetParent
          (entryName targetParts) number

/-- The tree made of files at given paths, with the directories that lead to them. -/
def ofList (now : Int) (entries : List (String × String)) : Except FileError Files :=
  let build : Action Unit := entries.forM fun (path, content) => write path content true
  match build.run (empty now) with
  | (.ok (), files) => .ok files
  | (.error error, _) => .error error

end VirtualShell.Files
