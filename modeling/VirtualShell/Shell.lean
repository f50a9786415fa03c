import VirtualShell.Command.Library
import VirtualShell.Interpreter

/-!
Contract: one shell session, from its first settings to the lines that it runs.

Owns:
- `Options`, what can be asked of a new shell, and `Shell.ofOptions`.
- the standard layout: the directories and the file per command that a shell makes
  when it is told neither its files nor where to start.
- `Shell.execute`, which runs a line, `Shell.call`, which starts a command without the
  rules of a line, `Shell.register`, `Shell.read` and `Shell.write`.

A storage that the shell did not make itself is never laid out and never seeded.
-/

namespace VirtualShell

/-- What can be asked of a new shell. -/
structure Options where
  storage : Storage
  files : Option (List (String × String))
  cwd : Option String
  assignments : List (String × String)
  commands : List Command
  callDepth : Option Int
  commandCount : Option Int
  loopPasses : Option Int
  journal : Journal

namespace Options

/-- The options of a shell that nothing special is asked of. -/
def standard (now : Int) : Options where
  storage := .own (.empty now)
  files := none
  cwd := none
  assignments := []
  commands := Command.library
  callDepth := none
  commandCount := none
  loopPasses := none
  journal := .empty none

/-- Whether the shell makes the standard layout. -/
def wantsLayout (options : Options) : Bool :=
  options.cwd.isNone && options.files.isNone && options.storage.isOwn

end Options

/-- Why a shell cannot be made. -/
inductive OpeningError where
  | negative (option : LimitOption)
  | file (error : FileError)
deriving DecidableEq, Repr

/-- A shell session. A shell with the standard layout makes a file for each command that
it is given. -/
structure Shell where
  setup : Setup
  session : Session
  hasLayout : Bool

namespace Shell

/-- The home directory of the standard layout. -/
def layoutHome : String := "/home/user"

/-- The directories of the standard layout. -/
def layoutDirectories : List String := [layoutHome, "/bin", "/usr/bin", "/tmp"]

/-- Where commands are said to be found. -/
def searchPath : String := "/bin:/usr/bin"

/-- Work on a shell that can fail at a file. -/
abbrev Action (α : Type) := ExceptT FileError (StateM Shell) α

/-- An operation on the storage of a shell. -/
def onStorage {α : Type} (action : Storage.Action α) : Action α := do
  let shell ← get
  let (result, storage) := action.run shell.session.storage
  set { shell with session := { shell.session with storage := storage } }
  MonadExcept.ofExcept result

/-- Makes files together with the directories that lead to them. -/
def seed (files : List (String × String)) : Storage.Action Unit :=
  files.forM fun (path, content) =>
    Storage.perform .write path (Files.write path content true)

/-- Makes directories together with the directories that lead to them. -/
def makeDirectories (paths : List String) : Storage.Action Unit :=
  paths.forM fun path => Storage.makeDirectory path true

/-- Prepares the storage of a new shell that starts in a directory. -/
def prepare (options : Options) (start : String) : Storage.Action Unit := do
  if options.storage.isOwn then
    seed (options.files.getD [])
    if options.wantsLayout then makeDirectories layoutDirectories
    Storage.makeDirectory start true

/-- The text of the file that stands for a command. -/
def stub (name : String) : String :=
  "#!/bin/bash\n# Built-in command: " ++ name ++ "\n"

/-- Whether a name can be the name of a file in a directory. -/
def isFileName (name : String) : Bool :=
  name != "." && name != ".." && !name.toList.contains '/'

/-- Registers a command, in place of one of the same name. -/
def register (command : Command) : Action Unit := do
  let shell ← get
  set { shell with
    setup := { shell.setup with commands := shell.setup.commands.insert command.name command } }
  if shell.hasLayout && isFileName command.name then
    onStorage (Storage.write ("/bin/" ++ command.name) (stub command.name))

/-- The state of a new shell. -/
def initialSession (options : Options) (home start : String) (storage : Storage) : Session where
  cwd := start
  previousDir := start
  environment := Table.ofList ([("HOME", home), ("PATH", searchPath)] ++ options.assignments)
  functions := .empty
  scopes := []
  callDepth := 0
  commandCount := 0
  lastExitCode := 0
  nesting := 0
  storage := storage
  journal := options.journal

/-- A new shell. -/
def ofOptions (options : Options) : Except OpeningError Shell := do
  let limits ← match Limits.ofOptions options.callDepth options.commandCount options.loopPasses with
    | .ok limits => pure limits
    | .error option => throw (.negative option)
  let home := if options.wantsLayout then layoutHome else "/"
  let start := (options.cwd.map Path.normalize).getD home
  match (prepare options start).run options.storage with
  | (.error error, _) => throw (.file error)
  | (.ok (), storage) =>
      let bare : Shell :=
        ⟨⟨limits, .empty⟩, initialSession options home start storage, options.wantsLayout⟩
      match (options.commands.forM register).run bare with
      | (.error error, _) => throw (.file error)
      | (.ok (), shell) => return shell

/-- Runs work on the session of a shell. -/
def onSession {α : Type} (shell : Shell) (work : Engine α) : Except Abort α × Shell :=
  let (result, session) := work.run shell.session
  (result, { shell with session := session })

/-- How the shell runs a nested text. -/
def runner (shell : Shell) : Runner :=
  Interpreter.run shell.setup Interpreter.defaultRoom

/-- Runs a line. -/
def execute (shell : Shell) (line : String) : Except Abort Outcome × Shell :=
  shell.onSession (Interpreter.execute shell.runner line)

/-- Starts a command on its own: a fault of the command is not turned into an outcome. -/
def call (shell : Shell) (command : Command) (arguments : List String) (stdin : String) :
    Except Abort Outcome × Shell :=
  let session := shell.session
  shell.onSession
    (Interpreter.perform (Interpreter.execute shell.runner)
      (command.start ⟨session.cwd, stdin⟩ arguments ⟨session.environment, session.storage⟩))

/-- The absolute path of a path that is taken from the working directory. -/
def resolve (shell : Shell) (path : String) : String :=
  Path.resolve shell.session.cwd path

/-- The content of a file. -/
def read (path : String) : Action String := do
  onStorage (Storage.read ((← get).resolve path))

/-- Replaces the content of a file, or makes the file. -/
def write (path content : String) : Action Unit := do
  onStorage (Storage.write ((← get).resolve path) content)

/-- The names of the commands, sorted. -/
def commandNames (shell : Shell) : List String :=
  Text.sorted shell.setup.commands.keys

/-- The names of the functions, sorted. -/
def functionNames (shell : Shell) : List String :=
  Text.sorted shell.session.functions.keys

end Shell

end VirtualShell
