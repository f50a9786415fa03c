import VirtualShell.Shell

/-!
Contract: what a word that is being typed can become.

Owns:
- `Place`, where the word stands on its line: it names a command, a variable, or a file.
- `Completion.candidates`, everything that the word can become there, sorted.

A word that starts with a dollar sign always stands for a variable. Files are offered
one level at a time, directories with a slash behind them; a name that starts with a dot
is offered only to a word that does so too.
-/

namespace VirtualShell

/-- Where a word stands on its line. -/
inductive Place where
  | command
  | reference
  | variableName
  | file
deriving DecidableEq, Repr

namespace Completion

/-- The words behind which a command is named. -/
def commandOpeners : List String :=
  [";", "|", "||", "&&", "then", "do", "else", "elif", "\x7b", "!"]

/-- The commands whose arguments are names of variables. -/
def variableCommands : List String := ["unset", "export", "printenv", "local"]

/-- Whether a command is named behind a word. -/
def opensCommand (word : String) : Bool :=
  commandOpeners.contains word || [";", "|", "&"].any (Text.endsWith word)

/-- The words in front of the one that is being typed. -/
def wordsBefore (line : String) : List String :=
  let words := Text.fields line
  if Text.endsWith line " " then words else words.dropLast

/-- Where a word stands. -/
def place (word line : String) : Place :=
  let before := wordsBefore line
  if Text.startsWith word "$" then .reference
  else if before.getLast?.all opensCommand then .command
  else if before.head?.any variableCommands.contains then .variableName
  else .file

/-- The names of all builtins, functions and commands that start with a word. -/
def commands (shell : Shell) (word : String) : List String :=
  let names := Builtin.named.map Prod.fst ++ shell.functionNames ++ shell.commandNames
  Text.sorted (names.eraseDups.filter (Text.startsWith · word))

/-- The names of all variables that start with a word. -/
def variableNames (shell : Shell) (word : String) : List String :=
  Text.sorted (shell.session.environment.keys.filter (Text.startsWith · word))

/-- Whether there is a directory at a path, as far as one may know. -/
def isDirectory (storage : Storage) (path : String) : Bool :=
  match (Storage.info path).run storage with
  | (.ok info, _) => info.isDirectory
  | (.error _, _) => false

/-- The name of a path that lies directly in a directory; `opening` is the path of the
directory up to the slash behind it. -/
def nameIn? (opening path : String) : Option String :=
  if path != "/" && Text.startsWith path opening then
    let name := path.toList.drop opening.length
    if name.contains '/' then none else some (String.ofList name)
  else none

/-- Whether a name is offered to the start of a name. -/
def offers (typed name : String) : Bool :=
  Text.startsWith name typed && (!Text.startsWith name "." || Text.startsWith typed ".")

/-- What stands before the slash that ends a path. -/
def withoutSlashes (path : String) : String :=
  String.ofList (path.toList.reverse.dropWhile (· == '/')).reverse

/-- The paths that start with a word. -/
def files (shell : Shell) (word : String) : Except FileError (List String) := do
  let directory := String.ofList (Text.upToLast '/' word.toList)
  let typed := String.ofList (Text.lastPiece '/' word.toList)
  let opening :=
    withoutSlashes (shell.resolve (if directory.isEmpty then "." else directory)) ++ "/"
  let storage := shell.session.storage
  let paths ← storage.allPaths
  return Text.sorted (paths.filterMap fun path => do
    let name ← nameIn? opening path
    if offers typed name then
      some (directory ++ name ++ if isDirectory storage path then "/" else "")
    else none)

/-- What a word can become, given the line up to its end. -/
def candidates (shell : Shell) (word line : String) : Except FileError (List String) :=
  match place word line with
  | .reference =>
      return (variableNames shell (String.ofList (word.toList.drop 1))).map fun name => "$" ++ name
  | .command => return commands shell word
  | .variableName => return variableNames shell word
  | .file => files shell word

end Completion

end VirtualShell
