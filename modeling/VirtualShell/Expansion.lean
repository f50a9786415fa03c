import VirtualShell.Glob
import VirtualShell.Parameter
import VirtualShell.Text.Blank
import VirtualShell.Token

/-!
Contract: what the words of a command stand for when it runs.

Owns:
- `expandTilde`, `expandWord`, `expandArgument` and `expandListItem`.

Single-quoted text stands for itself. In all other text the references are replaced,
and an unquoted tilde in front is the home directory. A word without any quoting is
also a file name pattern. Only the words of a loop are split at white space.
-/

namespace VirtualShell

/-- A text in which a tilde in front, alone or before a slash, is the home directory. -/
def expandTilde (home text : String) : String :=
  if text = "~" ∨ Text.startsWith text "~/" then home ++ String.ofList (text.toList.drop 1)
  else text

/-- What a segment stands for; `isFirst` says that it starts its word. -/
def expandSegment (parameters : Parameters) (isFirst : Bool) (segment : Segment) : String :=
  match segment.quoting with
  | .single => segment.text
  | .double => expandVariables parameters segment.text
  | .unquoted =>
      let home := (parameters.environment.get? "HOME").getD "/"
      expandVariables parameters
        (if isFirst then expandTilde home segment.text else segment.text)

/-- What a word stands for as one text. -/
def expandWord (parameters : Parameters) (word : Word) : String :=
  match word.segments with
  | [] => ""
  | first :: others =>
      expandSegment parameters true first ++
        String.join (others.map (expandSegment parameters false))

/-- Where words are expanded: the parameters, the storage and the working directory. -/
structure Surroundings where
  parameters : Parameters
  storage : Storage
  cwd : String

/-- What a word stands for among the arguments of a command. -/
def expandArgument (surroundings : Surroundings) (word : Word) : Except Fault (List String) :=
  let text := expandWord surroundings.parameters word
  if word.isQuoted then .ok [text] else Glob.expand surroundings.storage surroundings.cwd text

/-- What a word stands for among the words of a loop. -/
def expandListItem (surroundings : Surroundings) (word : Word) : Except Fault (List String) :=
  let text := expandWord surroundings.parameters word
  if word.isQuoted then .ok [text]
  else
    ((Text.fields text).mapM (Glob.expand surroundings.storage surroundings.cwd)).map List.flatten

end VirtualShell
