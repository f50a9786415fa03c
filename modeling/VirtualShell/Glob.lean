import VirtualShell.Fault
import VirtualShell.Path
import VirtualShell.Regex.Match
import VirtualShell.Regex.Read
import VirtualShell.Storage
import VirtualShell.Text.Order

/-!
Contract: file name patterns.

Owns:
- `Glob.expression`, the regular expression of a pattern, component by component: `*`
  and `?` stand for characters other than the slash, brackets for one character of
  a set, and a component that starts with one of them does not match a leading dot.
- `Glob.compile`, the pattern that matches whole paths.
- `Glob.expand`, the paths that a word stands for; a word that matches nothing, or
  whose expression is malformed, stands for itself.

The text between brackets is handed on as it is, but for backslashes and opening
brackets, so a set means what a regular expression says it means. A closing bracket
may come first between brackets; behind a negation it then closes the set there.
-/

namespace VirtualShell.Glob

/-- A character that makes a word a pattern. -/
def isWildcard (c : Char) : Bool :=
  c == '*' || c == '?' || c == '['

/-- Whether a word is a pattern. -/
def hasWildcard (text : String) : Bool :=
  text.toList.any isWildcard

/-- A sign that negates a set when it comes first. -/
def isNegation (c : Char) : Bool :=
  c == '!' || c == '^'

/-- The number of characters at the front of a set that cannot close it: a negation,
and a closing bracket right behind that. -/
def openingLength (chars : List Char) : Nat :=
  let signs := if chars.head?.any isNegation then 1 else 0
  if (chars.drop signs).head? == some ']' then signs + 1 else signs

/-- The text of a set up to its closing bracket, and the text behind it. -/
def setAt? (chars : List Char) : Option (List Char × List Char) :=
  let opening := openingLength chars
  match Text.cutAt ']' (chars.drop opening) with
  | some (body, rest) => some (chars.take opening ++ body, rest)
  | none => none

/-- The expression of the text between brackets. -/
def setExpression (body : List Char) : List Char :=
  let escaped (chars : List Char) := chars.flatMap fun c =>
    if c == '\\' || c == '[' then ['\\', c] else [c]
  match body with
  | c :: rest =>
      if isNegation c then '[' :: '^' :: '/' :: escaped rest ++ [']']
      else '[' :: escaped body ++ [']']
  | [] => ['[', ']']

theorem length_dropWhile_le {α : Type} (keep : α → Bool) (items : List α) :
    (items.dropWhile keep).length ≤ items.length :=
  (List.dropWhile_suffix keep).length_le

theorem length_of_setAt? {chars body rest : List Char}
    (found : setAt? chars = some (body, rest)) : rest.length < chars.length + 1 := by
  simp only [setAt?, Text.cutAt] at found
  split at found
  · rename_i cut
    split at cut
    · contradiction
    · rename_i closing behind dropped
      cases found
      cases cut
      have shorter := length_dropWhile_le (· != ']') (chars.drop (openingLength chars))
      rw [dropped] at shorter
      simp only [List.length_cons, List.length_drop] at shorter
      omega
  · contradiction

/-- The expression of the characters of a component. -/
def charsExpression (chars : List Char) : List Char :=
  match chars with
  | [] => []
  | c :: rest =>
      if c = '*' then "[^/]*".toList ++ charsExpression rest
      else if c = '?' then "[^/]".toList ++ charsExpression rest
      else if c = '[' then
        match _found : setAt? rest with
        | some (body, behind) => setExpression body ++ charsExpression behind
        | none => Regex.escapeChars [c] ++ charsExpression rest
      else Regex.escapeChars [c] ++ charsExpression rest
termination_by chars.length
decreasing_by
  · simp
  · simp
  · exact length_of_setAt? _found
  · simp
  · simp

/-- The expression of one component of a pattern. -/
def componentExpression (component : List Char) : List Char :=
  let guard := if component.head?.any isWildcard then "(?!\\.)".toList else []
  guard ++ charsExpression component

/-- The regular expression of a pattern, which has to match to the end of a path. -/
def expression (pattern : String) : String :=
  let components := (Text.piecesOf '/' pattern.toList).map componentExpression
  String.ofList (Text.joinPieces '/' components ++ ['\\', 'Z'])

/-- The pattern of an absolute file name pattern. -/
def compile (pattern : String) : Except Regex.Defect Regex.Pattern :=
  Regex.Pattern.read false (expression pattern)

/-- Whether a compiled pattern matches a whole path. -/
def isMatch (compiled : Regex.Pattern) (path : String) : Bool :=
  compiled.matchesAtStart path.toList

/-- The paths other than the root that a compiled pattern matches, sorted. -/
def matchesAmong (compiled : Regex.Pattern) (paths : List String) : List String :=
  Text.sorted (paths.filter fun path => path != "/" && isMatch compiled path)

/-- A matched path in the form of the pattern that matched it. -/
def present (cwd pattern path : String) : String :=
  if Text.startsWith pattern "/" then path
  else if Text.startsWith pattern "./" then "./" ++ Path.relative cwd path
  else Path.relative cwd path

/-- The words that a word stands for. -/
def expand (storage : Storage) (cwd pattern : String) : Except Fault (List String) :=
  if !hasWildcard pattern then .ok [pattern]
  else
    match compile (Path.resolve cwd pattern) with
    | .error .malformed => .ok [pattern]
    | .error defect => .error (.expression defect)
    | .ok compiled =>
        match storage.allPaths with
        | .error error => .error (.file error)
        | .ok paths =>
            let found := matchesAmong compiled paths
            .ok (if found.isEmpty then [pattern] else found.map (present cwd pattern))

end VirtualShell.Glob
