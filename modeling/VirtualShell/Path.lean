import VirtualShell.Text.Pieces

/-!
Contract: paths as texts, and the components that they stand for.

Owns:
- `Path.parts`, the components of a path read from the root: empty components and
  `.` are dropped, and `..` takes back the component before it, if there is one.
- `Path.text`, the absolute path with given components.
- `Path.normalize` and `Path.resolve`, the absolute path that a path means, alone or
  seen from a directory.
- `Path.relative`, the way from one directory to another path.
-/

namespace VirtualShell.Path

/-- The components, latest first, after one more component. -/
def pushPart (parts : List (List Char)) (part : List Char) : List (List Char) :=
  if part = [] ∨ part = ['.'] then parts
  else if part = ['.', '.'] then parts.tail
  else part :: parts

/-- The components of a path, as characters. -/
def partsOf (path : List Char) : List (List Char) :=
  ((Text.piecesOf '/' path).foldl pushPart []).reverse

/-- The components of a path, read from the root. -/
def parts (path : String) : List String :=
  (partsOf path.toList).map String.ofList

/-- The absolute path with the given components. -/
def text (parts : List String) : String :=
  "/" ++ String.intercalate "/" parts

/-- The absolute path that a path means when read from the root. -/
def normalize (path : String) : String :=
  text (parts path)

/-- The absolute path that `path` means when seen from the directory `base`. -/
def resolve (base path : String) : String :=
  if Text.startsWith path "/" then normalize path else normalize (base ++ "/" ++ path)

/-- The components of the directory that holds the entry with the given components. -/
def parentParts (parts : List String) : List String :=
  parts.dropLast

/-- The number of components that two paths share at their start. -/
def sharedLength : List String → List String → Nat
  | left :: lefts, right :: rights => if left = right then sharedLength lefts rights + 1 else 0
  | _, _ => 0

/-- The components that lead from the directory `start` to `target`. -/
def relativeParts (start target : List String) : List String :=
  let shared := sharedLength start target
  List.replicate (start.length - shared) ".." ++ target.drop shared

/-- The relative path that leads from the directory `start` to `target`. -/
def relative (start target : String) : String :=
  match relativeParts (parts start) (parts target) with
  | [] => "."
  | parts => String.intercalate "/" parts

end VirtualShell.Path
