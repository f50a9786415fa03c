/-!
Contract: cutting a text at a character or a mark, and joining the pieces again.

Owns:
- `piecesOf`, the pieces between the occurrences of a separator; there is always at
  least one piece, and the pieces joined by the separator are the text.
- `cutAtMark`, the text before and after the first occurrence of a mark.
- `lastPiece` and `upToLast`, the two sides of the last occurrence of a separator.
-/

namespace VirtualShell.Text

/-- The pieces between the occurrences of `separator`, as the first piece and the
pieces after it. -/
def cutPieces (separator : Char) (chars : List Char) : List Char × List (List Char) :=
  chars.foldr
    (fun c (first, others) => if c = separator then ([], first :: others) else (c :: first, others))
    ([], [])

/-- The pieces between the occurrences of `separator`. -/
def piecesOf (separator : Char) (chars : List Char) : List (List Char) :=
  (cutPieces separator chars).1 :: (cutPieces separator chars).2

/-- Pieces joined by a separator. -/
def joinPieces (separator : Char) (pieces : List (List Char)) : List Char :=
  List.intercalate [separator] pieces

/-- The pieces of a text between the occurrences of `separator`. -/
def pieces (separator : Char) (text : String) : List String :=
  (piecesOf separator text.toList).map String.ofList

/-- What stands before and after the first occurrence of `mark`. -/
def cutAtMark (mark : List Char) : List Char → Option (List Char × List Char)
  | [] => if mark.isEmpty then some ([], []) else none
  | c :: rest =>
      if mark.isPrefixOf (c :: rest) then some ([], (c :: rest).drop mark.length)
      else (cutAtMark mark rest).map fun (before, after) => (c :: before, after)

/-- What stands before and after the first character equal to `separator`. -/
def cutAt (separator : Char) (chars : List Char) : Option (List Char × List Char) :=
  match chars.dropWhile (· != separator) with
  | [] => none
  | _ :: after => some (chars.takeWhile (· != separator), after)

/-- What follows the last occurrence of `separator`; the whole text without one. -/
def lastPiece (separator : Char) (chars : List Char) : List Char :=
  (chars.reverse.takeWhile (· != separator)).reverse

/-- The text up to and including the last occurrence of `separator`; empty without one. -/
def upToLast (separator : Char) (chars : List Char) : List Char :=
  (chars.reverse.dropWhile (· != separator)).reverse

/-- Whether `text` starts with `opening`. -/
def startsWith (text opening : String) : Bool :=
  opening.toList.isPrefixOf text.toList

/-- Whether `text` ends with `ending`. -/
def endsWith (text ending : String) : Bool :=
  ending.toList.isSuffixOf text.toList

/-- The texts joined by `separator`. -/
def joinWith (separator : String) (texts : List String) : String :=
  String.intercalate separator texts

/-- A text filled on the left with spaces to at least `width` characters. -/
def padLeft (width : Nat) (text : String) : String :=
  String.ofList (List.replicate (width - text.length) ' ') ++ text

theorem piecesOf_ne_nil (separator : Char) (chars : List Char) :
    piecesOf separator chars ≠ [] := by
  simp [piecesOf]

end VirtualShell.Text
