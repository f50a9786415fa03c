/-!
Contract: the order of texts, by code point.

Owns:
- `notAfter`, whether a text comes before another or is the same.
- `sorted`, texts in this order.
-/

namespace VirtualShell.Text

/-- Whether `left` comes before `right` or is the same text. -/
def notAfter (left right : String) : Bool :=
  !decide (right < left)

/-- Texts in the order of their code points. -/
def sorted (texts : List String) : List String :=
  texts.mergeSort notAfter

end VirtualShell.Text
