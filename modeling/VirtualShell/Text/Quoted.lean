import VirtualShell.Text.Printable

/-!
Contract: the quoted form of a text, in which every character can be told apart.

Owns:
- `quoted`, the text between single quotes, or between double quotes if it holds a
  single quote and no double quote. The backslash and the quote are escaped, the
  tab, line feed and carriage return have short escapes, and a character that is
  not printable is written as its code point.
-/

namespace VirtualShell.Text

/-- A number in lower-case hexadecimal digits, filled with zeros to `width`. -/
def hexadecimal (width : Nat) (value : Nat) : String :=
  let digits := Nat.toDigits 16 value
  String.ofList (List.replicate (width - digits.length) '0' ++ digits)

/-- One character inside a quoted text. -/
def quotedChar (quote : Char) (c : Char) : String :=
  if c == quote || c == '\\' then String.ofList ['\\', c]
  else if c == '\t' then "\\t"
  else if c == '\n' then "\\n"
  else if c == '\r' then "\\r"
  else if isPrintable c then String.singleton c
  else if c.toNat < 0x100 then "\\x" ++ hexadecimal 2 c.toNat
  else if c.toNat < 0x10000 then "\\u" ++ hexadecimal 4 c.toNat
  else "\\U" ++ hexadecimal 8 c.toNat

/-- The quote that a quoted text is written with. -/
def quoteFor (text : String) : Char :=
  if text.toList.contains '\'' && !text.toList.contains '"' then '"' else '\''

/-- A text in quotes. -/
def quoted (text : String) : String :=
  let quote := quoteFor text
  String.singleton quote ++ String.join (text.toList.map (quotedChar quote)) ++
    String.singleton quote

end VirtualShell.Text
