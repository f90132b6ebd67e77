import Reckon.Text.Printable

/-!
# Quoted texts

A text is shown between single quotes, or between double quotes when it holds a
single quote and no double one. The backslash and the quote in use are escaped
by a backslash, the three common line controls have short escapes, and every
other unprintable character is written by its code point in hexadecimal, in the
narrowest of two, four or eight digits.
-/

namespace Reckon.Text

/-- The lower-case hexadecimal digit of a number below sixteen. -/
def hexDigit (value : Nat) : Char :=
  if value < 10 then Char.ofNat ('0'.toNat + value) else Char.ofNat ('a'.toNat + (value - 10))

/-- The last `width` hexadecimal digits of a number, most significant first. -/
def hexDigits : Nat → Nat → List Char
  | 0, _ => []
  | width + 1, value => hexDigits width (value / 16) ++ [hexDigit (value % 16)]

/-- The quote that surrounds a text. -/
def chosenQuote (text : List Char) : Char :=
  if text.contains '\'' && !text.contains '"' then '"' else '\''

/-- One character as it stands between the given quotes. -/
def escaped (quote c : Char) : List Char :=
  if c = quote || c = '\\' then ['\\', c]
  else if c = '\n' then ['\\', 'n']
  else if c = '\r' then ['\\', 'r']
  else if c = '\t' then ['\\', 't']
  else if isPrintable c then [c]
  else if c.toNat < 0x100 then '\\' :: 'x' :: hexDigits 2 c.toNat
  else if c.toNat < 0x10000 then '\\' :: 'u' :: hexDigits 4 c.toNat
  else '\\' :: 'U' :: hexDigits 8 c.toNat

/-- The quoted form of a text. -/
def quoted (text : String) : String :=
  let quote := chosenQuote text.toList
  String.ofList (quote :: text.toList.flatMap (escaped quote) ++ [quote])

end Reckon.Text
