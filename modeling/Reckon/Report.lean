import Reckon.Decimal.Notation

/-!
# Report templates

A template is a text with fields in braces that stand for one number. A field names
the number, and may ask for a notation: plain by default or by `!r` or `!s`, and after
a colon fixed (`f`), scientific (`e`) or general (`g`), each with a number of digits
after a point in front of the letter, or six. A doubled brace is a brace.

A field that asks for anything else is written as it stands.
-/

namespace Reckon

namespace Report

/-- How a field wants its number written. -/
inductive Style where
  | plain
  | fixed (places : Nat)
  | scientific (places : Nat)
  | general (digits : Nat)
  deriving DecidableEq, Repr

/-- Writes a number in a style. -/
def Style.write : Style → Float → String
  | plain, value => Decimal.plain value
  | fixed places, value => Decimal.fixed places value
  | scientific places, value => Decimal.scientific places value
  | general digits, value => Decimal.general (max digits 1) value

/-- The style for a letter and a number of digits. -/
def styleOf? (letter : Char) (digits : Nat) : Option Style :=
  if letter = 'f' then some (.fixed digits)
  else if letter = 'e' then some (.scientific digits)
  else if letter = 'g' then some (.general digits)
  else none

/-- The style that a specification asks for: a letter, or a point, digits and a letter. -/
def specifiedStyle? : List Char → Option Style
  | [] => some .plain
  | [letter] => styleOf? letter 6
  | '.' :: rest =>
    let digits := rest.takeWhile Char.isDigit
    match rest.dropWhile Char.isDigit with
    | [letter] =>
      if digits.isEmpty then none else styleOf? letter (Nat.ofDigitChars 10 digits 0)
    | _ => none
  | _ => none

/-- The style that the text of a field asks for. -/
def fieldStyle? (field : List Char) : Option Style :=
  if field = "value".toList || field = "value!r".toList || field = "value!s".toList then some .plain
  else if "value:".toList.isPrefixOf field then specifiedStyle? (field.drop 6)
  else none

/-- Writes a template. `field` holds the characters of an open field in reverse. -/
def fillFrom (value : Float) : Option (List Char) → List Char → List Char
  | none, [] => []
  | some field, [] => '\x7b' :: field.reverse
  | none, '\x7b' :: '\x7b' :: rest => '\x7b' :: fillFrom value none rest
  | none, '\x7d' :: '\x7d' :: rest => '\x7d' :: fillFrom value none rest
  | none, c :: rest =>
    if c = '\x7b' then fillFrom value (some []) rest else c :: fillFrom value none rest
  | some field, c :: rest =>
    if c = '\x7d' then
      match fieldStyle? field.reverse with
      | some style => (style.write value).toList ++ fillFrom value none rest
      | none => '\x7b' :: field.reverse ++ '\x7d' :: fillFrom value none rest
    else fillFrom value (some (c :: field)) rest

/-- A template with its fields filled in. -/
def fill (template : String) (value : Float) : String :=
  String.ofList (fillFrom value none template.toList)

end Report

end Reckon
