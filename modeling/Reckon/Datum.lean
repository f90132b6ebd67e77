import Reckon.Decimal.Notation
import Reckon.Text.Quoted

/-!
# Unchecked settings

A setting arrives as a value of any kind; whether it is of use is decided by whoever
receives it, and a refusal shows the value.
-/

namespace Reckon

/-- A setting of any kind. -/
inductive Datum where
  | nothing
  | truth (value : Bool)
  | integer (value : Int)
  | decimal (value : Float)
  | text (value : String)
  | list (items : List Datum)
  | record (fields : List (String × Datum))
  deriving Inhabited

mutual

/-- A setting as messages show it. -/
def Datum.shown : Datum → String
  | .nothing => "None"
  | .truth value => if value then "True" else "False"
  | .integer value => toString value
  | .decimal value => Decimal.plain value
  | .text value => Text.quoted value
  | .list items => "[" ++ ", ".intercalate (Datum.shownItems items) ++ "]"
  | .record fields => "\x7b" ++ ", ".intercalate (Datum.shownFields fields) ++ "\x7d"

/-- The settings of a list as messages show them. -/
def Datum.shownItems : List Datum → List String
  | [] => []
  | item :: rest => item.shown :: Datum.shownItems rest

/-- The fields of a record as messages show them. -/
def Datum.shownFields : List (String × Datum) → List String
  | [] => []
  | (name, value) :: rest =>
    (Text.quoted name ++ ": " ++ value.shown) :: Datum.shownFields rest

end

end Reckon
