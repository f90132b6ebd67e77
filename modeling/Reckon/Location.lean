import Reckon.Text.Quoted

/-!
# Places in a source text

Lines count from one, columns from one within their line, offsets from zero. The
place before the first character has column zero and offset minus one. A place that is
given from outside is shown as it is given, whatever its numbers.
-/

namespace Reckon

/-- A place in a named text. -/
structure Location where
  file : String
  line : Int
  column : Int
  offset : Int
  deriving DecidableEq, Repr

/-- The form used in reports: file, line and column. -/
def Location.text (location : Location) : String :=
  location.file ++ ":" ++ toString location.line ++ ":" ++ toString location.column

/-- The form that shows every part. -/
def Location.detail (location : Location) : String :=
  "SourceLocation(" ++ Text.quoted location.file ++ ", " ++ toString location.line ++ ", " ++
    toString location.column ++ ", " ++ toString location.offset ++ ")"

end Reckon
