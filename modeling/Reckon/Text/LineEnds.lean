/-!
# Line ends in files

A file may end its lines with a carriage return, a line feed or both in this
order. Read as text, every such ending is one line feed.
-/

namespace Reckon.Text

/-- Characters with every line ending written as one line feed. -/
def unifiedLineEnds : List Char → List Char
  | [] => []
  | '\r' :: '\n' :: rest => '\n' :: unifiedLineEnds rest
  | c :: rest => (if c = '\r' then '\n' else c) :: unifiedLineEnds rest

/-- A text with every line ending written as one line feed. -/
def withUnifiedLineEnds (text : String) : String := String.ofList (unifiedLineEnds text.toList)

end Reckon.Text
