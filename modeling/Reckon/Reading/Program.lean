import Reckon.Node.Notation
import Reckon.Reading.Totality

/-!
# Reading programs

A program is a sequence of units; semicolons between them are skipped. The token in
front of a unit tells its kind: one keyword each for definitions and declarations,
and anything else starts a bare expression.

After a syntax error one token is skipped, the one that did not fit, and reading
goes on with the next unit.

A listing finds out the kind of a unit by itself, and so does a dialogue. Both come to
the unit that is read here, so that what is shown of units holds of either.
-/

namespace Reckon

/-- A unit of a program. -/
inductive ProgramUnit where
  | definition (function : Definition)
  | declaration (prototype : Prototype)
  | expression (function : Definition)

/-- Reads a unit of the kind that the next token announces. -/
def Cursor.readUnit (operators : Operators) (cursor : Cursor) : Outcome ProgramUnit :=
  match cursor.nextToken.kind with
  | .define => (cursor.readDefinition operators).map .definition
  | .declare => cursor.readDeclaration.map .declaration
  | _ => (cursor.readAnonymous operators).map .expression

/-- What is done about the unit that is read is done about a unit of the kind that the next token
announces. -/
theorem Cursor.apply_readUnit {α : Type} (receive : Outcome ProgramUnit → α)
    (operators : Operators) (cursor : Cursor) :
    receive (cursor.readUnit operators) =
      match cursor.nextToken.kind with
      | .define => receive ((cursor.readDefinition operators).map .definition)
      | .declare => receive (cursor.readDeclaration.map .declaration)
      | _ => receive ((cursor.readAnonymous operators).map .expression) := by
  unfold Cursor.readUnit
  generalize cursor.nextToken.kind = kind
  cases kind <;> rfl

/-- The prefix form of a definition, or the complaint about its body. -/
def Definition.line (definition : Definition) : String :=
  match definition.listed with
  | .ok text => text
  | .error misplaced => misplaced.message

/-- The prefix form of a declaration. -/
def Prototype.declarationLine (prototype : Prototype) : String :=
  "(extern " ++ prototype.listed ++ ")"

/-- The prefix form of a unit. -/
def ProgramUnit.line : ProgramUnit → String
  | .definition function => function.line
  | .declaration prototype => prototype.declarationLine
  | .expression function => function.line

/-- A program in prefix form, one unit a line, and the reports of its syntax errors. -/
structure Listing where
  failures : Nat
  lines : String
  reports : String
  deriving DecidableEq, Repr

namespace Listing

/-- The listing of a program without units. -/
def empty : Listing := { failures := 0, lines := "", reports := "" }

/-- Puts a line in front. -/
def withLine (line : String) (listing : Listing) : Listing :=
  { listing with lines := line ++ "\n" ++ listing.lines }

/-- Puts a syntax error in front. -/
def withError (error : SyntaxError) (listing : Listing) : Listing :=
  { listing with
    failures := listing.failures + 1
    reports := error.diagnostic.text ++ listing.reports }

/-- Lists what has been read in front of what follows it. After a syntax error the token that did
not fit is skipped. -/
def received {α : Type} (line : α → String) (following : Cursor → Listing) : Outcome α → Listing
  | .parsed value after => (following after).withLine (line value)
  | .failed error stopped => (following stopped.pastToken).withError error

/-- Lists what follows a cursor, at most `limit` units, separators and errors. -/
def listWithin (operators : Operators) : Nat → Cursor → Listing
  | 0, _ => empty
  | limit + 1, cursor =>
    if cursor.nextToken.kind = .endOfInput then empty
    else if cursor.nextToken.isSymbol ';' then listWithin operators limit cursor.pastToken
    else
      match cursor.nextToken.kind with
      | .define =>
        received Definition.line (listWithin operators limit) (cursor.readDefinition operators)
      | .declare =>
        received Prototype.declarationLine (listWithin operators limit) cursor.readDeclaration
      | _ => received Definition.line (listWithin operators limit) (cursor.readAnonymous operators)

/-- It makes no difference to a listing whether the kind of a unit is found out before or after
the unit is read. -/
theorem received_map {α : Type} (wrap : α → ProgramUnit) (following : Cursor → Listing)
    (outcome : Outcome α) :
    received ProgramUnit.line following (outcome.map wrap) =
      received (fun value => (wrap value).line) following outcome := by
  cases outcome <;> rfl

/-- A listing comes to the unit at its cursor. -/
theorem listWithin_succ (operators : Operators) (limit : Nat) (cursor : Cursor) :
    listWithin operators (limit + 1) cursor =
      if cursor.nextToken.kind = .endOfInput then empty
      else if cursor.nextToken.isSymbol ';' then listWithin operators limit cursor.pastToken
      else received ProgramUnit.line (listWithin operators limit) (cursor.readUnit operators) := by
  rw [Cursor.apply_readUnit (received ProgramUnit.line _), received_map, received_map,
    received_map]
  rfl

end Listing

/-- Lists a program. Every unit, separator and error takes at least one character. -/
def Cursor.listing (operators : Operators) (cursor : Cursor) : Listing :=
  Listing.listWithin operators (cursor.rest.length + 1) cursor

end Reckon
