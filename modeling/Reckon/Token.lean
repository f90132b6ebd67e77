import Reckon.Location
import Reckon.Number
import Reckon.Decimal.Notation

/-!
# Tokens

A token is a kind, the characters it was read from and the place of the first of
them. Its value follows from the kind and the lexeme, so it is not stored.
-/

namespace Reckon

/-- The kinds of token. Every character that starts no word and no number is a
symbol on its own. -/
inductive TokenKind where
  | endOfInput
  | define
  | declare
  | identifier
  | number
  | symbol
  deriving DecidableEq, Repr

/-- The name of a kind in detailed listings. -/
def TokenKind.label : TokenKind → String
  | .endOfInput => "EOF"
  | .define => "DEF"
  | .declare => "EXTERN"
  | .identifier => "IDENTIFIER"
  | .number => "NUMBER"
  | .symbol => "CHAR"

/-- The kind of a word: one of the two keywords or an identifier. -/
def TokenKind.ofWord (word : String) : TokenKind :=
  if word = "def" then .define else if word = "extern" then .declare else .identifier

/-- Words are of their own kinds. -/
theorem TokenKind.ofWord_ne (word : String) :
    ofWord word ≠ .endOfInput ∧ ofWord word ≠ .number ∧ ofWord word ≠ .symbol := by
  unfold ofWord
  split
  · simp
  · split <;> simp

/-- A lexical unit of a source text. -/
structure Token where
  kind : TokenKind
  lexeme : String
  location : Location
  deriving DecidableEq, Repr

/-- What a token stands for: a number, a text, or nothing beyond its kind. -/
inductive TokenValue where
  | nothing
  | text (content : String)
  | number (value : Float)

/-- The value of a token. Keywords and the end of input have none. -/
def Token.value (token : Token) : TokenValue :=
  match token.kind with
  | .number => .number (lexemeValue token.lexeme)
  | .identifier | .symbol => .text token.lexeme
  | .endOfInput | .define | .declare => .nothing

/-- Whether a token is the given symbol. -/
def Token.isSymbol (token : Token) (symbol : Char) : Bool :=
  token.kind == .symbol && token.lexeme == symbol.toString

/-- The form of a token in messages. -/
def Token.text (token : Token) : String :=
  match token.kind with
  | .symbol => Text.quoted token.lexeme
  | .endOfInput => "end of input"
  | .define => "def " ++ Text.quoted token.lexeme
  | .declare => "extern " ++ Text.quoted token.lexeme
  | .identifier => "identifier " ++ Text.quoted token.lexeme
  | .number => "number " ++ Text.quoted token.lexeme

/-- The form of a value in detailed listings. -/
def TokenValue.detail : TokenValue → String
  | .nothing => "None"
  | .text content => Text.quoted content
  | .number value => Decimal.plain value

/-- The form of a token that shows every part. -/
def Token.detail (token : Token) : String :=
  "Token(" ++ token.kind.label ++ ", " ++ Text.quoted token.lexeme ++ ", " ++
    token.value.detail ++ ", " ++ token.location.detail ++ ")"

end Reckon
