import Reckon.Proofs.Reading.Contract
import Reckon.Proofs.Token.Words
import Reckon.Reading.Program

/-!
# What trees that were read are made of

A tree that was read carries no unit where an expression belongs, and the functions that
it calls are words. So are the names of the functions that are declared or defined,
except that a bare expression is wrapped under the reserved name.
-/

namespace Reckon

/-- A tree of numbers, references, operators and calls of words. -/
inductive Node.Spelled : Node → Prop
  | number (value : Float) (location : Option Location) : Spelled (.number value location)
  | reference (name : String) (location : Option Location) : Spelled (.reference name location)
  | binary (operator : String) {left right : Node} (location : Option Location)
      (spelledLeft : Spelled left) (spelledRight : Spelled right) :
      Spelled (.binary operator left right location)
  | call {callee : String} {arguments : List Node} (location : Option Location)
      (word : IsWord callee) (spelled : ∀ argument ∈ arguments, Spelled argument) :
      Spelled (.call callee arguments location)

/-- A unit with trees and names as they are read. -/
def ProgramUnit.Spelled : ProgramUnit → Prop
  | .definition function => IsWord function.prototype.name ∧ function.body.Spelled
  | .declaration prototype => IsWord prototype.name
  | .expression function => ∃ body : Node, body.Spelled ∧ function = .anonymous body

namespace Reader

variable {α β : Type}

/-- Every result is as wanted. -/
def Yields (wanted : α → Prop) : Outcome α → Prop
  | .parsed value _ => wanted value
  | .failed _ _ => True

/-- A value as wanted is yielded. -/
theorem yields_pure {wanted : α → Prop} {value : α} (holds : wanted value) (cursor : Cursor) :
    Ensures (pure value) cursor (Yields wanted) := ensures_pure holds

/-- A refusal yields no result, so none is unwanted. -/
theorem yields_refuse {wanted : α → Prop} (expected : Expectation) (cursor : Cursor) :
    Ensures (refuse expected) cursor (Yields wanted) := ensures_refuse trivial

/-- If every wanted result leads on to what is wanted in the end, so does the whole. -/
theorem yields_bind {wanted : α → Prop} {goal : β → Prop} {first : Reader α} {next : α → Reader β}
    {cursor : Cursor} (start : Ensures first cursor (Yields wanted))
    (rest : ∀ value after, wanted value → Ensures (next value) after (Yields goal)) :
    Ensures (first >>= next) cursor (Yields goal) :=
  start.bind (fun _ _ _ => trivial) rest

/-- Behind a symbol goes on what is wanted. -/
theorem yields_symbol {goal : β → Prop} {character : Char} {expected : Expectation}
    {next : Unit → Reader β} {cursor : Cursor}
    (rest : ∀ after, Ensures (next ()) after (Yields goal)) :
    Ensures (symbol character expected >>= next) cursor (Yields goal) :=
  ensures_symbol (fun _ => rest _) fun _ => trivial

/-- The readers of expressions yield trees of words at the given depth. -/
structure Spells (operators : Operators) (depth : Nat) : Prop where
  primary (cursor : Cursor) : Ensures (primary operators depth) cursor (Yields Node.Spelled)
  parenthesised (cursor : Cursor) :
    Ensures (parenthesised operators depth) cursor (Yields Node.Spelled)
  named (cursor : Cursor) (kind : cursor.nextToken.kind = .identifier) :
    Ensures (named operators depth) cursor (Yields Node.Spelled)
  arguments (cursor : Cursor) : Ensures (arguments operators depth) cursor
    (Yields fun nodes => ∀ node ∈ nodes, node.Spelled)
  expression (cursor : Cursor) : Ensures (expression operators depth) cursor (Yields Node.Spelled)
  operation (cursor : Cursor) (least : Int) (left : Node) (spelled : left.Spelled) :
    Ensures (operation operators depth least left) cursor (Yields Node.Spelled)

/-- At every depth, trees of words are read. -/
theorem spells (operators : Operators) (depth : Nat) : Spells operators depth := by
  induction depth with
  | zero => constructor <;> intros <;> exact ensures_exhausted _ _
  | succ depth below =>
    constructor
    case primary =>
      intro cursor
      rw [primary]
      apply ensures_peek
      by_cases kind : cursor.nextToken.kind = .identifier
      · rw [if_pos kind]
        exact below.named cursor kind
      · rw [if_neg kind]
        split
        · exact ensures_peek (ensures_advance (yields_pure (.number _ _) _))
        · split
          · exact below.parenthesised cursor
          · exact yields_refuse _ _
    case parenthesised =>
      intro cursor
      rw [parenthesised]
      refine ensures_advance (yields_bind (below.expression _) fun inner after spelled => ?_)
      exact yields_symbol fun _ => yields_pure spelled _
    case named =>
      intro cursor kind
      have word := Cursor.isWord_of_identifier kind
      rw [named]
      refine ensures_peek (ensures_advance (ensures_peek ?_))
      split
      · refine ensures_advance (ensures_peek ?_)
        split
        · refine ensures_advance (yields_pure (.call _ word ?_) _)
          intro argument member
          cases member
        · apply yields_bind (below.arguments _)
          intro arguments after spelled
          exact yields_pure (.call _ word spelled) _
      · exact yields_pure (.reference _ _) _
    case arguments =>
      intro cursor
      rw [arguments]
      refine yields_bind (below.expression _) fun first after spelled => ensures_peek ?_
      split
      · refine ensures_advance (yields_pure ?_ _)
        intro node member
        rw [List.mem_singleton.mp member]
        exact spelled
      · apply yields_symbol
        intro _
        refine yields_bind (below.arguments _) fun others after spelledOthers => yields_pure ?_ _
        exact List.forall_mem_cons.mpr ⟨spelled, spelledOthers⟩
    case expression =>
      intro cursor
      rw [expression]
      exact yields_bind (below.primary _) fun first after spelled =>
        below.operation after 0 first spelled
    case operation =>
      intro cursor least left spelled
      rw [operation]
      apply ensures_peek
      split
      · exact yields_pure spelled _
      · refine ensures_advance (yields_bind (below.primary _) fun operand read spelledOperand => ?_)
        have right (bound : Int) : Ensures
            (if bound < operators.precedence read.nextToken then
              operation operators depth (bound + 1) operand
            else pure operand) read (Yields Node.Spelled) := by
          split
          · exact below.operation read _ operand spelledOperand
          · exact yields_pure spelledOperand _
        refine ensures_peek (yields_bind (right _) fun right after spelledRight => ?_)
        exact below.operation after least _ (.binary _ _ spelled spelledRight)

/-- Prototypes are read under a word. -/
theorem prototype_spells (depth : Nat) (cursor : Cursor) :
    Ensures (prototype depth) cursor (Yields fun header => IsWord header.name) := by
  unfold prototype
  apply ensures_peek
  by_cases kind : cursor.nextToken.kind = .identifier
  · rw [if_pos kind]
    refine ensures_advance (yields_symbol fun opened => ?_)
    have any : Ensures (parameters depth) opened (Yields fun _ => True) := by
      intro outcome _
      cases outcome <;> trivial
    refine yields_bind any fun names after _ => yields_symbol fun closed => ?_
    exact ensures_pure (Cursor.isWord_of_identifier kind)
  · rw [if_neg kind]
    exact yields_refuse _ _

end Reader

namespace Cursor

/-- What is wanted of every result holds for the result. -/
theorem read_yields {α : Type} {bound : Nat} {cursor after : Cursor} {reader : Reader α}
    {settles : reader.Settles cursor bound} (wanted : α → Prop) {value : α}
    (kept : reader.Ensures cursor (Reader.Yields wanted))
    (reads : cursor.read reader settles = .parsed value after) : wanted value := by
  have holds : Reader.Yields wanted (cursor.read reader settles) := read_ensures kept
  rw [reads] at holds
  exact holds

/-- Units are read with trees of words, under words. -/
theorem readUnit_spelled {operators : Operators} {cursor after : Cursor} {unit : ProgramUnit}
    (reads : cursor.readUnit operators = .parsed unit after) : unit.Spelled := by
  unfold readUnit at reads
  split at reads
  · cases read : cursor.readDefinition operators with
    | failed error stopped =>
      rw [read] at reads
      cases reads
    | parsed function last =>
      rw [read] at reads
      cases reads
      refine read_yields (fun function : Definition =>
        IsWord function.prototype.name ∧ function.body.Spelled) ?_ read
      refine Reader.ensures_peek (Reader.ensures_advance ?_)
      apply Reader.yields_bind (Reader.prototype_spells _ _)
      intro header after word
      refine Reader.yields_bind ((Reader.spells operators _).expression _)
        fun body after spelled => ?_
      exact Reader.yields_pure ⟨word, spelled⟩ _
  · cases read : cursor.readDeclaration with
    | failed error stopped =>
      rw [read] at reads
      cases reads
    | parsed header last =>
      rw [read] at reads
      cases reads
      refine read_yields (fun header : Prototype => IsWord header.name) ?_ read
      exact Reader.ensures_advance (Reader.prototype_spells _ _)
  · cases read : cursor.readAnonymous operators with
    | failed error stopped =>
      rw [read] at reads
      cases reads
    | parsed function last =>
      rw [read] at reads
      cases reads
      refine read_yields (fun function : Definition =>
        ∃ body : Node, body.Spelled ∧ function = .anonymous body) ?_ read
      refine Reader.yields_bind ((Reader.spells operators _).expression _)
        fun body after spelled => ?_
      exact Reader.yields_pure ⟨body, spelled, rfl⟩ _

end Cursor

end Reckon
