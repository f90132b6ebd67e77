import Reckon.Proofs.Reading.Contract

/-!
# How a row of operators is grouped

A row is a first operand and pairs of an operator and an operand. A grouping of it is a
binary tree over its operands, which are opaque here: whatever the reader of operands
gives, parenthesised or not, is one leaf. A grouping is by precedence if no operator
stands directly to the left of one that binds tighter, nor to the right of one that
binds as tightly or tighter.

The root of such a grouping is the last of the operators that bind least, so there is
one grouping of every row. Precedence climbing builds it.
-/

namespace Reckon

/-- A binary tree over operands. -/
inductive Grouping where
  | operand (node : Node)
  | operation (operator : Token) (left right : Grouping)

namespace Grouping

/-- The expression that a grouping stands for. An operation stands where its operator does. -/
def tree : Grouping → Node
  | operand node => node
  | operation operator left right =>
    .binary operator.lexeme left.tree right.tree (some operator.location)

/-- The first operand in order. -/
def first : Grouping → Node
  | operand node => node
  | operation _ left _ => left.first

/-- The operators in order, each with the operand that follows it. -/
def others : Grouping → List (Token × Node)
  | operand _ => []
  | operation operator left right => left.others ++ (operator, right.first) :: right.others

/-- The root is an operand, or an operator of at least this precedence. -/
def AtLeast (operators : Operators) (least : Int) : Grouping → Prop
  | operand _ => True
  | operation operator _ _ => least ≤ operators.precedence operator

/-- The root is an operand, or an operator of a greater precedence. -/
def Above (operators : Operators) (precedence : Int) : Grouping → Prop
  | operand _ => True
  | operation operator _ _ => precedence < operators.precedence operator

/-- The operand to the left of each operator binds at least as tightly, and the one to its
right more tightly. -/
def ByPrecedence (operators : Operators) : Grouping → Prop
  | operand _ => True
  | operation operator left right =>
    left.AtLeast operators (operators.precedence operator) ∧
      right.Above operators (operators.precedence operator) ∧
      left.ByPrecedence operators ∧ right.ByPrecedence operators

variable {operators : Operators}

/-- Precedences are integers. -/
theorem atLeast_of_above {grouping : Grouping} {precedence : Int}
    (above : grouping.Above operators precedence) :
    grouping.AtLeast operators (precedence + 1) := by
  cases grouping with
  | operand node => trivial
  | operation operator left right => exact above

/-- No operator in a grouping by precedence binds less than the root. -/
theorem le_precedence_of_mem {grouping : Grouping} {least : Int}
    (ordered : grouping.ByPrecedence operators) (bound : grouping.AtLeast operators least)
    {operator : Token} {node : Node} (member : (operator, node) ∈ grouping.others) :
    least ≤ operators.precedence operator := by
  induction grouping generalizing least with
  | operand node => cases member
  | operation root left right leftHypothesis rightHypothesis =>
    obtain ⟨leftBound, rightBound, leftOrdered, rightOrdered⟩ := ordered
    have rootBound : least ≤ operators.precedence root := bound
    rcases List.mem_append.mp member with inLeft | atOrAfter
    · exact Int.le_trans rootBound (leftHypothesis leftOrdered leftBound inLeft)
    · rcases List.mem_cons.mp atOrAfter with same | inRight
      · cases same
        exact rootBound
      · have above := rightHypothesis rightOrdered (atLeast_of_above rightBound) inRight
        omega

/-- Operators to the right of the root bind more tightly. -/
theorem lt_precedence_of_mem {grouping : Grouping} {precedence : Int}
    (ordered : grouping.ByPrecedence operators) (above : grouping.Above operators precedence)
    {operator : Token} {node : Node} (member : (operator, node) ∈ grouping.others) :
    precedence < operators.precedence operator := by
  have atLeast := le_precedence_of_mem ordered (atLeast_of_above above) member
  omega

/-- Two roots at different places of one row contradict each other: the one further left
would bind as tightly as the other at least, and the other more tightly. -/
theorem not_root_before_root {operator other : Token} {left right otherLeft otherRight : Grouping}
    (ordered : (operation operator left right).ByPrecedence operators)
    (otherOrdered : (operation other otherLeft otherRight).ByPrecedence operators)
    {between : List (Token × Node)}
    (before : otherLeft.others = left.others ++ (operator, right.first) :: between)
    (after : right.others = between ++ (other, otherRight.first) :: otherRight.others) : False := by
  obtain ⟨_, above, _, rightOrdered⟩ := ordered
  obtain ⟨atLeast, _, leftOrdered, _⟩ := otherOrdered
  have inLeft : (operator, right.first) ∈ otherLeft.others := by simp [before]
  have inRight : (other, otherRight.first) ∈ right.others := by simp [after]
  have least := le_precedence_of_mem leftOrdered atLeast inLeft
  have more := lt_precedence_of_mem rightOrdered above inRight
  omega

/-- There is at most one grouping of a row by precedence. -/
theorem eq_of_same_row {grouping other : Grouping} (ordered : grouping.ByPrecedence operators)
    (otherOrdered : other.ByPrecedence operators) (sameFirst : grouping.first = other.first)
    (sameOthers : grouping.others = other.others) : grouping = other := by
  induction grouping generalizing other with
  | operand node =>
    cases other with
    | operand otherNode => exact congrArg operand sameFirst
    | operation operator left right => simp [others] at sameOthers
  | operation operator left right leftHypothesis rightHypothesis =>
    cases other with
    | operand node => simp [others] at sameOthers
    | operation root otherLeft otherRight =>
      obtain ⟨_, _, leftOrdered, rightOrdered⟩ := id ordered
      obtain ⟨_, _, otherLeftOrdered, otherRightOrdered⟩ := id otherOrdered
      have samePlace : left.others = otherLeft.others ∧
          (operator, right.first) :: right.others =
            (root, otherRight.first) :: otherRight.others := by
        rcases List.append_eq_append_iff.mp sameOthers with
          ⟨between, front, back⟩ | ⟨between, front, back⟩
        · cases between with
          | nil => exact ⟨by simpa using front.symm, by simpa using back⟩
          | cons item rest =>
            obtain ⟨rfl, after⟩ := List.cons.inj back
            exact (not_root_before_root ordered otherOrdered front after).elim
        · cases between with
          | nil => exact ⟨by simpa using front, by simpa using back.symm⟩
          | cons item rest =>
            obtain ⟨rfl, after⟩ := List.cons.inj back
            exact (not_root_before_root otherOrdered ordered front after).elim
      obtain ⟨sameLeft, sameRest⟩ := samePlace
      obtain ⟨sameRoot, sameRight⟩ := List.cons.inj sameRest
      obtain ⟨rfl, sameRightFirst⟩ := Prod.mk.inj sameRoot
      rw [leftHypothesis leftOrdered otherLeftOrdered sameFirst sameLeft,
        rightHypothesis rightOrdered otherRightOrdered sameRightFirst sameRight]

end Grouping

/-- Reading pairs of an operator of at least the given precedence and an operand leads from the
first cursor to the second. -/
inductive ReadsPairs (operators : Operators) (least : Int) :
    Cursor → List (Token × Node) → Cursor → Prop
  | done (cursor : Cursor) : ReadsPairs operators least cursor [] cursor
  | pair (cursor : Cursor) {operand : Node} {read after : Cursor} {pairs : List (Token × Node)}
      (binds : least ≤ operators.precedence cursor.nextToken)
      (reads : cursor.pastToken.readPrimary operators = .parsed operand read)
      (rest : ReadsPairs operators least read pairs after) :
      ReadsPairs operators least cursor ((cursor.nextToken, operand) :: pairs) after

namespace ReadsPairs

variable {operators : Operators}

/-- Rows are read one after the other. -/
theorem append {least : Int} {first second third : Cursor} {front back : List (Token × Node)}
    (start : ReadsPairs operators least first front second)
    (rest : ReadsPairs operators least second back third) :
    ReadsPairs operators least first (front ++ back) third := by
  induction start with
  | done cursor => exact rest
  | pair cursor binds reads _ inductionHypothesis =>
    exact .pair cursor binds reads (inductionHypothesis rest)

/-- Operators that bind tightly enough for a bound do for a lesser one. -/
theorem weaken {least less : Int} {cursor after : Cursor} {pairs : List (Token × Node)}
    (reads : ReadsPairs operators least cursor pairs after) (le : less ≤ least) :
    ReadsPairs operators less cursor pairs after := by
  induction reads with
  | done cursor => exact .done cursor
  | pair cursor binds reads _ inductionHypothesis =>
    exact .pair cursor (Int.le_trans le binds) reads inductionHypothesis

end ReadsPairs

end Reckon
