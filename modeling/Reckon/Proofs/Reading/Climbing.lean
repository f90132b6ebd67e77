import Reckon.Proofs.Reading.Grouping

/-!
# Precedence climbing

Reading a row of operators succeeds with the one grouping by precedence of what was
read: operands and operators in turn, up to the first token that is no operator of the
precedence asked for. The loop carries what it has grouped so far, whose root binds at
least as tightly as the operator that comes next; what an operator that binds tighter
takes away comes back as its right operand.
-/

namespace Reckon

namespace Reader

open Grouping

/-- What folding operators into a grouping gives: a grouping by precedence of what stood there
and of the pairs that were read, up to a token that binds less than asked for. -/
def FoldsInto (operators : Operators) (least : Int) (left : Grouping) (cursor : Cursor)
    (tree : Node) (after : Cursor) : Prop :=
  ∃ pairs, ∃ grouping : Grouping, ReadsPairs operators least cursor pairs after ∧
    grouping.tree = tree ∧ grouping.first = left.first ∧ grouping.others = left.others ++ pairs ∧
    grouping.ByPrecedence operators ∧ operators.precedence after.nextToken < least ∧
    (left.AtLeast operators least → grouping.AtLeast operators least)

/-- Nothing is folded in where the next token binds less than asked for. -/
theorem foldsInto_self {operators : Operators} {least : Int} {left : Grouping} {cursor : Cursor}
    (ordered : left.ByPrecedence operators)
    (ends : operators.precedence cursor.nextToken < least) :
    FoldsInto operators least left cursor left.tree cursor :=
  ⟨[], left, .done cursor, rfl, rfl, (List.append_nil _).symm, ordered, ends, id⟩

/-- An operator and its operand go around what stands to the left. The operand is what the
operators that bind tighter made of it. -/
theorem FoldsInto.step {operators : Operators} {least : Int} {left right : Grouping}
    {cursor read folded after : Cursor} {operand tree : Node} {pairs : List (Token × Node)}
    (binds : least ≤ operators.precedence cursor.nextToken)
    (reads : cursor.pastToken.readPrimary operators = .parsed operand read)
    (readsMore : ReadsPairs operators least read pairs folded)
    (sameFirst : right.first = operand) (sameOthers : right.others = pairs)
    (rest : FoldsInto operators least (.operation cursor.nextToken left right) folded tree after) :
    FoldsInto operators least left cursor tree after := by
  obtain ⟨later, grouping, readsLater, same, first, others, ordered, ends, bound⟩ := rest
  refine ⟨(cursor.nextToken, operand) :: pairs ++ later, grouping,
    .pair cursor binds reads (readsMore.append readsLater), same, first, ?_, ordered, ends,
    fun _ => bound binds⟩
  rw [others, Grouping.others, sameFirst, sameOthers]
  simp

/-- The loop of precedence climbing. What stands to its left binds at least as tightly as the
next token: at first it is an operand, and later the operator folded in last. -/
theorem operation_foldsInto (operators : Operators) (depth : Nat) (least : Int) (left : Grouping)
    (cursor : Cursor) (ordered : left.ByPrecedence operators)
    (tight : left.AtLeast operators (operators.precedence cursor.nextToken)) :
    Ensures (operation operators depth least left.tree) cursor fun outcome =>
      ∀ tree after, outcome = .parsed tree after →
        FoldsInto operators least left cursor tree after := by
  induction depth generalizing least left cursor with
  | zero => exact ensures_exhausted _ _
  | succ depth inductionHypothesis =>
    rw [operation]
    apply ensures_peek
    by_cases ends : operators.precedence cursor.nextToken < least
    · rw [if_pos ends]
      apply ensures_pure
      rintro tree after same
      cases same
      exact foldsInto_self ordered ends
    · rw [if_neg ends]
      apply ensures_advance
      have first : Ensures (primary operators depth) cursor.pastToken
          fun outcome => cursor.pastToken.readPrimary operators = outcome :=
        fun _ answer => Cursor.readPrimary_eq answer
      refine first.bind ?_ ?_
      · rintro error stopped _ tree after same
        cases same
      · intro operand read reads
        apply ensures_peek
        -- The operand on its own, or with the operators behind it that bind tighter.
        have takes : Ensures
            (if operators.precedence cursor.nextToken < operators.precedence read.nextToken then
              operation operators depth (operators.precedence cursor.nextToken + 1) operand
            else pure operand) read fun outcome => ∀ tree after, outcome = .parsed tree after →
              FoldsInto operators (operators.precedence cursor.nextToken + 1) (.operand operand)
                read tree after := by
          by_cases tighter :
              operators.precedence cursor.nextToken < operators.precedence read.nextToken
          · rw [if_pos tighter]
            exact inductionHypothesis _ (.operand operand) read trivial trivial
          · rw [if_neg tighter]
            apply ensures_pure
            rintro tree after same
            cases same
            have alone : (Grouping.operand operand).ByPrecedence operators := trivial
            exact foldsInto_self alone (by omega)
        refine takes.bind ?_ ?_
        · rintro error stopped _ tree after same
          cases same
        · intro rightTree folded grouped
          obtain ⟨pairs, right, readsMore, rfl, first, others, rightOrdered, weak, above⟩ :=
            grouped rightTree folded rfl
          have rightAbove : right.Above operators (operators.precedence cursor.nextToken) := by
            have bound := above trivial
            cases right with
            | operand node => trivial
            | operation operator left right => exact bound
          have joined : (Grouping.operation cursor.nextToken left right).ByPrecedence operators :=
            ⟨tight, rightAbove, ordered, rightOrdered⟩
          have next := inductionHypothesis least (.operation cursor.nextToken left right) folded
            joined (Int.le_of_lt_add_one weak)
          refine next.imp fun outcome kept tree after same => ?_
          exact (kept tree after same).step (Int.not_lt.mp ends) reads
            (readsMore.weaken (by omega)) first others

end Reader

namespace Cursor

/-- An expression is a row of operators of any precedence. -/
theorem readExpression_eq_readRow (operators : Operators) (cursor : Cursor) :
    cursor.readExpression operators = cursor.readRow operators 0 := by
  have step (depth : Nat) : Reader.Extends (Reader.row operators 0 (depth + 1))
      (Reader.row operators 0 depth) :=
    (Reader.deepens operators depth).primary.bind fun left =>
      (Reader.deepens operators depth).operation 0 left
  have shallow : Reader.row operators 0 (4 * cursor.rest.length + 3) cursor =
      some (cursor.readExpression operators) := (some_read ..).symm
  exact Reader.answers_agree step shallow (some_read ..).symm

/-- An operand and pairs of an operator of at least the given precedence and an operand, up to a
token that is no such operator, with the tree of their only grouping by precedence. -/
def HoldsRow (operators : Operators) (least : Int) (cursor : Cursor) (tree : Node)
    (after : Cursor) : Prop :=
  ∃ first read pairs, cursor.readPrimary operators = .parsed first read ∧
    ReadsPairs operators least read pairs after ∧ operators.precedence after.nextToken < least ∧
    ∃ grouping : Grouping, grouping.tree = tree ∧
      (grouping.first = first ∧ grouping.others = pairs ∧ grouping.ByPrecedence operators) ∧
      ∀ other : Grouping, other.first = first → other.others = pairs →
        other.ByPrecedence operators → other = grouping

/-- A row that is read is a maximal run of operators of at least the precedence asked for, between
operands, and gives the tree of its only grouping by precedence. Expressions are rows of
operators of any precedence. -/
theorem readRow_groups (operators : Operators) (least : Nat) (cursor after : Cursor) (tree : Node)
    (reads : cursor.readRow operators least = .parsed tree after) :
    HoldsRow operators least cursor tree after ∧
      cursor.readExpression operators = cursor.readRow operators 0 := by
  have grouped : Reader.Ensures (.row operators least cursor.depth) cursor fun outcome =>
      ∀ tree after, outcome = .parsed tree after →
        ∃ first read, cursor.readPrimary operators = .parsed first read ∧
          Reader.FoldsInto operators least (.operand first) read tree after := by
    have first : Reader.Ensures (.primary operators cursor.depth) cursor
        fun outcome => cursor.readPrimary operators = outcome :=
      fun _ answer => readPrimary_eq answer
    refine first.bind ?_ ?_
    · rintro error stopped _ tree after same
      cases same
    · intro first read readsFirst
      have folds := Reader.operation_foldsInto operators cursor.depth least (.operand first) read
        trivial trivial
      exact folds.imp fun outcome kept tree after same =>
        ⟨first, read, readsFirst, kept tree after same⟩
  obtain ⟨first, read, readsFirst, pairs, grouping, readsPairs, sameTree, sameFirst, sameOthers,
    ordered, ends, _⟩ := read_ensures grouped tree after reads
  refine ⟨⟨first, read, pairs, readsFirst, readsPairs, ends, grouping, sameTree,
    ⟨sameFirst, sameOthers, ordered⟩, ?_⟩, readExpression_eq_readRow operators cursor⟩
  intro other otherFirst otherOthers otherOrdered
  exact Grouping.eq_of_same_row otherOrdered ordered (otherFirst.trans sameFirst.symm)
    (otherOthers.trans sameOthers.symm)

/-- The factors of a product are grouped before the difference that they stand in. -/
theorem readRow_groups_difference :
    let place (column : Nat) : Option Location :=
      some { file := "", line := 1, column, offset := column - 1 }
    let cursor := start "" "a-b*c-d".toList
    let tree : Node := .binary "-" (.binary "-" (.reference "a" (place 1))
      (.binary "*" (.reference "b" (place 3)) (.reference "c" (place 5)) (place 4)) (place 2))
      (.reference "d" (place 7)) (place 6)
    let after : Cursor := { file := "", rest := [], line := 1, column := 7, offset := 6 }
    cursor.readRow .standard (0 : Nat) = .parsed tree after ∧
      HoldsRow .standard (0 : Nat) cursor tree after ∧
      cursor.readExpression .standard = cursor.readRow .standard 0 :=
  ⟨rfl, readRow_groups .standard 0 _ _ _ rfl⟩

end Cursor

end Reckon
