import Reckon.Node.Comparison
import Reckon.Proofs.Likeness.Trees
import Reckon.Proofs.Numerals
import Reckon.Proofs.Reading.Items
import Reckon.Proofs.Reading.Phrases

/-!
# Programs are read as they were written

The text of a program is read as its units, one after the other and without an error. The
trees are the same as those the program was written from, so they have the same prefix forms
too, and that is what the listing of the program consists of.
-/

namespace Reckon

open Reader

/-! ## Units -/

/-- Units are formed of what was read. -/
theorem Reader.Gives.map {α β : Type} {wanted : α → Prop} {goal : β → Prop} {left : List Lexeme}
    {outcome : Outcome α} (gives : Gives wanted left outcome) (form : α → β)
    (formed : ∀ {value}, wanted value → goal (form value)) :
    Gives goal left (outcome.map form) := by
  obtain ⟨value, after, rfl, holds, front⟩ := gives
  exact ⟨form value, after, rfl, formed holds, front⟩

namespace Clause

variable {operators : Operators}

/-- Names that were written as parameters are read back. -/
theorem reads_parameters {depth : Nat} {names : List String} {cursor : Cursor} {rest : List Lexeme}
    (lexemes : cursor.lexemes = names.map (fun name => (.identifier, name)) ++ mark ')' :: rest) :
    Ensures (parameters depth) cursor (Gives (· = names) (mark ')' :: rest)) := by
  induction depth generalizing names cursor with
  | zero => exact ensures_exhausted _ _
  | succ depth inductionHypothesis =>
    rw [parameters]
    refine ensures_peek ?_
    cases names with
    | nil =>
      have kind : cursor.nextToken.kind = .symbol :=
        congrArg Prod.fst (Cursor.nextToken_of_lexemes lexemes).1
      rw [if_neg (by simp [kind])]
      exact gives_pure rfl lexemes
    | cons name names =>
      obtain ⟨bare, past⟩ := Cursor.nextToken_of_lexemes lexemes
      have kind : cursor.nextToken.kind = .identifier := congrArg Prod.fst bare
      have same : cursor.nextToken.lexeme = name := congrArg Prod.snd bare
      rw [if_pos kind, same]
      refine ensures_advance ((inductionHypothesis past).then_of_gives ?_)
      rintro others after rfl left
      exact gives_pure rfl left

/-- A prototype that was written is read back. -/
theorem reads_header {depth : Nat} {name : String} {names : List String} {cursor : Cursor}
    {rest : List Lexeme} (lexemes : cursor.lexemes = header name names ++ rest) :
    Ensures (prototype depth) cursor
      (Gives (·.Alike { name, parameters := names, location := none }) rest) := by
  rw [header, List.cons_append, Phrase.parenthesised_append] at lexemes
  obtain ⟨bare, past⟩ := Cursor.nextToken_of_lexemes lexemes
  have kind : cursor.nextToken.kind = .identifier := congrArg Prod.fst bare
  have same : cursor.nextToken.lexeme = name := congrArg Prod.snd bare
  unfold prototype
  refine ensures_peek ?_
  rw [if_pos kind, same]
  refine ensures_advance (ensures_mark past fun opened inside => ?_)
  refine (reads_parameters inside).then_of_gives ?_
  rintro parameters listed rfl left
  exact ensures_mark left fun closed front => gives_pure ⟨rfl, rfl⟩ front

/-- A definition that was written is read back. -/
theorem reads_definition (registered : operators.Registered) {depth : Nat} {name : String}
    {parameters : List String} {body : Phrase} (fits : body.Fits operators) {cursor : Cursor}
    {rest : List Lexeme}
    (lexemes : cursor.lexemes = words operators (definition name parameters body) ++ rest)
    (ends : Ends operators rest) :
    Ensures (Reader.definition operators depth) cursor (Gives (Definition.Alike ·
      { prototype := { name, parameters, location := none }, body := body.tree, location := none })
      rest) := by
  rw [words, List.cons_append, List.append_assoc] at lexemes
  obtain ⟨_, past⟩ := Cursor.nextToken_of_lexemes lexemes
  refine ensures_peek (ensures_advance ?_)
  refine (reads_header past).then_of_gives fun header after alikeHeader left => ?_
  refine (Phrase.readsWhole registered fits left ends).then_of_gives ?_
  intro tree last alikeBody left
  exact gives_pure ⟨alikeHeader, alikeBody⟩ left

/-- A declaration that was written is read back. -/
theorem reads_declaration {depth : Nat} {name : String} {parameters : List String}
    {cursor : Cursor} {rest : List Lexeme}
    (lexemes : cursor.lexemes = words operators (declaration name parameters) ++ rest) :
    Ensures (Reader.declaration depth) cursor
      (Gives (·.Alike { name, parameters, location := none }) rest) :=
  ensures_advance (reads_header (Cursor.nextToken_of_lexemes lexemes).2)

/-- A bare expression that was written is read back. -/
theorem reads_anonymous (registered : operators.Registered) {depth : Nat} {body : Phrase}
    (fits : body.Fits operators) {cursor : Cursor} {rest : List Lexeme}
    (lexemes : cursor.lexemes = words operators (expression body) ++ rest)
    (ends : Ends operators rest) :
    Ensures (anonymous operators depth) cursor
      (Gives (Definition.Alike · (.anonymous body.tree)) rest) := by
  refine (Phrase.readsWhole registered fits lexemes ends).then_of_gives ?_
  intro tree last alike left
  exact gives_pure (Definition.alike_anonymous alike) left

/-- **A unit is read as it was written.** -/
theorem reads (registered : operators.Registered) {clause : Clause}
    (fits : clause.Fits operators) {cursor : Cursor} {rest : List Lexeme}
    (lexemes : cursor.lexemes = clause.words operators ++ rest) (ends : Ends operators rest) :
    Gives (ProgramUnit.Alike · clause.unit) rest (cursor.readUnit operators) := by
  unfold Cursor.readUnit
  cases clause with
  | definition name parameters body =>
    have kind : cursor.nextToken.kind = .define :=
      congrArg Prod.fst (Cursor.nextToken_of_lexemes lexemes).1
    have kept : Gives _ rest (cursor.readDefinition operators) :=
      Cursor.read_ensures (reads_definition registered fits.2 lexemes ends)
    simp only [kind]
    exact kept.map ProgramUnit.definition fun alike => .definition alike
  | declaration name parameters =>
    have kind : cursor.nextToken.kind = .declare :=
      congrArg Prod.fst (Cursor.nextToken_of_lexemes lexemes).1
    have kept : Gives _ rest cursor.readDeclaration :=
      Cursor.read_ensures (reads_declaration lexemes)
    simp only [kind]
    exact kept.map ProgramUnit.declaration fun alike => .declaration alike
  | expression body =>
    have kept : Gives _ rest (cursor.readAnonymous operators) :=
      Cursor.read_ensures (reads_anonymous registered fits lexemes ends)
    obtain ⟨lexeme, others, whole, isOpening⟩ := Phrase.opens fits
    rw [words, whole] at lexemes
    have bare := (Cursor.nextToken_of_lexemes lexemes).1
    obtain ⟨noDefine, noDeclare⟩ := isOpening.kind_ne bare
    split
    case h_1 define => exact (noDefine define).elim
    case h_2 declare => exact (noDeclare declare).elim
    case h_3 => exact kept.map ProgramUnit.expression fun alike => .expression alike

/-- No unit begins with a semicolon. -/
theorem not_separator {clause : Clause} (fits : clause.Fits operators) {cursor : Cursor}
    {rest : List Lexeme} (lexemes : cursor.lexemes = clause.words operators ++ rest) :
    cursor.nextToken.kind ≠ .endOfInput ∧ cursor.nextToken.isSymbol ';' = false := by
  cases clause with
  | definition name parameters body =>
    have kind : cursor.nextToken.kind = .define :=
      congrArg Prod.fst (Cursor.nextToken_of_lexemes lexemes).1
    simp [Token.isSymbol, kind]
  | declaration name parameters =>
    have kind : cursor.nextToken.kind = .declare :=
      congrArg Prod.fst (Cursor.nextToken_of_lexemes lexemes).1
    simp [Token.isSymbol, kind]
  | expression body =>
    obtain ⟨lexeme, others, whole, isOpening⟩ := Phrase.opens fits
    rw [words, whole] at lexemes
    have bare := (Cursor.nextToken_of_lexemes lexemes).1
    refine ⟨?_, isOpening.isSymbol_eq_false bare (by decide)⟩
    intro ends
    rw [cursor.lexemes_eq_nil_iff.mpr ends] at lexemes
    cases lexemes

/-- A unit is read first, and then what is behind it. -/
theorem items_of_reads (registered : operators.Registered) {clause : Clause}
    (fits : clause.Fits operators) {cursor : Cursor} {rest : List Lexeme}
    (lexemes : cursor.lexemes = clause.words operators ++ rest) (ends : Ends operators rest) :
    ∃ (unit : ProgramUnit) (after : Cursor),
      cursor.items operators = .ok unit :: after.items operators ∧
      unit.Alike clause.unit ∧ after.lexemes = rest := by
  obtain ⟨more, noSeparator⟩ := not_separator fits lexemes
  obtain ⟨unit, after, outcome, alike, left⟩ := reads registered fits lexemes ends
  refine ⟨unit, after, ?_, alike, left⟩
  rw [Cursor.items_eq registered, if_neg more, if_neg (by simp [noSeparator]), outcome]
  rfl

/-- **A program is read as the units it was written with.** -/
theorem items_of_lexemes (registered : operators.Registered) {clauses : List Clause}
    (fit : ∀ clause ∈ clauses, clause.Fits operators) {cursor : Cursor}
    (lexemes : cursor.lexemes = [mark ';'].intercalate (clauses.map (words operators))) :
    Item.AllAlike (cursor.items operators) (clauses.map fun clause => .ok clause.unit) := by
  induction clauses generalizing cursor with
  | nil =>
    rw [Cursor.items_eq_nil registered (cursor.lexemes_eq_nil_iff.mp lexemes)]
    exact .nil
  | cons clause clauses inductionHypothesis =>
    obtain ⟨fits, fitLater⟩ := List.forall_mem_cons.mp fit
    cases clauses with
    | nil =>
      rw [List.map_singleton, List.intercalate_singleton,
        ← List.append_nil (clause.words operators)] at lexemes
      obtain ⟨unit, after, items, alike, left⟩ :=
        items_of_reads registered fits lexemes (ends_nil operators)
      rw [items]
      exact .cons (.unit alike) (inductionHypothesis fitLater left)
    | cons second clauses =>
      rw [List.map_cons, List.map_cons, List.intercalate_cons_cons, List.append_assoc] at lexemes
      have separates := ends_mark registered (c := ';') (by decide) (by decide)
        ([mark ';'].intercalate ((second :: clauses).map (words operators)))
      obtain ⟨unit, after, items, alike, left⟩ := items_of_reads registered fits lexemes separates
      obtain ⟨bare, past⟩ := Cursor.nextToken_of_lexemes left
      have separator : after.nextToken.isSymbol ';' = true := by
        rw [Token.isSymbol_of_mark bare, beq_self_eq_true]
      rw [items, ← Cursor.items_pastToken registered (.inr separator)]
      exact .cons (.unit alike) (inductionHypothesis fitLater past)

/-- **The text of a program is read as the program.** -/
theorem items_programText (registered : operators.Registered) {clauses : List Clause}
    (fit : ∀ clause ∈ clauses, clause.Fits operators) (file : String) :
    Item.AllAlike ((Cursor.start file (programText operators clauses).toList).items operators)
      (clauses.map fun clause => .ok clause.unit) :=
  items_of_lexemes registered fit (lexemes_programText registered fit file)

end Clause

/-! ## Trees that are alike -/

namespace Node

/-- Rows of expressions with the same texts have the same text. -/
theorem expressionTexts_congr {left right : List Node}
    (same : List.Forall₂ (·.expressionText = ·.expressionText) left right) :
    expressionTexts left = expressionTexts right := by
  induction same with
  | nil => rfl
  | cons first _ inductionHypothesis =>
    rw [expressionTexts, expressionTexts, first, inductionHypothesis]

/-- Places do not show in the prefix form. -/
theorem Alike.expressionText {left right : Node} (alike : left.Alike right) :
    left.expressionText = right.expressionText := by
  induction alike with
  | number value location other => simp only [Node.expressionText]
  | reference name location other => simp only [Node.expressionText]
  | binary operator location other _ _ inLeft inRight =>
    simp only [Node.expressionText, inLeft, inRight]
  | call callee location other length _ inArguments =>
    have each := List.forall₂_iff_zip.mpr ⟨length, fun member => inArguments _ member⟩
    simp only [Node.expressionText, expressionTexts_congr each]

end Node

/-- Definitions that are alike have the same prefix form. -/
theorem Definition.Alike.line {left right : Definition} (alike : left.Alike right) :
    left.line = right.line := by
  have header : left.prototype.listed = right.prototype.listed := by
    rw [Prototype.listed, Prototype.listed, alike.prototype.name, alike.prototype.parameters]
  rw [Definition.line, Definition.line, Definition.listed, Definition.listed, header,
    alike.body.expressionText]

/-- Units that are alike have one prefix form. -/
theorem ProgramUnit.Alike.line {left right : ProgramUnit} (alike : left.Alike right) :
    left.line = right.line := by
  cases alike with
  | definition alike => exact Definition.Alike.line alike
  | declaration alike =>
    simp only [ProgramUnit.line, Prototype.declarationLine, Prototype.listed, alike.name,
      alike.parameters]
  | expression alike => exact Definition.Alike.line alike

/-- The unit as a tree. -/
def ProgramUnit.node : ProgramUnit → Node
  | .definition function => function.node
  | .declaration prototype => .prototype prototype
  | .expression function => function.node

namespace Phrase

variable {operators : Operators}

/-- If each tree that is alike with what was written compares equal with it, so does a row of them.
-/
theorem allSame_trees {phrases : List Phrase}
    (each : ∀ phrase ∈ phrases, ∀ node : Node, node.Alike phrase.tree →
      node.same phrase.tree = true) {nodes : List Node}
    (alike : Node.AllAlike nodes (phrases.map tree)) :
    Node.allSame nodes (phrases.map tree) = true := by
  induction phrases generalizing nodes with
  | nil =>
    cases alike
    rfl
  | cons phrase phrases inductionHypothesis =>
    obtain ⟨first, later⟩ := List.forall_mem_cons.mp each
    cases alike with
    | cons alikeFirst alikeLater =>
      rw [List.map_cons, Node.allSame, first _ alikeFirst, inductionHypothesis later alikeLater]
      rfl

/-- What is like the tree of an expression is the same tree: its numbers are numbers. -/
theorem same_tree {phrase : Phrase} (fits : phrase.Fits operators) {node : Node}
    (alike : node.Alike phrase.tree) : node.same phrase.tree = true := by
  induction fits generalizing node with
  | @numeral lexeme _ =>
    cases alike with
    | number _ location _ => exact (isNumber_lexemeValue lexeme).beq_self
  | name =>
    cases alike with
    | reference _ location _ => exact beq_self_eq_true _
  | operation _ _ _ sameLeft sameRight =>
    cases alike with
    | binary _ location _ alikeLeft alikeRight =>
      simp only [tree, Node.same, sameLeft alikeLeft, sameRight alikeRight, beq_self_eq_true,
        Bool.and_self]
  | @call callee arguments _ _ sameArguments =>
    simp only [tree, trees_eq_map] at alike ⊢
    cases alike with
    | call _ location _ length alikeArguments =>
      have each := List.forall₂_iff_zip.mpr ⟨length, fun member => alikeArguments _ member⟩
      have all := allSame_trees (fun phrase among node => sameArguments phrase among) each
      simp only [Node.same, all, beq_self_eq_true, Bool.and_self]
  | enclosed _ sameInner => exact sameInner alike

end Phrase

/-- Prototypes that are alike compare equal. -/
theorem Prototype.Alike.same {left right : Prototype} (alike : left.Alike right) :
    left.same right = true := by
  simp [Prototype.same, alike.name, alike.parameters]

/-- What is like a unit that was written is the same unit. -/
theorem Clause.same_unit {operators : Operators} {clause : Clause}
    (fits : clause.Fits operators) {unit : ProgramUnit} (alike : unit.Alike clause.unit) :
    unit.node.same clause.unit.node = true := by
  cases clause with
  | definition name parameters body =>
    cases alike with
    | definition alike =>
      exact Bool.and_eq_true_iff.mpr ⟨alike.prototype.same, Phrase.same_tree fits.2 alike.body⟩
  | declaration name parameters =>
    cases alike with
    | declaration alike => exact alike.same
  | expression body =>
    cases alike with
    | expression alike =>
      exact Bool.and_eq_true_iff.mpr ⟨alike.prototype.same, Phrase.same_tree fits alike.body⟩

/-! ## Listings -/

/-- The listing of items. -/
def Listing.ofItems : List Item → Listing
  | [] => empty
  | .ok unit :: rest => (ofItems rest).withLine unit.line
  | .error error :: rest => (ofItems rest).withError error

/-- What is listed are the items that the text is read as. -/
theorem Listing.listWithin_eq (operators : Operators) (limit : Nat) (cursor : Cursor) :
    listWithin operators limit cursor = ofItems (cursor.itemsWithin operators limit) := by
  induction limit generalizing cursor with
  | zero => rfl
  | succ limit inductionHypothesis =>
    rw [listWithin_succ, Cursor.itemsWithin]
    split
    · rfl
    · split
      · exact inductionHypothesis _
      · cases cursor.readUnit operators with
        | parsed unit after => exact congrArg (withLine unit.line) (inductionHypothesis after)
        | failed error stopped => exact congrArg (withError error) (inductionHypothesis _)

/-- A listing says what a text is read as. -/
theorem Cursor.listing_eq (operators : Operators) (cursor : Cursor) :
    cursor.listing operators = .ofItems (cursor.items operators) := Listing.listWithin_eq ..

/-- Units that are read are listed line by line. -/
theorem Listing.ofItems_of_alike {items : List Item} {units : List ProgramUnit}
    (alike : Item.AllAlike items (units.map .ok)) :
    ofItems items = { failures := 0, lines := String.join (units.map fun unit => unit.line ++ "\n"),
                      reports := "" } := by
  induction units generalizing items with
  | nil =>
    cases alike
    rfl
  | cons unit units inductionHypothesis =>
    cases alike with
    | cons first later =>
      cases first with
      | unit alike =>
        rw [ofItems, inductionHypothesis later, withLine, alike.line, List.map_cons,
          String.join_cons]

namespace Clause

variable {operators : Operators}

/-- What is read of a program are units that are the same as those it was written from. -/
theorem exists_units {clauses : List Clause} (fit : ∀ clause ∈ clauses, clause.Fits operators)
    {items : List Item} (alike : Item.AllAlike items (clauses.map fun clause => .ok clause.unit)) :
    ∃ units : List ProgramUnit, items = units.map .ok ∧
      List.Forall₂ (fun unit clause => unit.node.same clause.unit.node = true) units clauses := by
  induction clauses generalizing items with
  | nil =>
    cases alike
    exact ⟨[], rfl, .nil⟩
  | cons clause clauses inductionHypothesis =>
    obtain ⟨fits, fitLater⟩ := List.forall_mem_cons.mp fit
    cases alike with
    | cons first later =>
      obtain ⟨units, rfl, same⟩ := inductionHypothesis fitLater later
      cases first with
      | @unit unit _ alike =>
        exact ⟨unit :: units, rfl, .cons (same_unit fits alike) same⟩

/-- **A program is read as it was written.** Its text is listed without an error as the prefix
forms of its units in order, and the units that are read are the same as those it was written
from. Operators have any precedences that registration gives them, and any expression may be
written with more parentheses than needed. -/
theorem program_reads_back (registered : operators.Registered) (clauses : List Clause)
    (fit : ∀ clause ∈ clauses, clause.Fits operators) (file : String) :
    let cursor := Cursor.start file (programText operators clauses).toList
    cursor.listing operators =
        { failures := 0
          lines := String.join (clauses.map fun clause => clause.unit.line ++ "\n")
          reports := "" } ∧
      ∃ units : List ProgramUnit, cursor.items operators = units.map .ok ∧
        List.Forall₂ (fun unit clause => unit.node.same clause.unit.node = true) units clauses := by
  intro cursor
  have alike := items_programText registered fit file
  refine ⟨?_, exists_units fit alike⟩
  have units : (clauses.map fun clause => (.ok clause.unit : Item)) =
      (clauses.map unit).map .ok := by
    rw [List.map_map]
    rfl
  rw [units] at alike
  rw [Cursor.listing_eq, Listing.ofItems_of_alike alike, List.map_map]
  rfl

/-- A difference as the right operand of a difference needs its parentheses; a product as an
argument has some that it does not need. -/
theorem program_reads_back_differences :
    let difference : Phrase :=
      .operation '-' (.name "x") (.operation '-' (.name "y") (.numeral ".5"))
    let product : Phrase := .operation '*' (.call "g" [.numeral "2"]) (.numeral "3")
    let clauses : List Clause := [.definition "f" ["x", "y"] difference,
      .declaration "g" ["x"], .expression (.call "f" [.numeral "1.", .enclosed product])]
    let cursor := Cursor.start "" (programText .standard clauses).toList
    programText .standard clauses =
        "def f ( x y ) x - ( y - .5 );extern g ( x );f ( 1. , ( g ( 2 ) * 3 ) )" ∧
      cursor.listing .standard =
        { failures := 0
          lines := "(def (f x y) (- x (- y 0.5)))\n(extern (g x))\n" ++
            "(def (__anon_expr) (call f 1 (* (call g 2) 3)))\n"
          reports := "" } ∧
      ∃ units : List ProgramUnit, cursor.items .standard = units.map .ok ∧
        List.Forall₂ (fun unit clause => unit.node.same clause.unit.node = true) units clauses := by
  intro difference product clauses cursor
  have fitDifference : difference.Fits .standard :=
    .operation rfl (.name (by decide)) (.operation rfl (.name (by decide)) (.numeral (by decide)))
  have fitProduct : product.Fits .standard := by
    refine .operation rfl (.call (by decide) ?_) (.numeral (by decide))
    exact List.forall_mem_singleton.mpr (.numeral (by decide))
  have fitCall : Phrase.Fits .standard (.call "f" [.numeral "1.", .enclosed product]) := by
    refine .call (by decide) (List.forall_mem_cons.mpr ⟨.numeral (by decide), ?_⟩)
    exact List.forall_mem_singleton.mpr (.enclosed fitProduct)
  have fit : ∀ clause ∈ clauses, clause.Fits .standard := by
    have names : ∀ word ∈ ["g", "x"], isIdentifier word = true := by decide
    refine List.forall_mem_cons.mpr ⟨⟨by decide, fitDifference⟩, ?_⟩
    exact List.forall_mem_cons.mpr ⟨names, List.forall_mem_singleton.mpr fitCall⟩
  have lines : String.join (clauses.map fun clause => clause.unit.line ++ "\n") =
      "(def (f x y) (- x (- y 0.5)))\n(extern (g x))\n" ++
        "(def (__anon_expr) (call f 1 (* (call g 2) 3)))\n" := by
    decide +kernel
  have text : programText .standard clauses =
      "def f ( x y ) x - ( y - .5 );extern g ( x );f ( 1. , ( g ( 2 ) * 3 ) )" := by
    decide +kernel
  obtain ⟨listing, units⟩ := program_reads_back .standard clauses fit ""
  exact ⟨text, lines ▸ listing, units⟩

end Clause

end Reckon
