import Reckon.Proofs.Likeness.Trees
import Reckon.Proofs.Node.Numbers
import Reckon.Proofs.Reading.Prototypes

/-!
# The prefix form tells trees apart

The first characters of a prefix form tell what kind of tree it is the form of: a digit, a letter,
or a parenthesis and behind it either an operator or the word for a call. Names and numbers go on
to the next blank or closing parenthesis and hold neither, however like a word of the notation
they look. So the form of a tree is found in front of whatever may follow it, and two trees have
the same form exactly if they are the same.
-/

namespace Reckon

open Decimal

/-! ## Texts between blanks and parentheses -/

/-- Neither a blank nor a closing parenthesis nor the end of a line. -/
def isInner (c : Char) : Bool := c != ' ' && c != ')' && c != '\n'

/-- Nothing is left, or the next character is a blank or a closing parenthesis or ends the line. -/
def Closes (rest : List Char) : Prop := ∀ c, rest.head? = some c → isInner c = false

/-- The end of a text closes what is in front. -/
theorem closes_nil : Closes [] := nofun

/-- A character that stands outside of names and numbers closes what is in front. -/
theorem closes_cons {c : Char} (outer : isInner c = false) (rest : List Char) :
    Closes (c :: rest) := by
  rintro _ ⟨⟩
  exact outer

/-- A text without blanks and closing parentheses ends where one of them is next. -/
theorem append_unique {text textToo rest restToo : List Char}
    (inner : ∀ c ∈ text, isInner c = true) (innerToo : ∀ c ∈ textToo, isInner c = true)
    (closes : Closes rest) (closesToo : Closes restToo)
    (same : text ++ rest = textToo ++ restToo) : text = textToo ∧ rest = restToo := by
  obtain rfl : text = textToo := by
    rw [← takeWhile_append_apart (List.all_eq_true.mpr inner) closes, same,
      takeWhile_append_apart (List.all_eq_true.mpr innerToo) closesToo]
  exact ⟨rfl, List.append_cancel_left same⟩

/-- Any character but the three that close is an inner one. -/
theorem isInner_of_ne {c : Char} (noBlank : c ≠ ' ') (noParenthesis : c ≠ ')')
    (noLineFeed : c ≠ '\n') : isInner c = true := by
  simp [isInner, noBlank, noParenthesis, noLineFeed]

/-- Letters and digits are inner characters. -/
theorem isInner_of_isWordPart {c : Char} (part : isWordPart c = true) : isInner c = true := by
  apply isInner_of_ne <;> rintro rfl <;> cases part

/-- What a decimal is written with are inner characters. -/
theorem isInner_of_isDecimalPart {c : Char} (part : isDecimalPart c = true) :
    isInner c = true := by
  apply isInner_of_ne <;> rintro rfl <;> cases part

/-- No line ends among inner characters. -/
theorem lineFeed_not_mem {text : List Char} (inner : ∀ c ∈ text, isInner c = true) :
    '\n' ∉ text := fun member => by cases inner _ member

/-- Words hold no blanks and no parentheses, and stand on one line. -/
theorem inner_of_isWord {name : String} (word : IsWord name) :
    ∀ c ∈ name.toList, isInner c = true := fun c member =>
  isInner_of_isWordPart (word.parts c member)

/-- An identifier is written with inner characters. -/
theorem inner_of_isIdentifier {name : String} (identifier : isIdentifier name = true) :
    ∀ c ∈ name.toList, isInner c = true := inner_of_isWord (isWord_of_isIdentifier identifier)

/-- Texts, each with a blank in front. -/
def spaced (texts : List (List Char)) : List Char := texts.flatMap (' ' :: ·)

/-- A row with blanks between its texts is the first text and the others with blanks in front. -/
theorem toList_intercalate (first : String) (rest : List String) :
    (" ".intercalate (first :: rest)).toList = first.toList ++ spaced (rest.map String.toList) := by
  rw [String.toList_intercalate, List.map_cons]
  generalize first.toList = front
  induction rest generalizing front with
  | nil => simp [spaced]
  | cons second rest inductionHypothesis =>
    rw [List.map_cons, List.intercalate_cons_cons, inductionHypothesis, List.append_assoc]
    rfl

/-- Behind each text of a row comes a blank or the closing parenthesis. -/
theorem closes_spaced (texts : List (List Char)) (rest : List Char) :
    Closes (spaced texts ++ ')' :: rest) := by
  cases texts with
  | nil => exact closes_cons rfl _
  | cons text texts => exact closes_cons rfl _

/-- Rows of texts between blanks, up to a closing parenthesis: what is found of each text makes the
rows the same. -/
theorem spaced_unique {α : Type} {text : α → List Char} {Same : α → α → Prop} {row rowToo : List α}
    (each : ∀ item ∈ row, ∀ other ∈ rowToo, ∀ rest restToo, Closes rest → Closes restToo →
      text item ++ rest = text other ++ restToo → Same item other ∧ rest = restToo)
    {rest restToo : List Char}
    (same : spaced (row.map text) ++ ')' :: rest = spaced (rowToo.map text) ++ ')' :: restToo) :
    List.Forall₂ Same row rowToo ∧ rest = restToo := by
  induction row generalizing rowToo with
  | nil =>
    cases rowToo with
    | nil => exact ⟨.nil, (List.cons.inj same).2⟩
    | cons other rowToo => cases (List.cons.inj same).1
  | cons item row inductionHypothesis =>
    cases rowToo with
    | nil => cases (List.cons.inj same).1
    | cons other rowToo =>
      simp only [spaced, List.map_cons, List.flatMap_cons, List.cons_append, List.append_assoc,
        List.cons.injEq, true_and] at same
      obtain ⟨first, later⟩ := each item List.mem_cons_self other List.mem_cons_self _ _
        (closes_spaced _ rest) (closes_spaced _ restToo) same
      obtain ⟨others, last⟩ := inductionHypothesis
        (fun item among other amongToo => each item (List.mem_cons_of_mem _ among) other
          (List.mem_cons_of_mem _ amongToo)) later
      exact ⟨.cons first others, last⟩

/-! ## Expressions that can be spelled out -/

/-- An expression with identifiers for names, usable characters for operators, and finite numbers
that are not negative. -/
inductive Node.Writable : Node → Prop
  | number {value : Float} (location : Option Location) (magnitude : IsMagnitude value) :
      Writable (.number value location)
  | reference {name : String} (location : Option Location)
      (identifier : isIdentifier name = true) : Writable (.reference name location)
  | binary {operator : Char} {left right : Node} (location : Option Location)
      (usable : isOperatorCharacter operator = true) (writableLeft : Writable left)
      (writableRight : Writable right) :
      Writable (.binary operator.toString left right location)
  | call {callee : String} {arguments : List Node} (location : Option Location)
      (identifier : isIdentifier callee = true)
      (writable : ∀ argument ∈ arguments, Writable argument) :
      Writable (.call callee arguments location)

/-- The characters of the prefix form of an expression. -/
def Node.form (node : Node) : List Char :=
  match node.expressionText with
  | .ok text => text.toList
  | .error _ => []

namespace Node

/-- A row of trees that all have a form has the forms of the trees. -/
theorem expressionTexts_of_forall {nodes : List Node}
    (each : ∀ node ∈ nodes, ∃ text, node.expressionText = .ok text) :
    expressionTexts nodes = .ok (nodes.map fun node => .ofList node.form) := by
  induction nodes with
  | nil => rfl
  | cons node rest inductionHypothesis =>
    obtain ⟨⟨text, first⟩, others⟩ := List.forall_mem_cons.mp each
    rw [expressionTexts, first, inductionHypothesis others, List.map_cons, form, first]
    simp only [String.ofList_toList]
    rfl

/-- What is read has a prefix form. -/
theorem Spelled.expressionText_ok {node : Node} (spelled : node.Spelled) :
    ∃ text, node.expressionText = .ok text := by
  induction spelled with
  | number value location => exact ⟨_, rfl⟩
  | reference name location => exact ⟨_, rfl⟩
  | binary operator location _ _ inLeft inRight =>
    obtain ⟨left, first⟩ := inLeft
    obtain ⟨right, second⟩ := inRight
    exact ⟨_, by rw [expressionText, first, second]; rfl⟩
  | call location _ _ each =>
    exact ⟨_, by rw [expressionText, expressionTexts_of_forall each]; rfl⟩

/-- What can be written down is spelled as it is read. -/
theorem Writable.spelled {node : Node} (writable : node.Writable) : node.Spelled := by
  induction writable with
  | number location => exact .number _ location
  | reference location => exact .reference _ location
  | binary location _ _ _ inLeft inRight => exact .binary _ location inLeft inRight
  | call location identifier _ each => exact .call location (isWord_of_isIdentifier identifier) each

/-- The prefix form is the form. -/
theorem Writable.expressionText_eq {node : Node} (writable : node.Writable) :
    node.expressionText = .ok (.ofList node.form) := by
  obtain ⟨text, written⟩ := writable.spelled.expressionText_ok
  rw [form, written, String.ofList_toList]

/-- What can be written down is listed in its form. -/
theorem Writable.listed_eq {node : Node} (writable : node.Writable) :
    node.listed = .ok (.ofList node.form) := by
  rw [← writable.expressionText_eq]
  cases writable <;> rfl

/-- An operation is written in parentheses, the operator in front of its operands. -/
theorem Writable.form_binary {operator : Char} {left right : Node} (location : Option Location)
    (writable : left.Writable) (writableToo : right.Writable) :
    (Node.binary operator.toString left right location).form =
      '(' :: operator :: ' ' :: (left.form ++ ' ' :: (right.form ++ [')'])) := by
  rw [form, expressionText, writable.expressionText_eq, writableToo.expressionText_eq]
  change ("(" ++ operator.toString ++ " " ++ .ofList left.form ++ " " ++ .ofList right.form ++
    ")").toList = _
  simp

/-- A call is written in parentheses, the name in front of its arguments. -/
theorem Writable.form_call {callee : String} {arguments : List Node} (location : Option Location)
    (writable : ∀ argument ∈ arguments, argument.Writable) :
    (Node.call callee arguments location).form =
      '(' :: 'c' :: 'a' :: 'l' :: 'l' :: ' ' ::
        (callee.toList ++ (spaced (arguments.map form) ++ [')'])) := by
  have written : ∀ argument ∈ arguments, ∃ text, argument.expressionText = .ok text :=
    fun argument among => ⟨_, (writable argument among).expressionText_eq⟩
  rw [form, expressionText, expressionTexts_of_forall written]
  change ("(" ++ " ".intercalate
    ("call" :: callee :: arguments.map fun node => .ofList node.form) ++ ")").toList = _
  have texts : (arguments.map fun node => String.ofList node.form).map String.toList =
      arguments.map form := by
    simp
  rw [String.toList_append, String.toList_append, toList_intercalate, List.map_cons, texts]
  simp [spaced]

/-! ## What the first characters tell -/

/-- The kind of tree that a text begins with the form of. -/
def announced : List Char → String
  | '(' :: c :: _ => if c.isAlpha then "Call" else "BinaryOp"
  | c :: _ => if c.isDigit then "NumberLiteral" else "VariableRef"
  | [] => ""

/-- A text without a parenthesis in front is the form of a number if it begins with a digit, and
otherwise of a reference. -/
theorem announced_of_ne {c : Char} (other : c ≠ '(') (rest : List Char) :
    announced (c :: rest) = if c.isDigit then "NumberLiteral" else "VariableRef" := by
  unfold announced
  split
  · next same =>
    cases same
    exact (other rfl).elim
  · next same =>
    cases same
    rfl
  · next same => cases same

/-- An identifier begins with a letter. -/
theorem exists_letter {name : String} (identifier : isIdentifier name = true) :
    ∃ c rest, name.toList = c :: rest ∧ c.isAlpha = true := by
  unfold isIdentifier at identifier
  cases whole : name.toList with
  | nil =>
    rw [whole] at identifier
    cases identifier
  | cons c rest =>
    simp only [whole, Bool.and_eq_true] at identifier
    exact ⟨c, rest, rfl, identifier.1.1.1⟩

/-- A letter is no digit. -/
theorem isDigit_of_isAlpha {c : Char} (letter : c.isAlpha = true) : c.isDigit = false := by
  cases digit : c.isDigit with
  | false => rfl
  | true =>
    have part : isNumberPart c = true := by simp [isNumberPart, digit]
    rw [IsLexeme.isAlpha_of_isNumberPart part] at letter
    cases letter

/-- A form announces the kind of its tree. -/
theorem Writable.announced_form {node : Node} (writable : node.Writable) (rest : List Char) :
    announced (node.form ++ rest) = node.kind := by
  cases writable with
  | number location magnitude =>
    obtain ⟨c, later, text, digit, _⟩ := numberText_parts magnitude
    have other : c ≠ '(' := by
      rintro rfl
      cases digit
    change announced ((numberText _).toList ++ rest) = _
    rw [text, List.cons_append, announced_of_ne other, if_pos digit]
    rfl
  | @reference name location identifier =>
    obtain ⟨c, later, text, letter⟩ := exists_letter identifier
    have other : c ≠ '(' := by
      rintro rfl
      cases letter
    change announced (name.toList ++ rest) = _
    rw [text, List.cons_append, announced_of_ne other, isDigit_of_isAlpha letter]
    rfl
  | @binary operator _ _ location usable writableLeft writableRight =>
    have symbol := isSymbolCharacter_of_isOperatorCharacter usable
    have noLetter : operator.isAlpha = false := by
      cases letter : operator.isAlpha with
      | false => rfl
      | true => simp [isSymbolCharacter, letter] at symbol
    rw [form_binary location writableLeft writableRight, List.cons_append, List.cons_append,
      announced, noLetter]
    rfl
  | call location _ each =>
    rw [form_call location each]
    rfl

/-- Trees of different kinds have different forms, whatever follows them. -/
theorem Writable.kind_eq {left right : Node} (writable : left.Writable)
    (writableToo : right.Writable) {rest restToo : List Char}
    (same : left.form ++ rest = right.form ++ restToo) : left.kind = right.kind := by
  rw [← writable.announced_form rest, same, writableToo.announced_form]

/-! ## Trees with the same form -/

/-- The form of a tree is found in front of whatever may follow it: **two trees have the same form
there only if they are the same.** -/
theorem Writable.form_unique {left right : Node} (writable : left.Writable)
    (writableToo : right.Writable) {rest restToo : List Char} (closes : Closes rest)
    (closesToo : Closes restToo) (same : left.form ++ rest = right.form ++ restToo) :
    left.same right = true ∧ rest = restToo := by
  induction writable generalizing right rest restToo with
  | @number value location magnitude =>
    have kind := (Writable.number location magnitude).kind_eq writableToo same
    cases writableToo with
    | @number other locationToo magnitudeToo =>
      obtain ⟨_, _, _, _, parts⟩ := numberText_parts magnitude
      obtain ⟨_, _, _, _, partsToo⟩ := numberText_parts magnitudeToo
      obtain ⟨texts, rests⟩ := append_unique
        (fun c member => isInner_of_isDecimalPart (parts c member))
        (fun c member => isInner_of_isDecimalPart (partsToo c member)) closes closesToo same
      exact ⟨(numberText_eq_iff magnitude magnitudeToo).mp (String.toList_inj.mp texts), rests⟩
    | reference | binary | call => simp [Node.kind] at kind
  | @reference name location identifier =>
    have kind := (Writable.reference location identifier).kind_eq writableToo same
    cases writableToo with
    | @reference other locationToo identifierToo =>
      obtain ⟨texts, rests⟩ := append_unique (inner_of_isIdentifier identifier)
        (inner_of_isIdentifier identifierToo) closes closesToo same
      exact ⟨beq_iff_eq.mpr (String.toList_inj.mp texts), rests⟩
    | number | binary | call => simp [Node.kind] at kind
  | @binary operator left' right' location usable writableLeft writableRight inLeft inRight =>
    have kind :=
      (Writable.binary location usable writableLeft writableRight).kind_eq writableToo same
    cases writableToo with
    | @binary other leftToo rightToo locationToo _ writableLeftToo writableRightToo =>
      rw [form_binary location writableLeft writableRight,
        form_binary locationToo writableLeftToo writableRightToo] at same
      simp only [List.cons_append, List.append_assoc, List.nil_append, List.cons.injEq,
        true_and] at same
      obtain ⟨rfl, operands⟩ := same
      obtain ⟨sameLeft, later⟩ := inLeft writableLeftToo (closes_cons rfl _) (closes_cons rfl _)
        operands
      obtain ⟨sameRight, last⟩ := inRight writableRightToo (closes_cons rfl _) (closes_cons rfl _)
        (List.cons.inj later).2
      refine ⟨?_, (List.cons.inj last).2⟩
      rw [Node.same, sameLeft, sameRight, beq_self_eq_true]
      rfl
    | number | reference | call => simp [Node.kind] at kind
  | @call callee arguments location identifier writable each =>
    have kind := (Writable.call location identifier writable).kind_eq writableToo same
    cases writableToo with
    | @call calleeToo argumentsToo locationToo identifierToo writableToo =>
      rw [form_call location writable, form_call locationToo writableToo] at same
      simp only [List.cons_append, List.append_assoc, List.nil_append, List.cons.injEq,
        true_and] at same
      obtain ⟨callees, later⟩ := append_unique (inner_of_isIdentifier identifier)
        (inner_of_isIdentifier identifierToo) (closes_spaced _ rest) (closes_spaced _ restToo) same
      obtain ⟨all, last⟩ := spaced_unique (fun argument among other amongToo rest restToo closes
        closesToo => each argument among (writableToo other amongToo) closes closesToo) later
      refine ⟨?_, last⟩
      rw [Node.same, allSame_iff.mpr all, String.toList_inj.mp callees, beq_self_eq_true]
      rfl
    | number | reference | binary => simp [Node.kind] at kind

/-- Trees that are the same have the same form. -/
theorem Writable.form_of_same {left right : Node} (writable : left.Writable)
    (writableToo : right.Writable) (same : left.same right = true) : left.form = right.form := by
  induction writable generalizing right with
  | number location magnitude =>
    cases writableToo with
    | number locationToo magnitudeToo =>
      exact congrArg String.toList ((numberText_eq_iff magnitude magnitudeToo).mpr same)
    | reference | binary | call => cases same
  | reference location identifier =>
    cases writableToo with
    | reference locationToo identifierToo => exact congrArg String.toList (beq_iff_eq.mp same)
    | number | binary | call => cases same
  | binary location usable writableLeft writableRight inLeft inRight =>
    cases writableToo with
    | binary locationToo usableToo writableLeftToo writableRightToo =>
      simp only [Node.same, Bool.and_eq_true, beq_iff_eq] at same
      obtain ⟨⟨operators, sameLeft⟩, sameRight⟩ := same
      have operator := String.toList_inj.mpr operators
      simp only [Char.toString, String.toList_singleton, List.cons.injEq, and_true] at operator
      rw [form_binary location writableLeft writableRight,
        form_binary locationToo writableLeftToo writableRightToo, operator,
        inLeft writableLeftToo sameLeft, inRight writableRightToo sameRight]
    | number | reference | call => cases same
  | @call callee arguments location identifier writable each =>
    cases writableToo with
    | @call calleeToo argumentsToo locationToo identifierToo writableToo =>
      simp only [Node.same, Bool.and_eq_true, beq_iff_eq, allSame_iff] at same
      obtain ⟨rfl, all⟩ := same
      have forms : arguments.map form = argumentsToo.map form := by
        induction all with
        | nil => rfl
        | cons first _ others =>
          obtain ⟨_, writable⟩ := List.forall_mem_cons.mp writable
          obtain ⟨inFirst, each⟩ := List.forall_mem_cons.mp each
          obtain ⟨writableFirst, writableToo⟩ := List.forall_mem_cons.mp writableToo
          rw [List.map_cons, List.map_cons, inFirst writableFirst first,
            others writable each writableToo]
      rw [form_call location writable, form_call locationToo writableToo, forms]
    | number | reference | binary => cases same

/-- **Expressions have the same prefix form exactly if they are the same.** -/
theorem Writable.form_eq_iff {left right : Node} (writable : left.Writable)
    (writableToo : right.Writable) : left.form = right.form ↔ left.same right = true := by
  constructor
  · intro same
    rw [← List.append_nil left.form, ← List.append_nil right.form] at same
    exact (writable.form_unique writableToo closes_nil closes_nil same).1
  · exact writable.form_of_same writableToo

/-! ## One line -/

/-- Blanks in front of texts bring no line end in. -/
theorem lineFeed_not_mem_spaced {texts : List (List Char)} (each : ∀ text ∈ texts, '\n' ∉ text) :
    '\n' ∉ spaced texts := by
  intro member
  obtain ⟨text, among, inside⟩ := List.mem_flatMap.mp member
  exact each text among ((List.mem_cons.mp inside).resolve_left (by decide))

/-- A form stands on one line. -/
theorem Writable.lineFeed_not_mem_form {node : Node} (writable : node.Writable) :
    '\n' ∉ node.form := by
  induction writable with
  | number location magnitude =>
    obtain ⟨_, _, _, _, parts⟩ := numberText_parts magnitude
    exact lineFeed_not_mem fun c member => isInner_of_isDecimalPart (parts c member)
  | reference location identifier =>
    exact lineFeed_not_mem (inner_of_isIdentifier identifier)
  | @binary operator _ _ location usable writableLeft writableRight inLeft inRight =>
    have noLineFeed : '\n' ≠ operator := by
      rintro rfl
      exact absurd (isSymbolCharacter_of_isOperatorCharacter usable) (by decide)
    rw [form_binary location writableLeft writableRight]
    simp [inLeft, inRight, noLineFeed]
  | call location identifier writable each =>
    have arguments := lineFeed_not_mem_spaced (List.forall_mem_map.mpr each)
    have callee := lineFeed_not_mem (inner_of_isIdentifier identifier)
    rw [form_call location writable]
    simp [arguments, callee]

end Node

end Reckon
