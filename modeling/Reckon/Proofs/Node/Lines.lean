import Reckon.Proofs.Node.Notation

/-!
# The lines of a listing tell units apart

The line of a function begins with another word than the line of a declaration. Behind the word
stands the form of the prototype, and the form of the body behind that, each of which is found in
front of whatever follows it. So two lines are the same exactly if the units are of the same kind
and have the same names and the same body.
-/

namespace Reckon

/-! ## Prototypes and functions -/

/-- The name and the parameters hold no blanks, no closing parentheses and no line feeds. -/
def Prototype.Inner (prototype : Prototype) : Prop :=
  ∀ name ∈ prototype.name :: prototype.parameters, ∀ c ∈ name.toList, isInner c = true

/-- Identifiers hold no character that closes. -/
theorem Prototype.Identified.inner {prototype : Prototype} (identified : prototype.Identified) :
    prototype.Inner := fun name among =>
  inner_of_isIdentifier (identified name among)

/-- A prototype is written in parentheses, the name in front of the parameters. -/
theorem Prototype.toList_listed (prototype : Prototype) :
    prototype.listed.toList =
      '(' :: (prototype.name.toList ++
        (spaced (prototype.parameters.map String.toList) ++ [')'])) := by
  rw [listed, String.toList_append, String.toList_append, toList_intercalate]
  simp

/-- The form of a prototype is found in front of whatever follows it. -/
theorem Prototype.listed_unique {left right : Prototype} (inner : left.Inner)
    (innerToo : right.Inner) {rest restToo : List Char}
    (same : left.listed.toList ++ rest = right.listed.toList ++ restToo) :
    left.name = right.name ∧ left.parameters = right.parameters ∧ rest = restToo := by
  obtain ⟨innerName, innerParameters⟩ := List.forall_mem_cons.mp inner
  obtain ⟨innerNameToo, innerParametersToo⟩ := List.forall_mem_cons.mp innerToo
  rw [toList_listed, toList_listed] at same
  simp only [List.cons_append, List.append_assoc, List.nil_append, List.cons.injEq,
    true_and] at same
  obtain ⟨names, later⟩ := append_unique innerName innerNameToo (closes_spaced _ rest)
    (closes_spaced _ restToo) same
  have each : ∀ name ∈ left.parameters, ∀ other ∈ right.parameters, ∀ rest restToo, Closes rest →
      Closes restToo → name.toList ++ rest = other.toList ++ restToo →
        name = other ∧ rest = restToo := by
    intro name among other amongToo rest restToo closes closesToo same
    obtain ⟨texts, rests⟩ := append_unique (innerParameters name among)
      (innerParametersToo other amongToo) closes closesToo same
    exact ⟨String.toList_inj.mp texts, rests⟩
  obtain ⟨parameters, last⟩ := spaced_unique each later
  exact ⟨String.toList_inj.mp names, List.forall₂_eq_eq_eq ▸ parameters, last⟩

/-- Prototypes have the same prefix form exactly if they have the same names. -/
theorem Prototype.listed_eq_iff_names {left right : Prototype} (inner : left.Inner)
    (innerToo : right.Inner) :
    left.listed = right.listed ↔ left.name = right.name ∧ left.parameters = right.parameters := by
  constructor
  · intro same
    have texts := congrArg (fun text => text.toList ++ []) same
    obtain ⟨name, parameters, _⟩ := listed_unique inner innerToo texts
    exact ⟨name, parameters⟩
  · rintro ⟨name, parameters⟩
    rw [listed, listed, name, parameters]

/-- The prefix form of a definition with a body of the given form. -/
theorem Definition.listed_of_body {function : Definition} {body : String}
    (written : function.body.expressionText = .ok body) :
    function.listed = .ok ("(def " ++ function.prototype.listed ++ " " ++ body ++ ")") := by
  rw [Definition.listed, written]
  rfl

/-- A definition is written in parentheses, its prototype in front of its body. -/
theorem Definition.toList_line {function : Definition} (writable : function.body.Writable) :
    function.line.toList =
      '(' :: 'd' :: 'e' :: 'f' :: ' ' ::
        (function.prototype.listed.toList ++ ' ' :: (function.body.form ++ [')'])) := by
  rw [line, listed_of_body writable.expressionText_eq]
  simp

/-- The lines of two functions are the same exactly if the functions are. -/
theorem Definition.line_eq_iff {function other : Definition} (inner : function.prototype.Inner)
    (innerToo : other.prototype.Inner) (writable : function.body.Writable)
    (writableToo : other.body.Writable) :
    function.line = other.line ↔ function.prototype.name = other.prototype.name ∧
      function.prototype.parameters = other.prototype.parameters ∧
      function.body.same other.body = true := by
  rw [← String.toList_inj, toList_line writable, toList_line writableToo]
  simp only [List.cons.injEq, true_and]
  constructor
  · intro same
    obtain ⟨name, parameters, later⟩ := Prototype.listed_unique inner innerToo same
    obtain ⟨body, _⟩ := writable.form_unique writableToo (closes_cons rfl _) (closes_cons rfl _)
      (List.cons.inj later).2
    exact ⟨name, parameters, body⟩
  · rintro ⟨name, parameters, body⟩
    rw [Prototype.listed, Prototype.listed, name, parameters,
      writable.form_of_same writableToo body]

/-- The lines of two declarations are the same exactly if the prototypes are. -/
theorem Prototype.declarationLine_eq_iff {left right : Prototype} (inner : left.Inner)
    (innerToo : right.Inner) :
    left.declarationLine = right.declarationLine ↔
      left.name = right.name ∧ left.parameters = right.parameters := by
  rw [← listed_eq_iff_names inner innerToo, declarationLine, declarationLine, ← String.toList_inj,
    ← String.toList_inj]
  simp only [String.toList_append, List.append_cancel_right_eq, List.append_cancel_left_eq]

/-! ## Units -/

/-- A unit of identifiers with a body that can be spelled out. -/
def ProgramUnit.Writable : ProgramUnit → Prop
  | .definition function => function.prototype.Identified ∧ function.body.Writable
  | .declaration prototype => prototype.Identified
  | .expression function => ∃ body : Node, body.Writable ∧ function = .anonymous body

/-- The same kind of unit with the same name, the same parameters and the same body. -/
def ProgramUnit.Same : ProgramUnit → ProgramUnit → Prop
  | .definition function, .definition other =>
    function.prototype.name = other.prototype.name ∧
      function.prototype.parameters = other.prototype.parameters ∧
      function.body.same other.body = true
  | .declaration prototype, .declaration other =>
    prototype.name = other.name ∧ prototype.parameters = other.parameters
  | .expression function, .expression other => function.body.same other.body = true
  | _, _ => False

/-- The name of a wrapped expression holds no blanks and no parentheses either. -/
theorem Definition.inner_anonymous (body : Node) : (Definition.anonymous body).prototype.Inner := by
  refine List.forall_mem_singleton.mpr ?_
  have inner : anonymousName.toList.all isInner = true := by decide
  exact List.all_eq_true.mp inner

/-- A function is never listed like a declaration. -/
theorem Definition.line_ne_declarationLine {function : Definition}
    (writable : function.body.Writable) (prototype : Prototype) :
    function.line ≠ prototype.declarationLine := by
  rw [ne_eq, ← String.toList_inj, toList_line writable, Prototype.declarationLine]
  simp

/-- An identifier is not the name of a wrapped expression. -/
theorem ProgramUnit.name_ne_anonymous {function : Definition}
    (identified : function.prototype.Identified) (body : Node) :
    function.prototype.name ≠ (Definition.anonymous body).prototype.name :=
  (isWord_of_isIdentifier (identified _ List.mem_cons_self)).ne_anonymousName

/-- **The lines of two units are the same exactly if the units are.** -/
theorem ProgramUnit.line_eq_iff {unit other : ProgramUnit} (writable : unit.Writable)
    (writableToo : other.Writable) : unit.line = other.line ↔ unit.Same other := by
  cases unit with
  | definition function =>
    obtain ⟨identified, body⟩ := writable
    cases other with
    | definition functionToo =>
      exact Definition.line_eq_iff identified.inner writableToo.1.inner body writableToo.2
    | declaration prototype =>
      exact iff_of_false (Definition.line_ne_declarationLine body prototype) id
    | expression functionToo =>
      obtain ⟨wrapped, bodyToo, rfl⟩ := writableToo
      refine iff_of_false (fun same => ?_) id
      exact name_ne_anonymous identified wrapped ((Definition.line_eq_iff identified.inner
        (Definition.inner_anonymous wrapped) body bodyToo).mp same).1
  | declaration prototype =>
    cases other with
    | definition functionToo =>
      exact iff_of_false (Definition.line_ne_declarationLine writableToo.2 prototype).symm id
    | declaration prototypeToo =>
      exact Prototype.declarationLine_eq_iff writable.inner writableToo.inner
    | expression functionToo =>
      obtain ⟨wrapped, bodyToo, rfl⟩ := writableToo
      exact iff_of_false (Definition.line_ne_declarationLine bodyToo prototype).symm id
  | expression function =>
    obtain ⟨wrapped, body, rfl⟩ := writable
    cases other with
    | definition functionToo =>
      refine iff_of_false (fun same => ?_) id
      exact name_ne_anonymous writableToo.1 wrapped ((Definition.line_eq_iff
        (Definition.inner_anonymous wrapped) writableToo.1.inner body writableToo.2).mp same).1.symm
    | declaration prototype =>
      exact iff_of_false (Definition.line_ne_declarationLine body prototype) id
    | expression functionToo =>
      obtain ⟨wrappedToo, bodyToo, rfl⟩ := writableToo
      have same := Definition.line_eq_iff (Definition.inner_anonymous wrapped)
        (Definition.inner_anonymous wrappedToo) body bodyToo
      exact same.trans ⟨fun parts => parts.2.2, fun bodies => ⟨rfl, rfl, bodies⟩⟩

/-- The prefix form of a prototype stands on one line. -/
theorem Prototype.Inner.lineFeed_not_mem_listed {prototype : Prototype} (inner : prototype.Inner) :
    '\n' ∉ prototype.listed.toList := by
  obtain ⟨innerName, innerParameters⟩ := List.forall_mem_cons.mp inner
  have name := lineFeed_not_mem innerName
  have parameters := Node.lineFeed_not_mem_spaced (List.forall_mem_map.mpr fun parameter among =>
    lineFeed_not_mem (innerParameters parameter among))
  rw [toList_listed]
  simp [name, parameters]

/-- A definition takes one line. -/
theorem Definition.lineFeed_not_mem_line {function : Definition}
    (inner : function.prototype.Inner) (writable : function.body.Writable) :
    '\n' ∉ function.line.toList := by
  rw [toList_line writable]
  simp [inner.lineFeed_not_mem_listed, writable.lineFeed_not_mem_form]

/-- The line of a unit is one line. -/
theorem ProgramUnit.lineFeed_not_mem_line {unit : ProgramUnit} (writable : unit.Writable) :
    '\n' ∉ unit.line.toList := by
  cases unit with
  | definition function => exact Definition.lineFeed_not_mem_line writable.1.inner writable.2
  | declaration prototype =>
    rw [line, Prototype.declarationLine]
    simp [Prototype.Inner.lineFeed_not_mem_listed writable.inner]
  | expression function =>
    obtain ⟨wrapped, body, rfl⟩ := writable
    exact Definition.lineFeed_not_mem_line (Definition.inner_anonymous wrapped) body

/-- A listing consists of the lines of the units that are read. -/
theorem Listing.lines_ofItems (items : List Item) :
    (ofItems items).lines =
      String.join ((items.filterMap Except.toOption).map (·.line ++ "\n")) := by
  induction items with
  | nil => rfl
  | cons item items inductionHypothesis =>
    cases item with
    | ok unit =>
      have first : (Except.ok unit :: items).filterMap Except.toOption =
          unit :: items.filterMap Except.toOption := rfl
      rw [first, List.map_cons, String.join_cons, ← inductionHypothesis]
      rfl
    | error error => exact inductionHypothesis

/-- **The prefix form identifies the tree.** Any two expressions of identifiers, usable operators
and finite numbers that are not negative have a prefix form each, the same one exactly if they are
the same. What is listed of a program are the lines of its units, each of them one line if the unit
consists of identifiers and such an expression, and the lines of two such units are the same
exactly if the units are of one kind with the same name, the same parameters and the same body. -/
theorem prefix_form_identifies :
    (∀ left right : Node, left.Writable → right.Writable →
      ∃ text textToo : String, left.listed = .ok text ∧ right.listed = .ok textToo ∧
        (text = textToo ↔ left.same right = true)) ∧
    (∀ (operators : Operators) (cursor : Cursor), (cursor.listing operators).lines =
      String.join (((cursor.items operators).filterMap Except.toOption).map (·.line ++ "\n"))) ∧
    (∀ unit : ProgramUnit, unit.Writable → '\n' ∉ unit.line.toList) ∧
    (∀ unit other : ProgramUnit, unit.Writable → other.Writable →
      (unit.line = other.line ↔ unit.Same other)) := by
  refine ⟨fun left right writable writableToo => ?_, fun operators cursor => ?_,
    fun unit writable => ProgramUnit.lineFeed_not_mem_line writable,
    fun unit other writable writableToo => ProgramUnit.line_eq_iff writable writableToo⟩
  · refine ⟨.ofList left.form, .ofList right.form, writable.listed_eq, writableToo.listed_eq, ?_⟩
    rw [String.ofList_inj, writable.form_eq_iff writableToo]
  · rw [Cursor.listing_eq, Listing.lines_ofItems]

/-- The two zeros as arguments of a function that is named like the word for calls, below an
operator that is a quotation mark; and a definition of that function beside a bare expression. -/
theorem prefix_form_identifies_zeros :
    let left : Node :=
      .binary "\"" (.call "call" [.number 0.0 none, .number 0.1 none] none) (.number 1e16 none) none
    let right : Node :=
      .binary "\"" (.call "call" [.number (-0.0) none, .number 0.1 none] none) (.number 1e16 none)
        none
    let unit : ProgramUnit := .definition ⟨⟨"call", ["x"], none⟩, left, none⟩
    let other : ProgramUnit := .expression (.anonymous right)
    left.Writable ∧ right.Writable ∧
      (∃ text textToo : String, left.listed = .ok text ∧ right.listed = .ok textToo ∧
        text = textToo) ∧
      unit.Writable ∧ other.Writable ∧ '\n' ∉ unit.line.toList ∧ unit.line ≠ other.line := by
  intro left right unit other
  have usable : isOperatorCharacter '"' = true := by decide +kernel
  have great : IsMagnitude 1e16 := ⟨by decide +kernel, by decide +kernel⟩
  have tenth : IsMagnitude 0.1 := ⟨by decide +kernel, by decide +kernel⟩
  have called {value : Float} (zero : IsMagnitude value) :
      Node.Writable (.call "call" [.number value none, .number 0.1 none] none) := by
    refine .call none (by decide) (List.forall_mem_cons.mpr ⟨.number none zero, ?_⟩)
    exact List.forall_mem_singleton.mpr (.number none tenth)
  have writable : left.Writable :=
    .binary none usable (called ⟨by decide +kernel, by decide +kernel⟩) (.number none great)
  have writableToo : right.Writable :=
    .binary none usable (called ⟨by decide +kernel, by decide +kernel⟩) (.number none great)
  have names : ∀ word ∈ ["call", "x"], isIdentifier word = true := by decide
  have same : left.same right = true := by decide +kernel
  obtain ⟨expressions, _, oneLine, units⟩ := prefix_form_identifies
  obtain ⟨text, textToo, listed, listedToo, iff⟩ := expressions left right writable writableToo
  refine ⟨writable, writableToo, ⟨text, textToo, listed, listedToo, iff.mpr same⟩,
    ⟨names, writable⟩, ⟨right, writableToo, rfl⟩, oneLine unit ⟨names, writable⟩, ?_⟩
  exact fun lines => (units unit other ⟨names, writable⟩ ⟨right, writableToo, rfl⟩).mp lines

end Reckon
