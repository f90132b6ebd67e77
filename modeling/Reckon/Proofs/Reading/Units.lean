import Reckon.Proofs.Reading.Acceptance

/-!
# Readers recognize units

Prototypes, definitions and declarations are recognized part after part. The list of
parameters of a prototype ends at the first token that is no identifier.
-/

namespace Reckon

namespace Grammar

variable {operators : Operators}

/-- Names, as they stand between the parentheses of a prototype. -/
def Parameters : Words := fun word => ∀ token ∈ word, token.kind = .identifier

/-- What may stand behind parameters. -/
def EndsParameters : Words := fun rest =>
  ∀ token, rest.head? = some token → token.kind ≠ .identifier

/-- What stands behind the name of a prototype. -/
def HeaderRest : Words := fun word =>
  ∃ opening later, word = opening :: later ∧ opening.isSymbol '(' = true ∧
    Followed Parameters Closing later

/-- Anything may stand behind a prototype. -/
def EndsHeader : Words := fun _ => True

/-- There may be no parameters at all. -/
theorem parameters_nil : Parameters [] := by
  intro token member
  cases member

/-- Something can stand behind the name of a prototype. -/
theorem headerRest_inhabited : ∃ word, HeaderRest word := by
  obtain ⟨last, isLast⟩ := closing_inhabited
  exact ⟨unplaced .symbol "(" :: last, _, _, rfl, rfl, [], last, rfl, parameters_nil, isLast⟩

/-- A prototype is a name and what stands behind it. -/
theorem header_iff (word : List Token) :
    Header word ↔
      ∃ name later, word = name :: later ∧ name.kind = .identifier ∧ HeaderRest later := by
  constructor
  · rintro ⟨kind, opens, kinds, closes⟩
    exact ⟨_, _, rfl, kind, _, _, rfl, opens, _, _, rfl, kinds, _, rfl, closes⟩
  · rintro ⟨name, later, rfl, kind, opening, inner, rfl, opens, parameters, last, rfl, kinds,
      closing, rfl, closes⟩
    exact .header kind opens kinds closes

/-- Some word is a prototype. -/
theorem header_inhabited : ∃ word, Header word := by
  obtain ⟨rest, isRest⟩ := headerRest_inhabited
  exact ⟨_, (header_iff _).mpr ⟨unplaced .identifier "f", rest, rfl, rfl, isRest⟩⟩

/-- Parameters are read for as long as identifiers follow. -/
theorem parameters_recognized (depth : Nat) (cursor : Cursor) :
    Reader.Ensures (.parameters depth) cursor
      (Recognizes Parameters EndsParameters cursor) := by
  induction depth generalizing cursor with
  | zero => exact Reader.ensures_exhausted _ _
  | succ depth inductionHypothesis =>
    rw [Reader.parameters]
    apply Reader.ensures_peek
    by_cases kind : cursor.nextToken.kind = .identifier
    · rw [if_pos kind]
      refine Recognizes.advance Parameters (by rw [kind]; decide)
        (Recognizes.formed (inductionHypothesis _)) ?_ ?_
      · intro word kinds
        exact List.forall_mem_cons.mpr ⟨kind, kinds⟩
      · intro word rest kinds ends first
        cases word with
        | nil => exact (ends _ first kind).elim
        | cons token later =>
          cases first
          exact ⟨later, rfl, (List.forall_mem_cons.mp kinds).2⟩
    · rw [if_neg kind]
      apply Recognizes.pure parameters_nil
      intro word rest kinds _ next
      cases word with
      | nil => rfl
      | cons token later =>
        have isName := kinds token List.mem_cons_self
        rw [next token rfl] at isName
        exact (kind isName).elim

/-- A prototype begins with its name. -/
theorem header_recognized (depth : Nat) (cursor : Cursor) :
    Reader.Ensures (.prototype depth) cursor (Recognizes Header EndsHeader cursor) := by
  unfold Reader.prototype
  apply Reader.ensures_peek
  by_cases kind : cursor.nextToken.kind = .identifier
  · rw [if_pos kind]
    apply Recognizes.advance HeaderRest (by rw [kind]; decide)
    · refine Recognizes.symbol (Followed Parameters Closing) ?_
        (fun token word opens isWord => ⟨token, word, rfl, opens, isWord⟩) ?_ headerRest_inhabited
      · intro _
        refine Recognizes.bind (parameters_recognized depth _) ?_ closing_inhabited ?_
        · rintro word rest ⟨closing, rfl, closes⟩ _ token first
          cases first
          rw [Reader.kind_of_isSymbol closes]
          decide
        · intro parameters after _ _
          exact closing_recognized
      · rintro word ⟨opening, later, rfl, opens, isLater⟩
        exact ⟨opening, later, rfl, opens, isLater⟩
    · intro word isWord
      exact (header_iff _).mpr ⟨_, word, rfl, kind, isWord⟩
    · intro word rest isWord _ first
      obtain ⟨name, later, rfl, _, isLater⟩ := (header_iff _).mp isWord
      cases first
      exact ⟨later, rfl, isLater⟩
  · rw [if_neg kind]
    apply Recognizes.refuse header_inhabited
    intro word rest isWord _ next
    obtain ⟨name, later, rfl, isName, _⟩ := (header_iff _).mp isWord
    rw [next name rfl] at isName
    exact kind isName

/-- A definition is its keyword, a prototype and an expression. -/
theorem definition_recognized (registered : operators.Registered) (depth : Nat) (cursor : Cursor)
    (keyword : cursor.nextToken.kind = .define) :
    Reader.Ensures (.definition operators depth) cursor
      (Recognizes (Definition operators) (EndsRow operators 0) cursor) := by
  unfold Reader.definition
  apply Reader.ensures_peek
  refine Recognizes.advance (Followed Header (Expression operators))
    (by rw [keyword]; decide) ?_ ?_ ?_
  · refine Recognizes.bind (header_recognized depth _) (fun _ _ _ _ => trivial)
      expression_inhabited ?_
    intro prototype after _ _
    exact Recognizes.formed ((recognized registered depth).expression after)
  · rintro word ⟨header, body, rfl, isHeader, isBody⟩
    exact .definition keyword isHeader isBody
  · rintro word rest ⟨_, isHeader, isBody⟩ _ first
    cases first
    exact ⟨_, rfl, _, _, rfl, isHeader, isBody⟩

/-- A declaration is its keyword and a prototype. -/
theorem declaration_recognized (depth : Nat) (cursor : Cursor)
    (keyword : cursor.nextToken.kind = .declare) :
    Reader.Ensures (.declaration depth) cursor (Recognizes Declaration EndsHeader cursor) := by
  unfold Reader.declaration
  refine Recognizes.advance Header (by rw [keyword]; decide)
    (header_recognized depth _) ?_ ?_
  · intro word isHeader
    exact .declaration keyword isHeader
  · rintro word rest ⟨_, isHeader⟩ _ first
    cases first
    exact ⟨_, rfl, isHeader⟩

end Grammar

end Reckon
