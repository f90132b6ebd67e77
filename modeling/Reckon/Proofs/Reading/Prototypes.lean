import Reckon.Proofs.Reading.RoundTrip
import Reckon.Proofs.Reading.Spelling

/-!
# Prototypes as they are read and written

The name and the parameters of a prototype that was read are identifiers. A prototype of
identifiers may be written in the usual way, without blanks around the parentheses; a
declaration of it between two texts, on a line of its own, is read between the two.
-/

namespace Reckon

/-- Identifiers are words. -/
theorem isWord_of_isIdentifier {name : String} (identifier : isIdentifier name = true) :
    IsWord name := by
  unfold isIdentifier at identifier
  cases whole : name.toList with
  | nil =>
    rw [whole] at identifier
    cases identifier
  | cons c rest =>
    rw [whole] at identifier
    simp only [Bool.and_eq_true] at identifier
    obtain ⟨⟨⟨letter, parts⟩, _⟩, _⟩ := identifier
    constructor
    · rintro rfl
      cases whole
    · rw [whole]
      refine List.forall_mem_cons.mpr ⟨?_, List.all_eq_true.mp parts⟩
      simp [isWordPart, Char.isAlphanum, letter]

/-- A token that is read as an identifier is one. -/
theorem Cursor.isIdentifier_of_identifier {cursor : Cursor}
    (kind : cursor.nextToken.kind = .identifier) :
    isIdentifier cursor.nextToken.lexeme = true := by
  simp only [nextToken] at kind ⊢
  generalize cursor.pastGap.rest = text at kind ⊢
  cases text with
  | nil => cases kind
  | cons c rest =>
    simp only [lexemeInFront] at kind ⊢
    split at kind
    case isTrue letter =>
      rw [if_pos letter]
      unfold TokenKind.ofWord at kind
      split at kind
      · cases kind
      split at kind
      · cases kind
      rename_i noDefinition noDeclaration
      simp only [isIdentifier, String.toList_ofList, Bool.and_eq_true, bne_iff_ne]
      exact ⟨⟨⟨letter, List.all_takeWhile⟩, noDefinition⟩, noDeclaration⟩
    case isFalse => split at kind <;> cases kind

namespace Prototype

/-- The name and the parameters are identifiers. -/
def Identified (prototype : Prototype) : Prop :=
  ∀ word ∈ prototype.name :: prototype.parameters, isIdentifier word = true

/-- The prototype as it is usually written. -/
def written (prototype : Prototype) : String :=
  prototype.name ++ "(" ++ " ".intercalate prototype.parameters ++ ")"

end Prototype

/-- The prototypes of definitions and declarations are made of identifiers. -/
def ProgramUnit.Identified : ProgramUnit → Prop
  | .definition function => function.prototype.Identified
  | .declaration prototype => prototype.Identified
  | .expression _ => True

/-! ## As they are read -/

namespace Reader

/-- Parameters are read as identifiers. -/
theorem parameters_identified (depth : Nat) (cursor : Cursor) :
    Ensures (parameters depth) cursor
      (Yields fun names => ∀ name ∈ names, isIdentifier name = true) := by
  induction depth generalizing cursor with
  | zero => exact ensures_exhausted _ _
  | succ depth inductionHypothesis =>
    rw [parameters]
    apply ensures_peek
    split
    · rename_i kind
      apply ensures_advance
      apply yields_bind (inductionHypothesis _)
      intro others after identified
      have all : ∀ name ∈ cursor.nextToken.lexeme :: others, isIdentifier name = true :=
        List.forall_mem_cons.mpr ⟨Cursor.isIdentifier_of_identifier kind, identified⟩
      exact yields_pure all _
    · exact yields_pure (List.forall_mem_nil _) _

/-- Prototypes are read with identifiers. -/
theorem prototype_identified (depth : Nat) (cursor : Cursor) :
    Ensures (prototype depth) cursor (Yields Prototype.Identified) := by
  unfold prototype
  apply ensures_peek
  split
  · rename_i kind
    refine ensures_advance (yields_symbol fun opened => ?_)
    apply yields_bind (parameters_identified depth opened)
    intro names after identified
    refine yields_symbol fun closed => yields_pure ?_ _
    exact List.forall_mem_cons.mpr ⟨Cursor.isIdentifier_of_identifier kind, identified⟩
  · exact yields_refuse _ _

end Reader

/-- Units are read with identifiers. -/
theorem Cursor.readUnit_identified {operators : Operators} {cursor after : Cursor}
    {unit : ProgramUnit} (reads : cursor.readUnit operators = .parsed unit after) :
    unit.Identified := by
  unfold readUnit at reads
  split at reads
  · cases read : cursor.readDefinition operators with
    | failed error stopped =>
      rw [read] at reads
      cases reads
    | parsed function last =>
      rw [read] at reads
      cases reads
      refine read_yields (fun function : Definition => function.prototype.Identified) ?_ read
      refine Reader.ensures_peek (Reader.ensures_advance ?_)
      apply Reader.yields_bind (Reader.prototype_identified _ _)
      intro header after identified
      apply Reader.yields_bind ((Reader.spells operators _).expression _)
      intro body after _
      exact @Reader.yields_pure _ (fun function : Definition => function.prototype.Identified) _
        identified _
  · cases read : cursor.readDeclaration with
    | failed error stopped =>
      rw [read] at reads
      cases reads
    | parsed header last =>
      rw [read] at reads
      cases reads
      refine read_yields Prototype.Identified ?_ read
      exact Reader.ensures_advance (Reader.prototype_identified _ _)
  · cases read : cursor.readAnonymous operators with
    | failed error stopped =>
      rw [read] at reads
      cases reads
    | parsed function last =>
      rw [read] at reads
      cases reads
      trivial

/-! ## As they are written -/

namespace Cursor

/-- A prototype is read as the lexemes it is usually written with. -/
theorem lexemes_of_written {prototype : Prototype} (identified : prototype.Identified)
    {cursor other : Cursor} (front : cursor.rest = prototype.written.toList ++ other.rest) :
    cursor.lexemes = Clause.header prototype.name prototype.parameters ++ other.lexemes := by
  obtain ⟨identifier, identifiers⟩ := List.forall_mem_cons.mp identified
  let closing : Cursor := { cursor with rest := ')' :: other.rest }
  let inner : Cursor := { cursor with
    rest := (" ".intercalate prototype.parameters).toList ++ closing.rest }
  let opening : Cursor := { cursor with rest := '(' :: inner.rest }
  have whole : cursor.rest = prototype.name.toList ++ opening.rest := by
    simp [front, Prototype.written, opening, inner, closing]
  have named : cursor.lexemes = (.identifier, prototype.name) :: opening.lexemes :=
    lexemes_of_stands (Lexeme.solid_identifier identifier _
      (Lexeme.apart_cons (by decide) (by decide) _)) whole
  have opened : opening.lexemes = mark '(' :: inner.lexemes :=
    lexemes_of_stands (Lexeme.stands_symbol (by decide) _) rfl
  have listed : inner.lexemes =
      prototype.parameters.map (fun parameter => (.identifier, parameter)) ++ closing.lexemes := by
    apply lexemes_of_spaced
    · intro word member
      obtain ⟨parameter, among, rfl⟩ := List.mem_map.mp member
      exact Lexeme.solid_identifier (identifiers parameter among)
    · exact Lexeme.apart_cons (by decide) (by decide) _
    · simp [inner, Function.comp_def]
  have closed : closing.lexemes = mark ')' :: other.lexemes :=
    lexemes_of_stands (Lexeme.stands_symbol (by decide) _) rfl
  rw [named, opened, listed, closed, Clause.header, List.cons_append,
    Phrase.parenthesised_append]

/-- A declaration is read as its lexemes. -/
theorem lexemes_of_declaration (operators : Operators) {prototype : Prototype}
    (identified : prototype.Identified) {cursor other : Cursor}
    (front : cursor.rest = "extern ".toList ++ prototype.written.toList ++ other.rest) :
    cursor.lexemes = (Clause.declaration prototype.name prototype.parameters).words operators ++
      other.lexemes := by
  let header : Cursor := { cursor with rest := prototype.written.toList ++ other.rest }
  let gap : Cursor := { cursor with rest := ' ' :: header.rest }
  have whole : cursor.rest = "extern".toList ++ gap.rest := by
    simp [front, gap, header]
  have declared : cursor.lexemes = (.declare, "extern") :: gap.lexemes :=
    lexemes_of_stands (Lexeme.solid_declare _ (Lexeme.apart_cons (by decide) (by decide) _)) whole
  have blank : gap.lexemes = header.lexemes := lexemes_of_blank (by decide) rfl
  rw [declared, blank, lexemes_of_written identified rfl]
  rfl

/-- A semicolon in front is passed over. -/
theorem items_of_separator {operators : Operators} (registered : operators.Registered)
    {cursor : Cursor} {behind : List Lexeme} (front : cursor.lexemes = mark ';' :: behind) :
    ∃ after : Cursor, after.lexemes = behind ∧ cursor.items operators = after.items operators := by
  obtain ⟨bare, past⟩ := nextToken_of_lexemes front
  have separator : cursor.nextToken.isSymbol ';' = true := by
    rw [Token.isSymbol_of_mark bare, beq_self_eq_true]
  exact ⟨cursor.pastToken, past, (items_pastToken registered (.inr separator)).symm⟩

/-- **A declaration on a line of its own is read between the texts around it**, whatever they
are. -/
theorem items_declared {operators : Operators} (registered : operators.Registered)
    (file fileFirst fileSecond : String) (first second : List Char) {prototype : Prototype}
    (identified : prototype.Identified) :
    Item.AllAlike
      ((start file (first ++ "\n;\n".toList ++ ("extern ".toList ++ prototype.written.toList ++
        (";\n".toList ++ second)))).items operators)
      ((start fileFirst first).items operators ++
        .ok (.declaration { prototype with location := none }) ::
          (start fileSecond second).items operators) := by
  let latter := start fileSecond second
  let last : Cursor := { latter with rest := second }
  let line : Cursor := { latter with rest := '\n' :: second }
  let separated : Cursor := { latter with rest := ";\n".toList ++ second }
  let text := "extern ".toList ++ prototype.written.toList ++ (";\n".toList ++ second)
  let declaration : Cursor := { latter with rest := text }
  let clause := Clause.declaration prototype.name prototype.parameters
  have space : Text.isBlank ' ' = true := by decide
  have ended : separated.lexemes = mark ';' :: latter.lexemes := by
    have opened : latter.lexemes = last.lexemes := lexemes_of_blank space rfl
    have broken : line.lexemes = last.lexemes := lexemes_of_blank (by decide) rfl
    have marked : separated.lexemes = mark ';' :: line.lexemes :=
      lexemes_of_stands (Lexeme.stands_symbol (by decide) _) rfl
    rw [marked, broken, opened]
  have declared : (start "" text).lexemes =
      clause.words operators ++ mark ';' :: latter.lexemes := by
    have opened : (start "" text).lexemes = declaration.lexemes := lexemes_of_blank space rfl
    have front : declaration.rest =
      "extern ".toList ++ prototype.written.toList ++ separated.rest := rfl
    rw [opened, lexemes_of_declaration operators identified front, ended]
  have whole := lexemes_start_append file fileFirst "" first text
  have separates : Separated ((.symbol, ";") :: (start "" text).lexemes) := by
    intro lexeme front
    exact (Option.some.inj front).symm
  refine Abreast.items registered separates ?_ whole
  intro cursor front
  obtain ⟨behind, lexemes, items⟩ := items_of_separator registered front
  have fits : clause.Fits operators := identified
  obtain ⟨unit, after, read, alike, left⟩ := Clause.items_of_reads registered fits
    (lexemes.trans declared) (ends_mark registered (by decide) (by decide) _)
  obtain ⟨rest, lexemes, itemsToo⟩ := items_of_separator registered left
  rw [items, read, itemsToo]
  exact .cons (.unit alike) (items_congr registered lexemes)

end Cursor

end Reckon
