import Reckon.Proofs.Operators
import Reckon.Proofs.Token.Segmentation
import Reckon.Session

/-!
# Operators are read as symbols

A symbol outside of comments is a token of its own wherever it is written: it is no part of a
word or a number, and no gap passes over it. A session takes a character as an operator only if
it is a symbol, so whatever is registered, every operator is read where it is written.
-/

namespace Reckon

/-- A comment has begun in the text in front and has not ended in it. -/
def InComment (front : List Char) : Prop :=
  ∃ before content, front = before ++ '#' :: content ∧ ∀ c ∈ content, isLineEnd c = false

/-- A comment that has begun has begun, whatever stands in front of it. -/
theorem InComment.append_left {front : List Char} (before : List Char)
    (commented : InComment front) : InComment (before ++ front) := by
  obtain ⟨earlier, content, rfl, inside⟩ := commented
  exact ⟨before ++ earlier, content, (List.append_assoc ..).symm, inside⟩

/-- What is no blank and begins no comment is passed over in a comment only. -/
theorem inComment_of_lt_gapLength {c : Char} (noBlank : Text.isBlank c = false) (noMark : c ≠ '#')
    {front back : List Char} (inside : Bool)
    (passed : front.length < gapLength inside (front ++ c :: back)) :
    InComment front ∨ inside = true ∧ ∀ other ∈ front, isLineEnd other = false := by
  induction front generalizing inside with
  | nil =>
    cases inside with
    | true => exact .inr ⟨rfl, nofun⟩
    | false =>
      rw [List.nil_append, (gapLength_eq_zero_iff c back).mpr ⟨noBlank, noMark⟩] at passed
      cases passed
  | cons first rest inductionHypothesis =>
    have further (before : InComment rest) : InComment (first :: rest) :=
      before.append_left [first]
    cases inside with
    | true =>
      rcases inductionHypothesis _ (Nat.lt_of_succ_lt_succ passed) with before | ⟨goesOn, none⟩
      · exact .inl (further before)
      · rw [Bool.not_eq_true'] at goesOn
        exact .inr ⟨rfl, List.forall_mem_cons.mpr ⟨goesOn, none⟩⟩
    | false =>
      left
      rw [List.cons_append, gapLength] at passed
      by_cases blank : Text.isBlank first = true
      · rw [if_pos blank] at passed
        rcases inductionHypothesis _ (Nat.lt_of_succ_lt_succ passed) with before | ⟨outside, _⟩
        · exact further before
        · cases outside
      · by_cases mark : first = '#'
        · rw [if_neg blank, if_pos mark] at passed
          rcases inductionHypothesis _ (Nat.lt_of_succ_lt_succ passed) with before | ⟨_, none⟩
          · exact further before
          · exact ⟨[], rest, by rw [mark, List.nil_append], none⟩
        · rw [if_neg blank, if_neg mark] at passed
          cases passed

/-- A symbol is neither a letter nor part of a number, it is no blank, and it begins no comment. -/
theorem isSymbolCharacter_iff (c : Char) :
    isSymbolCharacter c = true ↔
      c.isAlpha = false ∧ isNumberPart c = false ∧ Text.isBlank c = false ∧ c ≠ '#' := by
  simp [isSymbolCharacter, and_assoc]

/-- A symbol is a lexeme of its own. -/
theorem IsLexeme.eq_of_symbol {kind : TokenKind} {lexeme behind : List Char} {c : Char}
    (whole : IsLexeme kind lexeme behind) (member : c ∈ lexeme)
    (symbol : isSymbolCharacter c = true) : kind = .symbol ∧ lexeme = [c] := by
  obtain ⟨noLetter, noNumber, _, _⟩ := (isSymbolCharacter_iff c).mp symbol
  cases whole with
  | word letter parts _ =>
    have part : isWordPart c = true := by
      rcases List.mem_cons.mp member with rfl | later
      · simp [isWordPart, Char.isAlphanum, letter]
      · exact List.all_eq_true.mp parts c later
    simp only [isNumberPart, Bool.or_eq_false_iff] at noNumber
    simp [isWordPart, Char.isAlphanum, noLetter, noNumber] at part
  | number parts _ =>
    have part := List.all_eq_true.mp parts c member
    rw [noNumber] at part
    cases part
  | symbol _ => exact ⟨rfl, by rw [List.mem_singleton.mp member]⟩

section

variable {file : String} {source front back : List Char} {c : Char}

/-- Outside of comments no gap passes over a symbol. -/
theorem gapLength_le_of_symbol (symbol : isSymbolCharacter c = true)
    (written : source = front ++ c :: back) (outside : ¬ InComment front) {offset : Nat}
    (ahead : offset ≤ front.length) :
    offset + gapLength false (source.drop offset) ≤ front.length := by
  obtain ⟨_, _, noBlank, noMark⟩ := (isSymbolCharacter_iff c).mp symbol
  apply Classical.byContradiction
  intro passed
  rw [written, List.drop_append_of_le_length ahead] at passed
  have length : (front.drop offset).length = front.length - offset := List.length_drop
  have further : (front.drop offset).length < gapLength false (front.drop offset ++ c :: back) := by
    omega
  rcases inComment_of_lt_gapLength noBlank noMark false further with commented | ⟨inside, _⟩
  · have whole := commented.append_left (front.take offset)
    rw [List.take_append_drop] at whole
    exact outside whole
  · cases inside

/-- A stretch that a symbol lies in is the symbol. -/
theorem Token.IsStretch.eq_of_symbol {token : Token} (stretch : token.IsStretch file source)
    (symbol : isSymbolCharacter c = true) (written : source = front ++ c :: back)
    (begins : token.span.1 ≤ front.length) (ends : front.length < token.span.2) :
    token = { kind := .symbol, lexeme := c.toString,
              location := placeIn file source front.length } := by
  have rest := stretch.drop_eq
  rw [written, List.drop_append_of_le_length begins, ← written] at rest
  have member : c ∈ token.lexeme.toList := by
    have found : (front.drop token.span.1 ++ c :: back)[front.length - token.span.1]? = some c := by
      rw [List.getElem?_append_right (by simp), List.length_drop, Nat.sub_self]
      rfl
    have inside : front.length - token.span.1 < token.lexeme.toList.length := by
      have span : token.span.2 = token.span.1 + token.lexeme.toList.length := rfl
      omega
    rw [rest, List.getElem?_append_left inside] at found
    exact List.mem_of_getElem? found
  obtain ⟨kind, alone⟩ := stretch.whole.eq_of_symbol member symbol
  have lexeme : token.lexeme = c.toString := by
    rw [← String.ofList_toList (s := token.lexeme), alone]
    rfl
  have offset : token.location.offset = front.length := by
    have span : token.span.2 = token.span.1 + token.lexeme.toList.length := rfl
    have first : token.span.1 = token.location.offset.toNat := rfl
    have notNegative := stretch.inside
    rw [alone, List.length_singleton] at span
    omega
  have place := stretch.place
  rw [offset] at place
  rw [← kind, ← lexeme, ← place]

/-- A symbol outside of comments is a stretch of every segmentation that begins in front of it. -/
theorem IsSegmentation.mem_of_symbol (symbol : isSymbolCharacter c = true)
    (written : source = front ++ c :: back) (outside : ¬ InComment front) {offset : Nat}
    {tokens : List Token} (segmentation : IsSegmentation file source offset tokens)
    (ahead : offset ≤ front.length) :
    { kind := .symbol, lexeme := c.toString, location := placeIn file source front.length } ∈
      tokens := by
  induction tokens generalizing offset with
  | nil =>
    have last := isSegmentation_nil_iff.mp segmentation
    have filled : offset + gapLength false (source.drop offset) = source.length :=
      last.gapLength_eq (Nat.le_refl _) (by rw [List.drop_length, gapLength])
    have reached := gapLength_le_of_symbol symbol written outside ahead
    have length := congrArg List.length written
    rw [List.length_append, List.length_cons] at length
    omega
  | cons token tokens inductionHypothesis =>
    obtain ⟨adjoins, stretch, later⟩ := isSegmentation_cons_iff.mp segmentation
    have first := adjoins.gapLength_eq (Nat.le_of_lt stretch.lt_length) stretch.noGap
    have reached := gapLength_le_of_symbol symbol written outside ahead
    rcases Nat.lt_or_ge front.length token.span.2 with here | behind
    · rw [stretch.eq_of_symbol symbol written (first ▸ reached) here]
      exact List.mem_cons_self
    · exact List.mem_cons_of_mem _ (inductionHypothesis later behind)

end

/-- **A symbol is a token wherever it is written outside of comments.** -/
theorem Cursor.mem_tokens_of_symbol {c : Char} (symbol : isSymbolCharacter c = true)
    (file : String) {source front back : List Char} (written : source = front ++ c :: back)
    (outside : ¬ InComment front) :
    { kind := .symbol, lexeme := c.toString, location := placeIn file source front.length } ∈
      (start file source).tokens := by
  obtain ⟨tokens, read, segmentation⟩ :=
    exists_segmentation file source (Nat.zero_le _)
  rw [tokens_start, read]
  apply List.mem_append_left
  exact segmentation.mem_of_symbol symbol written outside (Nat.zero_le _)

/-! ## Operators -/

/-- A table that took several operators in, one after the other, is registered. -/
theorem Operators.Registered.foldlM {operators table : Operators} {given : List (Datum × Datum)}
    (registered : Registered operators)
    (accepted :
      given.foldlM (fun table pair => table.register pair.1 pair.2) operators = .ok table) :
    Registered table := by
  induction given generalizing operators with
  | nil => exact Except.ok.inj accepted ▸ registered
  | cons pair rest inductionHypothesis =>
    rw [List.foldlM_cons] at accepted
    cases first : operators.register pair.1 pair.2 with
    | error error =>
      rw [first] at accepted
      cases accepted
    | ok next =>
      rw [first] at accepted
      exact inductionHypothesis (.register pair.1 pair.2 registered first) accepted

/-- The table of a session is one that registration reaches. -/
theorem Session.registered_withOperators {given : List (Datum × Datum)} {session : Session}
    (constructed : Session.withOperators given = .ok session) :
    Operators.Registered session.operators := by
  unfold withOperators at constructed
  cases table : given.foldlM (fun table pair => table.register pair.1 pair.2)
      Operators.standard with
  | error error =>
    rw [table] at constructed
    cases constructed
  | ok operators =>
    rw [table] at constructed
    cases constructed
    exact Operators.Registered.standard.foldlM table

/-- **Operators and their symbols.** Whatever a session is made with and whatever is offered to it
later, the four operators with a meaning are in its table. Every operator is a usable character with
a positive precedence, and where it is written outside of comments it is read as a token of its own
that has this precedence. Every other token has the precedence minus one. -/
theorem Session.operators_are_read (given calls : List (Datum × Datum)) {session : Session}
    (constructed : Session.withOperators given = .ok session) :
    let operators := calls.foldl Operators.offer session.operators
    (∀ usual ∈ ['<', '+', '-', '*'], usual ∈ operators.keys) ∧
    (∀ character ∈ operators.keys, ∃ strength, operators.get? character = some strength ∧
      1 ≤ strength ∧ Text.isAlphanumeric character = false ∧ Text.isBlank character = false ∧
      character ∉ ['(', ')', ',', ';', '#', '.'] ∧
      ∀ (file : String) (front back : List Char), ¬ InComment front →
        ∃ token ∈ tokenize file (String.ofList (front ++ character :: back)),
          token.kind = .symbol ∧ token.lexeme = character.toString ∧
          token.location.offset = front.length ∧ operators.precedence token = strength) ∧
    ∀ token : Token,
      (token.kind ≠ .symbol ∨ (∃ mark ∈ ['(', ')', ',', ';'], token.isSymbol mark = true) ∨
        ∀ character ∈ operators.keys, token.isSymbol character = false) →
      operators.precedence token = -1 := by
  intro operators
  have registered : operators.Registered :=
    (registered_withOperators constructed).foldl_offer calls
  refine ⟨fun _ => registered.usual, ?_, ?_⟩
  · intro character key
    obtain ⟨strength, found⟩ := Option.isSome_iff_exists.mp ((operators.get?_isSome_iff _).mpr key)
    obtain ⟨usable, positive⟩ := registered.entry found
    obtain ⟨noWord, noBlank, unreserved⟩ := (isOperatorCharacter_iff character).mp usable
    refine ⟨strength, found, positive, noWord, noBlank, unreserved, ?_⟩
    intro file front back outside
    have symbol := isSymbolCharacter_of_isOperatorCharacter usable
    have written : (String.ofList (front ++ character :: back)).toList =
        front ++ character :: back := String.toList_ofList
    have member := Cursor.mem_tokens_of_symbol symbol file written outside
    refine ⟨_, member, rfl, rfl, rfl, ?_⟩
    have itself (location : Location) :
        Token.isSymbol ⟨.symbol, character.toString, location⟩ character = true := by
      simp [Token.isSymbol]
    rw [operators.precedence_of_isSymbol (itself _), found]
  · rintro token (word | ⟨mark, punctuation, symbol⟩ | other)
    · exact operators.precedence_of_kind_ne token word
    · have reserved : ∀ mark ∈ ['(', ')', ',', ';'], isReserved mark = true := by
        simp [isReserved]
      exact registered.precedence_of_isReserved symbol (reserved mark punctuation)
    · exact operators.precedence_of_no_key other

/-- A session is made with one more operator, and of two that are offered later one is refused. -/
theorem Session.operators_are_read_offered :
    let session := { Session.fresh with operators := Operators.standard.put '|' 5 }
    let operators := [(Datum.nothing, Datum.integer 7), (.text '&'.toString, .integer 6)].foldl
      Operators.offer session.operators
    Session.withOperators [(.text '|'.toString, .integer 5)] = .ok session ∧
      operators.keys = ['<', '+', '-', '*', '|', '&'] ∧
      ∃ token ∈ tokenize "" (String.ofList ['a', '&', 'b']),
        token.kind = .symbol ∧ token.lexeme = '&'.toString ∧ token.location.offset = 1 ∧
        operators.precedence token = 6 := by
  intro session operators
  have bar (table : Operators) : table.register (.text '|'.toString) (.integer 5) =
      .ok (table.put '|' 5) := table.register_text (by decide +kernel) (by decide)
  have both (table : Operators) : table.register (.text '&'.toString) (.integer 6) =
      .ok (table.put '&' 6) := table.register_text (by decide +kernel) (by decide)
  have constructed : Session.withOperators [(.text '|'.toString, .integer 5)] = .ok session := by
    simp only [Session.withOperators, List.foldlM_cons, List.foldlM_nil, bar]
    rfl
  have refused : session.operators.offer (.nothing, .integer 7) = session.operators := rfl
  have taken : session.operators.offer (.text '&'.toString, .integer 6) =
      session.operators.put '&' 6 := by
    simp only [Operators.offer, both]
  have table : operators = session.operators.put '&' 6 := by
    simp only [operators, List.foldl_cons, List.foldl_nil, refused, taken]
  have keys : operators.keys = ['<', '+', '-', '*', '|', '&'] := by
    rw [table]
    decide
  have read := (Session.operators_are_read _
    [(.nothing, .integer 7), (.text '&'.toString, .integer 6)] constructed).2.1 '&'
    (by rw [keys]; decide)
  obtain ⟨strength, found, _, _, _, _, occurs⟩ := read
  have six : strength = 6 := by
    have same := found.symm.trans (congrArg (fun table => table.get? '&') table)
    exact Option.some.inj same
  have outside : ¬ InComment ['a'] := by
    rintro ⟨before, content, split, _⟩
    have mark : '#' ∈ ['a'] := split ▸ List.mem_append_right before List.mem_cons_self
    exact absurd mark (by decide)
  obtain ⟨token, member, kind, lexeme, offset, precedence⟩ := occurs "" ['a'] ['b'] outside
  refine ⟨constructed, keys, token, member, kind, lexeme, offset, ?_⟩
  rw [precedence, six]
  rfl

end Reckon
