import Reckon.Proofs.Reading.Units

/-!
# The longest front part that begins a word

Every reader of the grammar stops in front of the first token that no word has there.
If what it passed is a word, it succeeds; if it only begins one, the error is about the
token it stopped at.
-/

namespace Reckon

/-- The tokens begin some word. -/
def Viable (words : Words) (front : List Token) : Prop := ∃ completion, words (front ++ completion)

/-- The longest front part of the tokens that begins some word. -/
structure LongestViable (words : Words) (tokens front : List Token) : Prop where
  begins : front <+: tokens
  viable : Viable words front
  longest (other : List Token) (begins : other <+: tokens) (viable : Viable words other) :
    other.length ≤ front.length

/-- A reader passes the longest front part that begins some word and looks at the token behind it.
It succeeds if the front part is a word, and its error is about that token if not. -/
def ReadsLongest {α : Type} (words : Words) (cursor : Cursor) (outcome : Outcome α) : Prop :=
  ∃ consumed next rest, cursor.tokens = consumed ++ next :: rest ∧
    LongestViable words cursor.tokens consumed ∧ cursor.Passes consumed outcome.cursor ∧
    outcome.cursor.nextToken = next ∧
    (words consumed → ∃ value, outcome = .parsed value outcome.cursor) ∧
    (¬ words consumed → ∃ error, outcome = .failed error outcome.cursor ∧ error.found = next ∧
      error.diagnostic.location = some next.location)

/-- A front part that no word runs through up to the token behind it is the longest that begins
one. -/
theorem LongestViable.of_stuck {words : Words} {consumed rest : List Token} {next : Token}
    (viable : Viable words consumed)
    (stuck : ∀ word ahead, words word → Ahead next ahead → word = consumed ++ ahead →
      word = consumed) :
    LongestViable words (consumed ++ next :: rest) consumed := by
  refine ⟨List.prefix_append _ _, viable, ?_⟩
  rintro other begins ⟨completion, isWord⟩
  by_contra longer
  obtain ⟨more, rfl⟩ : consumed <+: other :=
    List.prefix_of_prefix_length_le (List.prefix_append _ _) begins (by omega)
  have behind : more <+: next :: rest := (List.prefix_append_right_inj consumed).mp begins
  cases more with
  | nil => simp at longer
  | cons token later =>
    obtain ⟨rfl, _⟩ := List.cons_prefix_cons.mp behind
    have same := stuck _ (token :: (later ++ completion)) isWord (ahead_cons _ _) (by simp)
    have length := congrArg List.length same
    simp at length

/-- What a reader recognizes, it reads as far as possible. -/
theorem Recognizes.readsLongest {α : Type} {words closes : Words} {cursor : Cursor}
    {outcome : Outcome α} (recognized : Recognizes words closes cursor outcome)
    (ends : closes []) : ReadsLongest words cursor outcome := by
  obtain ⟨consumed, passage, found⟩ := recognized
  obtain ⟨rest, tokens⟩ := outcome.cursor.tokens_eq_cons
  have whole : cursor.tokens = consumed ++ outcome.cursor.nextToken :: rest := by
    rw [passage.tokens, tokens]
  refine ⟨consumed, outcome.cursor.nextToken, rest, whole, ?_, passage, rfl, ?_⟩
  · rw [whole]
    cases outcome with
    | parsed value after =>
      obtain ⟨isWord, only⟩ := found
      refine LongestViable.of_stuck ⟨[], by simpa using isWord⟩ ?_
      intro word ahead isWord next same
      exact only word [] ahead isWord ends next (by simpa using same)
    | failed error stopped =>
      obtain ⟨_, viable, none⟩ := found
      apply LongestViable.of_stuck viable
      intro word ahead isWord next same
      exact (none word [] ahead isWord ends next (by simpa using same)).elim
  · cases outcome with
    | parsed value after =>
      refine ⟨fun _ => ⟨value, rfl⟩, fun noWord => ?_⟩
      exact (noWord found.1).elim
    | failed error stopped =>
      obtain ⟨sameToken, _, none⟩ := found
      refine ⟨fun isWord => ?_, fun _ => ⟨error, rfl, sameToken, congrArg _ (congrArg _ sameToken)⟩⟩
      exact (none consumed [] [] isWord ends (ahead_nil _) rfl).elim

namespace Cursor

/-- The readers of operands, expressions, prototypes, definitions and declarations accept exactly
the words of their languages, and otherwise stop at the first token that does not fit. -/
theorem reads_longest {operators : Operators} (registered : operators.Registered)
    (cursor : Cursor) :
    ReadsLongest (Grammar.Primary operators) cursor (cursor.readPrimary operators) ∧
      ReadsLongest (Grammar.Expression operators) cursor (cursor.readExpression operators) ∧
      ReadsLongest Grammar.Header cursor cursor.readPrototype ∧
      (cursor.nextToken.kind = .define →
        ReadsLongest (Grammar.Definition operators) cursor (cursor.readDefinition operators)) ∧
      (cursor.nextToken.kind = .declare →
        ReadsLongest Grammar.Declaration cursor cursor.readDeclaration) := by
  have readers := Grammar.recognized registered cursor.depth
  have endsRow : Grammar.EndsRow operators 0 [] := by
    intro token first
    cases first
  refine ⟨?_, ?_, ?_, ?_, ?_⟩
  · apply (read_ensures (readers.primary cursor)).readsLongest
    intro token first
    cases first
  · exact (read_ensures (readers.expression cursor)).readsLongest endsRow
  · exact (read_ensures (Grammar.header_recognized _ cursor)).readsLongest trivial
  · intro keyword
    have recognized := Grammar.definition_recognized registered cursor.depth cursor keyword
    exact (read_ensures recognized).readsLongest endsRow
  · intro keyword
    exact (read_ensures (Grammar.declaration_recognized _ cursor keyword)).readsLongest trivial

/-- A definition whose body lacks its last operand. -/
theorem reads_longest_unfinished :
    let cursor := start "" "def f(a b) a*(b+) a".toList
    Operators.standard.Registered ∧ cursor.nextToken.kind = .define ∧
      ReadsLongest (Grammar.Definition .standard) cursor (cursor.readDefinition .standard) :=
  ⟨.standard, rfl, (reads_longest .standard _).2.2.2.1 rfl⟩

end Cursor

end Reckon
