import Reckon.Proofs.Reading.Contract
import Reckon.Proofs.Token.Passage

/-!
# Recognizing words without looking back

A language is a set of lists of tokens. A reader recognizes it if it passes the longest
front part of the tokens that begins some word: all of a word, or the part in front of
the first token that no word has there.

Words may be followed by others. Which tokens may follow is part of the promise, as it
settles where a word ends: `closes` holds for the lists that may stand behind a word.
With it, the recognizers of a language and of what follows it are put together by
running one after the other.
-/

namespace Reckon

/-- Sets of lists of tokens. -/
abbrev Words := List Token → Prop

/-- The list is empty or begins with the given token. -/
def Ahead (next : Token) (tokens : List Token) : Prop :=
  ∀ token, tokens.head? = some token → token = next

/-- An empty list begins with no other token. -/
theorem ahead_nil (next : Token) : Ahead next [] := by
  intro token first
  cases first

/-- A list begins with its own first token. -/
theorem ahead_cons (next : Token) (tokens : List Token) : Ahead next (next :: tokens) := by
  intro token first
  exact (Option.some.inj first).symm

/-- A word of one language followed by a word of another. -/
def Followed (first second : Words) : Words :=
  fun word => ∃ front back, word = front ++ back ∧ first front ∧ second back

/-- The passed tokens are a word, and no other word with what closes it runs through them up to the
next token. -/
def Accepts (words closes : Words) (passed : List Token) (next : Token) : Prop :=
  words passed ∧ ∀ word rest ahead, words word → closes rest → Ahead next ahead →
    word ++ rest = passed ++ ahead → word = passed

/-- The passed tokens begin a word, and no word with what closes it runs through them up to the
next token. -/
def Refuses (words closes : Words) (passed : List Token) (next : Token) : Prop :=
  (∃ completion, words (passed ++ completion)) ∧ ∀ word rest ahead, words word → closes rest →
    Ahead next ahead → word ++ rest ≠ passed ++ ahead

/-- A reader stopped behind a word, or in front of the first token that does not fit. -/
def Recognizes {α : Type} (words closes : Words) (cursor : Cursor) (outcome : Outcome α) : Prop :=
  ∃ passed, cursor.Passes passed outcome.cursor ∧
    match outcome with
    | .parsed _ after => Accepts words closes passed after.nextToken
    | .failed error stopped =>
      error.found = stopped.nextToken ∧ Refuses words closes passed stopped.nextToken

/-- Either nothing is passed or the next token is passed first. -/
theorem Cursor.Passes.ahead {cursor after : Cursor} {passed ahead : List Token}
    (passage : cursor.Passes passed after) (next : Ahead after.nextToken ahead) :
    Ahead cursor.nextToken (passed ++ ahead) := by
  cases passage with
  | nothing => exact next
  | token more rest => exact ahead_cons _ _

namespace Recognizes

variable {α β : Type} {words other closes : Words}

/-- Languages are exchanged if they have the same words that begin with the next token. -/
theorem transfer {cursor : Cursor} {outcome : Outcome α}
    (recognized : Recognizes words closes cursor outcome)
    (into : ∀ word, words word → Ahead cursor.nextToken word → other word)
    (back : ∀ word rest, other word → closes rest → Ahead cursor.nextToken (word ++ rest) →
      words word)
    (inhabited : ∃ word, other word) : Recognizes other closes cursor outcome := by
  obtain ⟨passed, passage, found⟩ := recognized
  refine ⟨passed, passage, ?_⟩
  cases outcome with
  | parsed value after =>
    obtain ⟨word, only⟩ := found
    refine ⟨into passed word (by simpa using passage.ahead (ahead_nil _)), ?_⟩
    intro word rest ahead isWord isClosed next same
    exact only word rest ahead (back word rest isWord isClosed (same ▸ passage.ahead next)) isClosed
      next same
  | failed error stopped =>
    obtain ⟨sameToken, ⟨completion, completed⟩, none⟩ := found
    refine ⟨sameToken, ?_, ?_⟩
    · cases passage with
      | nothing => exact inhabited
      | token more rest => exact ⟨completion, into _ completed (ahead_cons _ _)⟩
    · intro word rest ahead isWord isClosed next same
      exact none word rest ahead (back word rest isWord isClosed (same ▸ passage.ahead next))
        isClosed next same

/-- Nothing is read where no word can begin but the empty one. -/
theorem pure {cursor : Cursor} {value : α} (empty : words [])
    (only : ∀ word rest, words word → closes rest → Ahead cursor.nextToken (word ++ rest) →
      word = []) :
    Reader.Ensures (Pure.pure value) cursor (Recognizes words closes cursor) := by
  refine Reader.ensures_pure ⟨[], .nothing cursor, empty, ?_⟩
  intro word rest ahead isWord isClosed next same
  exact only word rest isWord isClosed (same ▸ next)

/-- A token is refused where no word can begin with it or be empty. -/
theorem refuse {cursor : Cursor} {expected : Expectation} (inhabited : ∃ word, words word)
    (none : ∀ word rest, words word → closes rest → ¬ Ahead cursor.nextToken (word ++ rest)) :
    Reader.Ensures (Reader.refuse expected : Reader α) cursor (Recognizes words closes cursor) := by
  refine Reader.ensures_refuse ⟨[], .nothing cursor, rfl, inhabited, ?_⟩
  intro word rest ahead isWord isClosed next same
  exact none word rest isWord isClosed (same ▸ next)

/-- A token in front of the words of another language. -/
theorem token {cursor : Cursor} {outcome : Outcome α}
    (more : cursor.nextToken.kind ≠ .endOfInput)
    (recognized : Recognizes other closes cursor.pastToken outcome)
    (into : ∀ word, other word → words (cursor.nextToken :: word))
    (back : ∀ word rest, words word → closes rest →
      (word ++ rest).head? = some cursor.nextToken →
        ∃ later, word = cursor.nextToken :: later ∧ other later) :
    Recognizes words closes cursor outcome := by
  obtain ⟨passed, passage, found⟩ := recognized
  refine ⟨cursor.nextToken :: passed, .token cursor more passage, ?_⟩
  cases outcome with
  | parsed value after =>
    obtain ⟨isWord, only⟩ := found
    refine ⟨into passed isWord, ?_⟩
    intro word rest ahead isWord isClosed next same
    obtain ⟨later, rfl, isLater⟩ := back word rest isWord isClosed (by rw [same]; rfl)
    have sameLater : later ++ rest = passed ++ ahead := (List.cons.inj same).2
    rw [only later rest ahead isLater isClosed next sameLater]
  | failed error stopped =>
    obtain ⟨sameToken, ⟨completion, completed⟩, none⟩ := found
    refine ⟨sameToken, ⟨completion, into _ completed⟩, ?_⟩
    intro word rest ahead isWord isClosed next same
    obtain ⟨later, rfl, isLater⟩ := back word rest isWord isClosed (by rw [same]; rfl)
    exact none later rest ahead isLater isClosed next (List.cons.inj same).2

variable (other) in
/-- A reader goes on past the next token with the language of what may follow it. -/
theorem advance {cursor : Cursor} {next : Unit → Reader α}
    (more : cursor.nextToken.kind ≠ .endOfInput)
    (continues : Reader.Ensures (next ()) cursor.pastToken
      (Recognizes other closes cursor.pastToken))
    (into : ∀ word, other word → words (cursor.nextToken :: word))
    (back : ∀ word rest, words word → closes rest →
      (word ++ rest).head? = some cursor.nextToken →
        ∃ later, word = cursor.nextToken :: later ∧ other later) :
    Reader.Ensures (Reader.advance >>= next) cursor (Recognizes words closes cursor) :=
  Reader.ensures_advance (continues.imp fun _ recognized => recognized.token more into back)

variable (other) in
/-- A symbol that every word begins with is passed or refused. -/
theorem symbol {cursor : Cursor} {character : Char} {expected : Expectation}
    {next : Unit → Reader α}
    (continues : cursor.nextToken.isSymbol character = true →
      Reader.Ensures (next ()) cursor.pastToken (Recognizes other closes cursor.pastToken))
    (into : ∀ token word, token.isSymbol character = true → other word → words (token :: word))
    (back : ∀ word, words word →
      ∃ token later, word = token :: later ∧ token.isSymbol character = true ∧ other later)
    (inhabited : ∃ word, words word) :
    Reader.Ensures (Reader.symbol character expected >>= next) cursor
      (Recognizes words closes cursor) := by
  apply Reader.ensures_symbol
  · intro there
    have more : cursor.nextToken.kind ≠ .endOfInput := by
      rw [Reader.kind_of_isSymbol there]
      decide
    refine (continues there).imp fun _ recognized => recognized.token more
      (fun word isWord => into _ word there isWord) ?_
    intro word rest isWord _ first
    obtain ⟨token, later, rfl, _, isLater⟩ := back word isWord
    have same : token = cursor.nextToken := Option.some.inj first
    exact ⟨later, same ▸ rfl, isLater⟩
  · intro elsewhere
    refine ⟨[], .nothing cursor, rfl, inhabited, ?_⟩
    intro word rest ahead isWord _ next same
    obtain ⟨token, later, rfl, there, _⟩ := back word isWord
    have whole : token :: (later ++ rest) = ahead := same
    have sameToken : token = cursor.nextToken := next token (whole ▸ rfl)
    rw [← sameToken, there] at elsewhere
    cases elsewhere

/-- One recognizer after another recognizes one language followed by the other, if whatever may
stand behind a word of the first may. -/
theorem bind {first second firstCloses closes : Words} {cursor : Cursor} {reader : Reader α}
    {next : α → Reader β}
    (start : Reader.Ensures reader cursor (Recognizes first firstCloses cursor))
    (closed : ∀ word rest, second word → closes rest → firstCloses (word ++ rest))
    (inhabited : ∃ word, second word)
    (continues : ∀ value after passed, Accepts first firstCloses passed after.nextToken →
      Reader.Ensures (next value) after (Recognizes second closes after)) :
    Reader.Ensures (reader >>= next) cursor (Recognizes (Followed first second) closes cursor) := by
  refine start.bind ?_ ?_
  · rintro error stopped ⟨passed, passage, sameToken, ⟨completion, completed⟩, none⟩
    obtain ⟨last, isLast⟩ := inhabited
    refine ⟨passed, passage, sameToken,
      ⟨completion ++ last, passed ++ completion, last, by simp, completed, isLast⟩, ?_⟩
    rintro word rest ahead ⟨front, back, rfl, isFront, isBack⟩ isClosed next same
    exact none front (back ++ rest) ahead isFront (closed back rest isBack isClosed) next
      (by simpa using same)
  · rintro value after ⟨passed, passage, accepted⟩
    refine (continues value after passed accepted).imp ?_
    obtain ⟨isFirst, only⟩ := accepted
    -- The front part of any word that runs as far is what the first recognizer passed.
    have split {front back rest later ahead : List Token} (isFront : first front)
        (isBack : second back) (isClosed : closes rest)
        (next : Ahead after.nextToken (later ++ ahead))
        (same : front ++ back ++ rest = passed ++ later ++ ahead) :
        front = passed ∧ back ++ rest = later ++ ahead := by
      have whole : front ++ (back ++ rest) = passed ++ (later ++ ahead) := by simpa using same
      have sameFront := only front (back ++ rest) (later ++ ahead) isFront
        (closed back rest isBack isClosed) next whole
      subst sameFront
      exact ⟨rfl, List.append_cancel_left whole⟩
    rintro outcome ⟨later, laterPassage, found⟩
    refine ⟨passed ++ later, passage.append laterPassage, ?_⟩
    cases outcome with
    | parsed result last =>
      obtain ⟨isSecond, onlySecond⟩ := found
      refine ⟨⟨passed, later, rfl, isFirst, isSecond⟩, ?_⟩
      rintro word rest ahead ⟨front, back, rfl, isFront, isBack⟩ isClosed next same
      obtain ⟨sameFront, sameBack⟩ :=
        split isFront isBack isClosed (laterPassage.ahead next) same
      rw [sameFront, onlySecond back rest ahead isBack isClosed next sameBack]
    | failed error stopped =>
      obtain ⟨sameToken, ⟨completion, completed⟩, none⟩ := found
      refine ⟨sameToken, ⟨completion, passed, later ++ completion, by simp, isFirst, completed⟩, ?_⟩
      rintro word rest ahead ⟨front, back, rfl, isFront, isBack⟩ isClosed next same
      obtain ⟨_, sameBack⟩ := split isFront isBack isClosed (laterPassage.ahead next) same
      exact none back rest ahead isBack isClosed next sameBack

end Recognizes

end Reckon
