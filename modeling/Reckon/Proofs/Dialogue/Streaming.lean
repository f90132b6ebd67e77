import Reckon.Evaluator.Execution
import Reckon.Platform.Doubles
import Reckon.Proofs.Dialogue.Progress
import Reckon.Proofs.Dialogue.Steps
import Reckon.Proofs.Reading.Foresight
import Reckon.Proofs.Reading.Units

/-!
# Dialogues with a text that is still coming in

Nothing is read before the first token is asked for, and behind a token one character is read.
A step asks for no token but those of its unit and the one behind them, so a dialogue does
the same with every text that begins like the one that it has read so far.
-/

namespace Reckon

namespace Dialogue

variable {β : Type}

/-- Where the reading of characters has come to: behind the token that is next, once the first
token has been asked for. -/
def scanner (dialogue : Dialogue β) : Cursor :=
  if dialogue.started then dialogue.cursor.pastToken else dialogue.cursor

/-- The token that is next, once the first token has been asked for. -/
def current? (dialogue : Dialogue β) : Option Token :=
  if dialogue.started then some dialogue.cursor.nextToken else none

variable [Backend β] {file : String} {source other : List Char} {limit : Nat}
  {before after : Dialogue β} {more : Bool}

/-- After a step the first token has been asked for. -/
theorem Stepped.started (stepped : Stepped before more after) : after.started = true :=
  (congrArg Progress.started stepped.progress_eq).trans before.progress.started_next

/-- Where a step stops that takes a unit in. -/
theorem cursor_of_taken {unit : ProgramUnit} {cursor : Cursor}
    (taken : take unit { before.asked with cursor } = .ok () after) : after.cursor = cursor :=
  congrArg Progress.cursor (take_elsewhere taken cursor).1

/-- What has been read after a step had been read before. -/
theorem Stepped.within (agree : source.take limit = other.take limit)
    (stepped : Stepped before more after) (there : after.cursor.Within limit) :
    before.cursor.Within limit := by
  cases stepped with
  | finished => exact there
  | separated => exact Cursor.within_of_pastToken there
  | took _ _ reads taken =>
    have stopped : (before.cursor.readUnit before.session.operators).cursor.Within limit := by
      rw [reads]
      exact cursor_of_taken taken ▸ there
    exact Cursor.readUnit_within agree stopped
  | malformed _ _ fails =>
    have stopped : (before.cursor.readUnit before.session.operators).cursor.Within limit := by
      rw [fails]
      exact Cursor.within_of_pastToken there
    exact Cursor.readUnit_within agree stopped

/-- **A step depends on what has been read** when it ends. -/
theorem Stepped.elsewhere (agree : source.take limit = other.take limit)
    (stepped : Stepped before more after) (there : after.cursor.Within limit) {cursor : Cursor}
    (alongside : Cursor.Alongside file source other before.cursor cursor) :
    ∃ last, Stepped { before with cursor } more { after with cursor := last } ∧
      Cursor.Alongside file source other after.cursor last := by
  obtain ⟨token, past⟩ := alongside.nextToken agree (stepped.within agree there)
  cases stepped with
  | finished ended => exact ⟨cursor, .finished (token ▸ ended), alongside⟩
  | separated more separator =>
    exact ⟨cursor.pastToken, .separated (token ▸ more) (token ▸ separator), past⟩
  | @took unit behind _ more unseparated reads taken =>
    have still := cursor_of_taken taken
    have stopped : (before.cursor.readUnit before.session.operators).cursor.Within limit := by
      rw [reads]
      exact still ▸ there
    obtain ⟨result, along⟩ := alongside.readUnit agree stopped
    rw [reads] at result along
    cases readsToo : cursor.readUnit before.session.operators with
    | failed =>
      rw [readsToo] at result
      cases result
    | parsed unitToo last =>
      rw [readsToo] at result along
      cases result
      have elsewhere := (take_elsewhere taken last).2
      rw [still]
      exact ⟨last, .took (token ▸ more) (token ▸ unseparated) readsToo elsewhere, along⟩
  | @malformed error stopped more unseparated fails =>
    have within := Cursor.within_of_pastToken there
    have halted : (before.cursor.readUnit before.session.operators).cursor.Within limit := by
      rw [fails]
      exact within
    obtain ⟨result, along⟩ := alongside.readUnit agree halted
    rw [fails] at result along
    cases failsToo : cursor.readUnit before.session.operators with
    | parsed =>
      rw [failsToo] at result
      cases result
    | failed errorToo last =>
      rw [failsToo] at result along
      cases result
      exact ⟨last.pastToken, .malformed (token ▸ more) (token ▸ unseparated) failsToo,
        (along.nextToken agree within).2⟩

/-- Steps depend on what has been read when the last of them ends. -/
theorem steps_elsewhere (agree : source.take limit = other.take limit) {count : Nat}
    {start dialogue : Dialogue β} (reached : steps count start = .ok () dialogue)
    (there : count = 0 ∨ dialogue.cursor.Within limit) {cursor : Cursor}
    (alongside : Cursor.Alongside file source other start.cursor cursor) :
    ∃ last, steps count { start with cursor } = .ok () { dialogue with cursor := last } ∧
      Cursor.Alongside file source other dialogue.cursor last := by
  induction count generalizing dialogue with
  | zero =>
    cases reached
    exact ⟨cursor, rfl, alongside⟩
  | succ count inductionHypothesis =>
    obtain ⟨before, more, earlier, stepped⟩ := steps_succ_eq_ok_iff.mp reached
    have stepped := stepped_of_step stepped
    have there := there.resolve_left (Nat.succ_ne_zero count)
    obtain ⟨middle, reachedToo, along⟩ :=
      inductionHypothesis earlier (.inr (stepped.within agree there))
    obtain ⟨last, steppedToo, alongLast⟩ := stepped.elsewhere agree there along
    exact ⟨last, steps_succ_eq_ok_iff.mpr ⟨_, more, reachedToo, steppedToo.step_eq⟩, alongLast⟩

/-- After any number of steps, one at least, the first token has been asked for. -/
theorem steps_started {count : Nat} {start dialogue : Dialogue β}
    (reached : steps (count + 1) start = .ok () dialogue) : dialogue.started = true := by
  obtain ⟨before, more, _, stepped⟩ := steps_succ_eq_ok_iff.mp reached
  exact (stepped_of_step stepped).started

/-- The operators are those that the session began with. -/
theorem operators_of_steps {count : Nat} {start dialogue : Dialogue β}
    (reached : steps count start = .ok () dialogue) :
    dialogue.session.operators = start.session.operators := by
  induction count generalizing dialogue with
  | zero =>
    cases reached
    rfl
  | succ count inductionHypothesis =>
    obtain ⟨before, more, earlier, stepped⟩ := steps_succ_eq_ok_iff.mp reached
    have kept := congrArg Progress.operators (stepped_of_step stepped).progress_eq
    rw [Progress.operators_next] at kept
    exact kept.trans (inductionHypothesis earlier)

end Dialogue

/-- The tokens that a unit is spelled with. -/
def ProgramUnit.Words (operators : Operators) : ProgramUnit → Words
  | .definition _ => Grammar.Definition operators
  | .declaration _ => Grammar.Declaration
  | .expression _ => Grammar.Expression operators

/-- A unit begins with a token that is no separator. -/
theorem ProgramUnit.head_of_words {operators : Operators} {unit : ProgramUnit} {word : List Token}
    (isWord : unit.Words operators word) :
    ∃ token rest, word = token :: rest ∧ token.kind ≠ .endOfInput ∧
      token.isSymbol ';' = false := by
  cases unit with
  | definition function =>
    obtain ⟨kind, _, _⟩ := isWord
    exact ⟨_, _, rfl, by simp [kind], by simp [Token.isSymbol, kind]⟩
  | declaration prototype =>
    obtain ⟨kind, _⟩ := isWord
    exact ⟨_, _, rfl, by simp [kind], by simp [Token.isSymbol, kind]⟩
  | expression function =>
    obtain ⟨isFirst, _⟩ := isWord
    obtain ⟨token, rest, rfl, kind | kind | opens⟩ := isFirst.head
    · exact ⟨token, _, rfl, by simp [kind], by simp [Token.isSymbol, kind]⟩
    · exact ⟨token, _, rfl, by simp [kind], by simp [Token.isSymbol, kind]⟩
    · exact ⟨token, _, rfl, by simp [Reader.kind_of_isSymbol opens],
        not_isSymbol ';' opens (by decide)⟩

/-- A result lies behind some of the words. -/
def Outcome.Behind {α : Type} (words : Words) (cursor : Cursor) : Outcome α → Prop
  | .parsed _ after => ∃ passed, cursor.Passes passed after ∧ words passed
  | .failed _ _ => True

/-- A result of a reader that recognizes words lies behind one of them. -/
theorem Outcome.behind_of_recognizes {α : Type} {words closes : Words} {cursor : Cursor}
    {outcome : Outcome α} (recognized : Recognizes words closes cursor outcome) :
    outcome.Behind words cursor := by
  obtain ⟨passed, passes, found⟩ := recognized
  cases outcome with
  | parsed value after => exact ⟨passed, passes, found.1⟩
  | failed error stopped => trivial

/-- A unit that is read is what has been passed. -/
theorem Cursor.passes_of_readUnit {operators : Operators} (registered : operators.Registered)
    {cursor after : Cursor} {unit : ProgramUnit}
    (reads : cursor.readUnit operators = .parsed unit after) :
    ∃ passed, cursor.Passes passed after ∧ unit.Words operators passed := by
  unfold readUnit at reads
  split at reads
  case h_1 define =>
    have recognized := Grammar.definition_recognized registered cursor.depth cursor define
    have behind : (cursor.readDefinition operators).Behind (Grammar.Definition operators) cursor :=
      Outcome.behind_of_recognizes (read_ensures recognized)
    obtain ⟨function, found, rfl⟩ := Outcome.map_eq_parsed reads
    rwa [found] at behind
  case h_2 declare =>
    have recognized := Grammar.declaration_recognized cursor.depth cursor declare
    have behind : cursor.readDeclaration.Behind Grammar.Declaration cursor :=
      Outcome.behind_of_recognizes (read_ensures recognized)
    obtain ⟨prototype, found, rfl⟩ := Outcome.map_eq_parsed reads
    rwa [found] at behind
  case h_3 =>
    have body : Reader.Ensures (.expression operators cursor.depth) cursor
        (Outcome.Behind (Grammar.Expression operators) cursor) :=
      ((Grammar.recognized registered cursor.depth).expression cursor).imp fun _ recognized =>
        Outcome.behind_of_recognizes recognized
    have behind : (cursor.readAnonymous operators).Behind (Grammar.Expression operators) cursor :=
      read_ensures (body.bind (fun _ _ _ => trivial) fun _ _ behind => Reader.ensures_pure behind)
    obtain ⟨function, found, rfl⟩ := Outcome.map_eq_parsed reads
    rwa [found] at behind

/-- **Dialogues with a text that is still coming in.** Before the first token is asked for no
character has been read. Behind any other token than the end of input one character is read, if
there is one, and behind the end of input all characters have been.

So if some steps have read no more of a text than some number of characters, and have not met its
end, they do the same with every other text that has these characters in front: nothing but where
the dialogue stands tells the two apart, and both have the same token in front of them.

A step that takes a unit in has passed the tokens of the unit, and does what the unit asks for while
the one token behind them is next. -/
theorem Dialogue.reads_only_what_is_needed {β : Type} [Backend β] (settings : Settings)
    (platform : Platform) {session : Session} (registered : session.operators.Registered)
    (backend : β) (file : String) (source : List Char) :
    let start := Cursor.start file source
    let opened (source : List Char) : Dialogue β :=
      begin settings platform session backend (.start file source)
    (start.charactersRead = 0 ∧ start.unread = source ∧
      ∀ count, let cursor := Cursor.pastToken^[count] start
        cursor.pastToken.charactersRead =
            (if cursor.nextToken.kind = .endOfInput then (source.length : Int)
            else min (source.length : Int)
              (cursor.nextToken.location.offset + cursor.nextToken.lexeme.length + 1)) ∧
          cursor.pastToken.unread = source.drop cursor.pastToken.charactersRead.toNat) ∧
    (∀ (other : List Char) (limit count : Nat) (dialogue : Dialogue β),
      source.take limit = other.take limit →
      steps count (opened source) = .ok () dialogue →
      dialogue.scanner.charactersRead ≤ limit → dialogue.scanner.rest ≠ [] →
      ∃ cursor, steps count (opened other) = .ok () { dialogue with cursor } ∧
        { dialogue with cursor }.current? = dialogue.current?) ∧
    ∀ (count : Nat) (before after : Dialogue β) (more : Bool) (unit : ProgramUnit)
      (cursor : Cursor),
      steps count (opened source) = .ok () before → step before = .ok more after →
      before.cursor.readUnit session.operators = .parsed unit cursor →
      (∃ passed, before.cursor.Passes passed cursor ∧ unit.Words session.operators passed) ∧
        take unit { before.asked with cursor } = .ok () after ∧ after.cursor = cursor := by
  intro start opened
  refine ⟨⟨rfl, rfl, ?_⟩, ?_, ?_⟩
  · intro count cursor
    obtain ⟨skipped, reached⟩ := Cursor.exists_skip_of_tokens file source count
    have here : cursor = (Cursor.start file source).skip skipped := reached
    refine ⟨here ▸ Cursor.charactersRead_pastToken file source skipped, ?_⟩
    rw [here, Cursor.pastToken_eq, ← Cursor.skip_add, Cursor.unread_skip_start,
      Cursor.charactersRead_skip_start, Int.toNat_natCast, ← List.drop_eq_drop_min]
  · intro other limit count dialogue agree reached read more
    cases count with
    | zero =>
      cases reached
      exact ⟨.start file other, rfl, rfl⟩
    | succ count =>
      have started := steps_started reached
      rw [scanner, if_pos started] at read more
      have within : dialogue.cursor.Within limit := ⟨more, read⟩
      obtain ⟨last, reachedToo, along⟩ := steps_elsewhere agree reached (.inr within)
        (Cursor.alongside_start file source other)
      refine ⟨last, reachedToo, ?_⟩
      rw [current?, current?, if_pos started, if_pos started, (along.nextToken agree within).1]
  · intro count before after more unit cursor reached stepped reads
    obtain ⟨passed, passes, isWord⟩ := Cursor.passes_of_readUnit registered reads
    refine ⟨⟨passed, passes, isWord⟩, ?_⟩
    obtain ⟨token, rest, rfl, kind, unseparated⟩ := ProgramUnit.head_of_words isWord
    obtain ⟨_, _⟩ := passes
    have table : before.session.operators = session.operators := operators_of_steps reached
    rw [← table] at reads
    cases stepped_of_step stepped with
    | finished ended => exact (kind ended).elim
    | separated _ separator =>
      rw [unseparated] at separator
      cases separator
    | malformed _ _ fails =>
      rw [reads] at fails
      cases fails
    | took _ _ readsToo taken =>
      rw [reads] at readsToo
      cases readsToo
      exact ⟨taken, cursor_of_taken taken⟩

/-- Twelve characters are read when a declaration and the semicolon behind it have been, and what
follows the second semicolon has no influence. -/
theorem Dialogue.reads_only_what_is_needed_declared :
    let source := "extern f();;1".toList
    let other := "extern f();;2 + g(3)".toList
    let opened (source : List Char) : Dialogue Evaluator :=
      begin .quiet .doubles .fresh .initial (.start "" source)
    Operators.standard.Registered ∧ source.take 12 = other.take 12 ∧
      ∃ dialogue, steps 1 (opened source) = .ok () dialogue ∧
        (dialogue.scanner.charactersRead = 12 ∧ dialogue.scanner.rest ≠ []) ∧
        (∃ cursor, steps 1 (opened other) = .ok () { dialogue with cursor }) ∧
        ∃ unit cursor, Cursor.readUnit .standard (.start "" source) = .parsed unit cursor ∧
          take unit { (opened source).asked with cursor } = .ok () dialogue := by
  intro source other opened
  have agree : source.take 12 = other.take 12 := by decide
  obtain ⟨dialogue, reached, read, more⟩ :
      ∃ dialogue, steps 1 (opened source) = .ok () dialogue ∧
        (dialogue.scanner.charactersRead = 12 ∧ dialogue.scanner.rest ≠ []) :=
    exists_end (by decide +kernel)
  have registered : Session.fresh.operators.Registered := .standard
  obtain ⟨_, same, executes⟩ :=
    Dialogue.reads_only_what_is_needed .quiet .doubles registered Evaluator.initial "" source
  obtain ⟨cursor, reachedToo, _⟩ :=
    same other 12 1 dialogue agree reached (by rw [read]; decide) more
  refine ⟨.standard, agree, dialogue, reached, ⟨read, more⟩, ⟨cursor, reachedToo⟩, ?_⟩
  obtain ⟨before, again, earlier, stepped⟩ := steps_succ_eq_ok_iff.mp reached
  cases earlier
  have readable : (Cursor.readUnit .standard (.start "" source)).result.isOk = true := by
    decide +kernel
  cases reads : Cursor.readUnit .standard (.start "" source) with
  | failed error stopped =>
    rw [reads] at readable
    cases readable
  | parsed unit cursor =>
    exact ⟨unit, cursor, rfl, (executes 0 _ dialogue again unit cursor rfl stepped reads).2.1⟩

end Reckon
