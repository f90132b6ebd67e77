import Reckon.Proofs.Dialogue.Outcomes
import Reckon.Proofs.Dialogue.Progress

/-!
# Every step advances

A step that finds something to do takes some tokens from the front of those that are left, up to
the end of a unit, a separator, or the token that does not fit. The end of input is never taken.
So the steps of a run take consecutive ranges of the tokens, and there are no more steps than
tokens, whatever the back end does and whatever fails. Once a step has found nothing to do, no
later one does.
-/

namespace Reckon

namespace Cursor

/-! ## What is read at a time -/

/-- The end of input is not passed. -/
theorem Passes.kind_ne {first last : Cursor} {passed : List Token}
    (passage : first.Passes passed last) : ∀ token ∈ passed, token.kind ≠ .endOfInput := by
  induction passage with
  | nothing cursor => exact nofun
  | token cursor more _ inductionHypothesis =>
    exact List.forall_mem_cons.mpr ⟨more, inductionHypothesis⟩

/-- What is read at a time passes some tokens; an error may have passed none. -/
def Reads {α : Type} (cursor : Cursor) (outcome : Outcome α) : Prop :=
  ∃ passed, cursor.Passes passed outcome.cursor ∧
    match outcome with
    | .parsed _ _ => passed ≠ []
    | .failed error stopped => error.found = stopped.nextToken

/-- To make something else of a result passes the same tokens. -/
theorem Reads.map {α β : Type} {cursor : Cursor} {outcome : Outcome α}
    (reads : cursor.Reads outcome) (form : α → β) : cursor.Reads (outcome.map form) := by
  obtain ⟨passed, passage, found⟩ := reads
  cases outcome <;> exact ⟨passed, passage, found⟩

/-- What is recognized is read, if no word is empty. -/
theorem reads_of_recognizes {α : Type} {words closes : Words} {cursor : Cursor}
    {outcome : Outcome α} (recognized : Recognizes words closes cursor outcome)
    (some : ¬ words []) : cursor.Reads outcome := by
  obtain ⟨passed, passage, found⟩ := recognized
  refine ⟨passed, passage, ?_⟩
  cases outcome with
  | failed error stopped => exact found.1
  | parsed value after =>
    rintro rfl
    exact some found.1

/-- A unit that is read passes tokens, and so does an error unless the first one does not fit. -/
theorem readUnit_reads {operators : Operators} (registered : operators.Registered)
    (cursor : Cursor) : cursor.Reads (cursor.readUnit operators) := by
  unfold readUnit
  split
  case h_1 define =>
    have recognized := Grammar.definition_recognized registered cursor.depth cursor define
    exact (reads_of_recognizes (read_ensures recognized) nofun).map _
  case h_2 declare =>
    have recognized := Grammar.declaration_recognized cursor.depth cursor declare
    exact (reads_of_recognizes (read_ensures recognized) nofun).map _
  case h_3 =>
    have body : Reader.Ensures (.expression operators cursor.depth) cursor cursor.Reads :=
      ((Grammar.recognized registered cursor.depth).expression cursor).imp fun _ recognized =>
        reads_of_recognizes recognized Grammar.not_expression_nil
    have reads : cursor.Reads (cursor.readAnonymous operators) :=
      read_ensures (body.bind (fun _ _ reads => reads) fun _ _ reads => Reader.ensures_pure reads)
    exact reads.map _

/-- Going past the end of input changes no token. -/
theorem tokens_pastToken_of_ended {cursor : Cursor} (ended : cursor.nextToken.kind = .endOfInput) :
    cursor.pastToken.tokens = [cursor.nextToken] := by
  have none : cursor.pastGap.rest = [] := cursor.kind_nextToken_eq_endOfInput_iff.mp ended
  have still : cursor.pastToken = cursor.pastGap := by
    rw [pastToken, none]
    rfl
  have next : cursor.pastGap.nextToken = cursor.nextToken := by
    have gap : cursor.pastGap.pastGap = cursor.pastGap := by
      rw [pastGap, none]
      rfl
    rw [nextToken, nextToken, gap]
  rw [still, tokens_eq, next, if_pos ended]

/-- At the end of input nothing but the end is left. -/
theorem tokens_of_ended {cursor : Cursor} (ended : cursor.nextToken.kind = .endOfInput) :
    cursor.tokens = [cursor.nextToken] := by
  rw [tokens_eq, if_pos ended]

/-- Otherwise the next token is left and all that are behind it. -/
theorem tokens_of_more {cursor : Cursor} (more : cursor.nextToken.kind ≠ .endOfInput) :
    cursor.tokens = cursor.nextToken :: cursor.pastToken.tokens := by
  rw [tokens_eq, if_neg more]

/-- There are at most as many tokens as characters and one more. -/
theorem length_tokens_le (cursor : Cursor) : cursor.tokens.length ≤ cursor.rest.length + 1 := by
  have within (limit : Nat) (cursor : Cursor) : (tokensWithin limit cursor).length ≤ limit := by
    induction limit generalizing cursor with
    | zero => exact Nat.le_refl 0
    | succ limit inductionHypothesis =>
      simp only [tokensWithin]
      split
      · exact Nat.succ_le_succ (Nat.zero_le limit)
      · exact Nat.succ_le_succ (inductionHypothesis _)
  exact within ..

end Cursor

namespace Dialogue

variable {β : Type} [Backend β]

/-! ## A step -/

/-- The tokens up to one that does not fit, with this one unless it is the end of input. -/
def upTo (front : List Token) (found : Token) : List Token :=
  if found.kind = .endOfInput then front else front ++ [found]

omit [Backend β] in
/-- Between the dialogues the tokens were taken from the front of those that were left: some, and
not the end of input. If a syntax error was reported meanwhile, they are those up to the token that
did not fit. -/
structure Consumes (before : Dialogue β) (taken : List Token) (after : Dialogue β) : Prop where
  some : taken ≠ []
  inside : ∀ token ∈ taken, token.kind ≠ .endOfInput
  tokens : before.cursor.tokens = taken ++ after.cursor.tokens
  errors : after.syntaxErrors = before.syntaxErrors ∨ ∃ (error : SyntaxError) (front rest : _),
    after.syntaxErrors = before.syntaxErrors ++ [error] ∧
      before.cursor.tokens = front ++ error.found :: rest ∧ taken = upTo front error.found

omit [Backend β] in
/-- Nothing but what has been written differs. -/
structure Idle (before after : Dialogue β) : Prop where
  cursor : after.cursor = before.cursor
  results : after.results = before.results
  complaints : after.complaints = before.complaints
  session : after.session = before.session
  backend : after.backend = before.backend

variable {before after : Dialogue β}

omit [Backend β] in
/-- An error that is reported has taken the tokens up to the one that does not fit. -/
theorem consumes_of_malformed {error : SyntaxError} {stopped : Cursor} {passed : List Token}
    (more : before.cursor.nextToken.kind ≠ .endOfInput)
    (passage : before.cursor.Passes passed stopped) (found : error.found = stopped.nextToken) :
    Consumes before (upTo passed error.found)
      { complained (.reading error) before.asked with cursor := stopped.pastToken } := by
  have tokens := passage.tokens
  obtain ⟨rest, there⟩ := stopped.tokens_eq_cons
  have errors : syntaxErrors { complained (.reading error) before.asked with
      cursor := stopped.pastToken } = before.syntaxErrors ++ [error] := by
    simp [syntaxErrors, complained, asked, Complaint.syntaxError?]
  have upToThere : before.cursor.tokens = passed ++ error.found :: rest := by
    rw [tokens, there, found]
  by_cases ended : stopped.nextToken.kind = .endOfInput
  · have taken : upTo passed error.found = passed := by rw [upTo, found, if_pos ended]
    rw [taken]
    refine ⟨?_, passage.kind_ne, ?_, .inr ⟨error, passed, rest, errors, upToThere, taken.symm⟩⟩
    · rintro rfl
      cases passage
      exact more ended
    · change _ = passed ++ stopped.pastToken.tokens
      rw [tokens, Cursor.tokens_pastToken_of_ended ended, Cursor.tokens_of_ended ended]
  · have taken : upTo passed error.found = passed ++ [error.found] := by
      rw [upTo, found, if_neg ended]
    rw [taken]
    refine ⟨by simp, ?_, ?_, .inr ⟨error, passed, rest, errors, upToThere, taken.symm⟩⟩
    · refine List.forall_mem_append.mpr ⟨passage.kind_ne, List.forall_mem_singleton.mpr ?_⟩
      rwa [found]
    · change _ = passed ++ [error.found] ++ stopped.pastToken.tokens
      rw [tokens, Cursor.tokens_of_more ended, found, List.append_assoc]
      rfl

/-- **A step that finds something to do consumes tokens.** -/
theorem Stepped.consumes (registered : before.session.operators.Registered)
    (stepped : Stepped before true after) : ∃ taken, Consumes before taken after := by
  have reads := before.cursor.readUnit_reads registered
  cases stepped with
  | separated more separator =>
    refine ⟨[before.cursor.nextToken], List.cons_ne_nil _ _, List.forall_mem_singleton.mpr more,
      Cursor.tokens_of_more more, .inl rfl⟩
  | @took unit cursor _ more _ parsed taken =>
    rw [parsed] at reads
    obtain ⟨passed, passage, some⟩ := reads
    have progress := (take_elsewhere taken cursor).1
    have there : after.cursor = cursor := congrArg Progress.cursor progress
    have errors : after.syntaxErrors = before.syntaxErrors := congrArg Progress.errors progress
    exact ⟨passed, some, passage.kind_ne, there ▸ passage.tokens, .inl errors⟩
  | malformed more _ fails =>
    rw [fails] at reads
    obtain ⟨passed, passage, found⟩ := reads
    exact ⟨_, consumes_of_malformed more passage found⟩

/-- A step changes no table of operators. -/
theorem Stepped.operators_eq {more : Bool} (stepped : Stepped before more after) :
    after.session.operators = before.session.operators := by
  have next := congrArg Progress.operators stepped.progress_eq
  rwa [Progress.operators_next] at next

/-! ## Nothing left -/

/-- A step that finds nothing to do is idle, at the end of input. -/
theorem idle_of_step (done : step before = .ok false after) :
    before.cursor.nextToken.kind = .endOfInput ∧ Idle before after := by
  have stepped := stepped_of_step done
  refine ⟨stepped.ended_iff.mp rfl, ?_⟩
  cases stepped with
  | finished ended => exact ⟨rfl, rfl, rfl, rfl, rfl⟩

/-- At the end of input a step finds nothing to do. -/
theorem step_of_ended (ended : before.cursor.nextToken.kind = .endOfInput) :
    step before = .ok false before.asked := (Stepped.finished ended).step_eq

/-- **Once nothing is left, nothing is left for any later step.** -/
theorem idle_of_steps (done : step before = .ok false after) (count : Nat) :
    ∃ between later, steps count after = .ok () between ∧ step between = .ok false later ∧
      Idle before later := by
  obtain ⟨ended, idle⟩ := idle_of_step done
  induction count with
  | zero =>
    have still : after.cursor.nextToken.kind = .endOfInput := by rwa [idle.cursor]
    exact ⟨after, _, rfl, step_of_ended still, idle.cursor, idle.results, idle.complaints,
      idle.session, idle.backend⟩
  | succ count inductionHypothesis =>
    obtain ⟨between, later, reached, stepped, idleThere⟩ := inductionHypothesis
    have reachedNext : steps (count + 1) after = .ok () later :=
      steps_succ_eq_ok_iff.mpr ⟨between, false, reached, stepped⟩
    have still : later.cursor.nextToken.kind = .endOfInput := by rwa [idleThere.cursor]
    exact ⟨later, _, reachedNext, step_of_ended still, idleThere.cursor, idleThere.results,
      idleThere.complaints, idleThere.session, idleThere.backend⟩

/-! ## A run -/

/-- Steps that find something to do, one after the other, with the tokens that each takes. -/
inductive Trail : Dialogue β → List (List Token) → Dialogue β → Prop
  | nothing (dialogue : Dialogue β) : Trail dialogue [] dialogue
  | step {before middle last : Dialogue β} {taken : List Token} {ranges : List (List Token)}
      (done : step before = .ok true middle) (consumes : Consumes before taken middle)
      (later : Trail middle ranges last) : Trail before (taken :: ranges) last

namespace Trail

variable {start last : Dialogue β} {ranges : List (List Token)}

/-- The ranges cover the tokens up to those that are left. -/
theorem tokens (trail : Trail start ranges last) :
    start.cursor.tokens = ranges.flatten ++ last.cursor.tokens := by
  induction trail with
  | nothing dialogue => rfl
  | step _ consumes _ inductionHypothesis =>
    rw [consumes.tokens, inductionHypothesis, List.flatten_cons, List.append_assoc]

/-- No range is empty, so there are at most as many as tokens. -/
theorem length_lt (trail : Trail start ranges last) :
    ranges.length < start.cursor.tokens.length := by
  induction trail with
  | nothing dialogue =>
    obtain ⟨rest, tokens⟩ := dialogue.cursor.tokens_eq_cons
    rw [tokens]
    exact Nat.succ_pos _
  | step _ consumes _ inductionHypothesis =>
    have some := List.length_pos_iff.mpr consumes.some
    rw [consumes.tokens, List.length_append, List.length_cons]
    omega

/-- A trail does not leave a kind of states that no step leaves. -/
theorem leads (trail : Trail start ranges last) {kind : Dialogue β → Prop}
    (proceeds : ∀ dialogue, kind dialogue →
      ∃ more after, Dialogue.step dialogue = .ok more after ∧ kind after)
    (begins : kind start) : kind last := by
  induction trail with
  | nothing => exact begins
  | step done _ _ inductionHypothesis =>
    obtain ⟨more, after, stepped, there⟩ := proceeds _ begins
    rw [done] at stepped
    cases stepped
    exact inductionHypothesis there

end Trail

/-- The turn follows a trail, of fewer steps than there are tokens, to where one more step finds
that nothing is left, and then the trail has taken all tokens but the end of input; or to where a
fault breaks a step off. -/
def RunsAlong (turn : Turn β Unit) (start : Dialogue β) : Prop :=
  ∃ ranges last, Trail start ranges last ∧ ranges.length < start.cursor.tokens.length ∧
    ((∃ after ending, step last = .ok false after ∧ turn start = .ok () after ∧
        start.cursor.tokens = ranges.flatten ++ [ending]) ∨
      ∃ fault after, step last = .error fault after ∧ turn start = .error fault after ∧
        start.cursor.tokens = ranges.flatten ++ last.cursor.tokens)

/-- As many steps as there are tokens are enough to come to the end. -/
theorem runWithin_runsAlong {limit : Nat} {start : Dialogue β}
    (registered : start.session.operators.Registered)
    (enough : start.cursor.tokens.length ≤ limit) : RunsAlong (runWithin limit) start := by
  induction limit generalizing start with
  | zero =>
    obtain ⟨rest, tokens⟩ := start.cursor.tokens_eq_cons
    rw [tokens] at enough
    cases enough
  | succ limit inductionHypothesis =>
    have run : runWithin (limit + 1) start =
        (step >>= fun more => if more then runWithin limit else pure ()) start := rfl
    have first := (Trail.nothing start).length_lt
    cases done : step start with
    | error fault after =>
      refine ⟨[], start, .nothing start, first, .inr ⟨fault, after, done, ?_, rfl⟩⟩
      rw [run, Action.bind_error done]
    | ok more after =>
      cases more with
      | false =>
        have ended := Cursor.tokens_of_ended (idle_of_step done).1
        refine ⟨[], start, .nothing start, first, .inl ⟨after, _, done, ?_, ended⟩⟩
        rw [run, Action.bind_ok done]
        rfl
      | true =>
        have stepped := stepped_of_step done
        obtain ⟨taken, consumes⟩ := stepped.consumes registered
        have shorter : after.cursor.tokens.length < start.cursor.tokens.length := by
          have some := List.length_pos_iff.mpr consumes.some
          rw [consumes.tokens, List.length_append]
          omega
        have registeredToo : after.session.operators.Registered :=
          stepped.operators_eq ▸ registered
        obtain ⟨ranges, last, trail, _, ends⟩ := inductionHypothesis registeredToo (by omega)
        have whole : Trail start (taken :: ranges) last := .step done consumes trail
        have same : runWithin (limit + 1) start = runWithin limit after := by
          rw [run, Action.bind_ok done]
          rfl
        refine ⟨taken :: ranges, last, whole, whole.length_lt, ?_⟩
        rw [same]
        rcases ends with ⟨final, _, stops, finishes, _⟩ | ⟨fault, broken, breaks, fails, _⟩
        · have ended := Cursor.tokens_of_ended (idle_of_step stops).1
          exact .inl ⟨final, _, stops, finishes, ended ▸ whole.tokens⟩
        · exact .inr ⟨fault, broken, breaks, fails, whole.tokens⟩

/-- A run follows a trail to its end, or to where a fault breaks it off. -/
theorem run_runsAlong {start : Dialogue β} (registered : start.session.operators.Registered) :
    RunsAlong run start :=
  runWithin_runsAlong registered start.cursor.length_tokens_le

/-- A run ends without a fault if no step from a state of some kind is broken off or leads out of
this kind. -/
theorem RunsAlong.eq_ok (kind : Dialogue β → Prop)
    (proceeds : ∀ dialogue, kind dialogue →
      ∃ more after, step dialogue = .ok more after ∧ kind after)
    {turn : Turn β Unit} {start : Dialogue β} (begins : kind start)
    (runs : RunsAlong turn start) : ∃ after, turn start = .ok () after := by
  obtain ⟨ranges, last, trail, _, ⟨after, _, _, done, _⟩ | ⟨fault, broken, breaks, _⟩⟩ := runs
  · exact ⟨after, done⟩
  · obtain ⟨more, after, stepped, _⟩ := proceeds last (trail.leads proceeds begins)
    rw [breaks] at stepped
    cases stepped

/-- What a dialogue does about its text: a step that finds something to do consumes tokens, after
one that finds nothing all steps are idle, and a run ends after at most as many steps as there are
tokens. -/
structure Driven (start : Dialogue β) : Prop where
  consumes (after : Dialogue β) (done : step start = .ok true after) :
    ∃ taken, Consumes start taken after
  idles (after : Dialogue β) (done : step start = .ok false after) (count : Nat) :
    ∃ between later, steps count after = .ok () between ∧ step between = .ok false later ∧
      Idle start later
  runs : RunsAlong run start

/-- **A dialogue always makes progress.** With any back end, in any state, and whatever fails: every
step that finds something to do takes some tokens and never the end of input; one that reports a
syntax error takes those up to the token that does not fit; the steps of a run take consecutive
ranges that cover the tokens, so there are no more of them than tokens; and once a step has found
nothing to do, no later step does. With the evaluator, and with the generator whether or not its
modules are refused, no fault breaks a run off. -/
theorem dialogues_advance {operators : Operators} (registered : operators.Registered) :
    (∀ (β : Type) [Backend β] (start : Dialogue β), start.session.operators = operators →
      Driven start) ∧
    ∀ (settings : Settings) (platform : Platform) (cursor : Cursor),
      (∃ after, run (withEvaluator settings platform operators cursor) = .ok () after) ∧
      ∀ (level : Nat) (reason? : Option String), ∃ after,
        run ((withGenerator settings platform operators level cursor).facing reason?) =
          .ok () after := by
  constructor
  · rintro β _ start rfl
    exact ⟨fun after done => (stepped_of_step done).consumes registered,
      fun after done => idle_of_steps done, run_runsAlong registered⟩
  · intro settings platform cursor
    constructor
    · refine RunsAlong.eq_ok Accompanied ?_
        (accompanied_withEvaluator settings platform operators cursor) (run_runsAlong registered)
      intro dialogue accompanied
      obtain ⟨more, after, stepped, _, there⟩ := accompanied.proceeds
      exact ⟨more, after, stepped, there⟩
    · intro level reason?
      have shadowed := shadowed_withGenerator settings platform operators level cursor
      refine RunsAlong.eq_ok Shadowed ?_ (shadowed.facing reason?) (run_runsAlong registered)
      intro dialogue shadowed
      obtain ⟨more, after, turns, there⟩ := shadowed.step
      obtain ⟨output, stepped⟩ := turns.ends dialogue.output
      exact ⟨more, { after with output }, stepped, there⟩

/-- The second of two units lacks all but its keyword, so its error is about the end of input. -/
theorem dialogues_advance_unfinished :
    let start := withEvaluator .quiet .doubles .standard (.start "" "x; def".toList)
    Operators.standard.Registered ∧ start.session.operators = .standard ∧ Driven start ∧
      ∃ after, run start = .ok () after := by
  intro start
  obtain ⟨driven, ends⟩ := dialogues_advance .standard
  exact ⟨.standard, rfl, driven Evaluator start rfl, (ends .quiet .doubles _).1⟩

end Dialogue

end Reckon
