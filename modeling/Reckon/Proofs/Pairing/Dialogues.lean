import Reckon.Proofs.Dialogue.Steps
import Reckon.Proofs.Pairing.Expressions
import Reckon.Reading.Program

/-!
# Dialogues side by side

Two dialogues over the same program, one with the evaluator and one with the generator,
take their steps together. They read the same units, accept and refuse the same
functions, and record the same prototypes. If the expressions that are evaluated are
plain, they have the same results and complain alike.
-/

namespace Reckon

open Reckon.Action

/-- The same complaint, except that errors of running need only have the same code. -/
inductive Complaint.Alike : Complaint → Complaint → Prop
  | reading (error : SyntaxError) : Alike (.reading error) (.reading error)
  | compiling (error : CompileError) (location : Option Location) :
      Alike (.compiling error location) (.compiling error location)
  | running {first second : RunError} (same : first.code = second.code) :
      Alike (.running first) (.running second)

namespace Dialogue

/-- The bare expression that the next step evaluates, if it does: its code, in the evaluator that it
has been handed off to. -/
def evaluated? (dialogue : Dialogue Evaluator) : Option (Evaluator × Code) :=
  let next := dialogue.cursor.nextToken
  if next.kind = .endOfInput || next.isSymbol ';' then none
  else
    match dialogue.cursor.readUnit dialogue.session.operators with
    | .parsed (.expression function) _ =>
      match define dialogue.session function dialogue.backend with
      | .ok handle compiled =>
        match Evaluator.handOff compiled with
        | .ok _ closed => do
          let found ← closed.function? handle
          let (_, code) ← found.body
          return (closed, code)
        | .error .. => none
      | .error .. => none
    | _ => none

/-- The same results, and complaints that are alike. -/
structure Level (left : Dialogue Evaluator) (right : Dialogue Generator) : Prop where
  results : right.results = left.results
  complaints : List.Forall₂ Complaint.Alike left.complaints right.complaints

/-- Dialogues that have come equally far. -/
structure Paired (excused : String → String → Prop) (left : Dialogue Evaluator)
    (right : Dialogue Generator) : Prop where
  cursor : right.cursor = left.cursor
  started : right.started = left.started
  session : right.session = left.session
  platform : right.platform = left.platform
  coupled : Coupled left.session excused left.platform left.backend right.backend
  stale (name : String) (expected given : Nat)
    (complained : .running (.staleArity name expected given) ∈ left.complaints) :
    ∃ caller, excused caller name

namespace Level

variable {left : Dialogue Evaluator} {right : Dialogue Generator}

/-- The same complaint on both sides keeps them level. -/
theorem complain (level : Level left right) {complaint complaintToo : Complaint}
    (alike : complaint.Alike complaintToo) (backend : Evaluator) (backendToo : Generator) :
    Level { left with backend, complaints := left.complaints ++ [complaint] }
      { right with backend := backendToo, complaints := right.complaints ++ [complaintToo] } :=
  ⟨level.results, List.rel_append level.complaints (.cons alike .nil)⟩

/-- Outcomes that are alike are told alike. -/
theorem told (level : Level left right) {outcome outcomeToo : Except RunError Float}
    (alike : Alike outcome outcomeToo) (backend : Evaluator) (backendToo : Generator) :
    Level (left.told outcome backend) (right.told outcomeToo backendToo) := by
  cases alike with
  | value value => exact ⟨congrArg (· ++ [value]) level.results, level.complaints⟩
  | error same => exact level.complain (.running same) backend backendToo

end Level

/-- What a step excuses on both sides, beside what was excused before. -/
def Excusing (excused : String → String → Prop) (left leftAfter : Dialogue Evaluator)
    (right rightAfter : Dialogue Generator) (caller callee : String) : Prop :=
  excused caller callee ∨
    left.Excuses leftAfter caller callee ∧ right.Excuses rightAfter caller callee

/-- The dialogues take a unit in together. -/
def TakeTogether (excused : String → String → Prop) (left : Dialogue Evaluator)
    (right : Dialogue Generator) (unit : ProgramUnit) (plain : Prop) : Prop :=
  ∃ leftAfter rightAfter, Takes left unit leftAfter ∧ Takes right unit rightAfter ∧
    Paired (Excusing excused left leftAfter right rightAfter) leftAfter rightAfter ∧
    (plain → Level left right → Level leftAfter rightAfter)

namespace Paired

variable {excused : String → String → Prop} {left : Dialogue Evaluator} {right : Dialogue Generator}

/-- What is coupled goes on paired if no new errors of running are told. -/
theorem carry (paired : Paired excused left right) {more : String → String → Prop}
    (implies : ∀ caller callee, excused caller callee → more caller callee)
    {leftAfter : Dialogue Evaluator} {rightAfter : Dialogue Generator}
    (cursor : rightAfter.cursor = leftAfter.cursor)
    (started : rightAfter.started = leftAfter.started)
    (session : rightAfter.session = leftAfter.session)
    (platform : rightAfter.platform = leftAfter.platform)
    (coupled :
      Coupled leftAfter.session more leftAfter.platform leftAfter.backend rightAfter.backend)
    (told : ∀ error, .running error ∈ leftAfter.complaints → .running error ∈ left.complaints ∨
      ∀ name expected given, error = .staleArity name expected given → ∃ caller, more caller name) :
    Paired more leftAfter rightAfter := by
  refine ⟨cursor, started, session, platform, coupled, ?_⟩
  intro name expected given complained
  rcases told _ complained with before | excuses
  · obtain ⟨caller, excuse⟩ := paired.stale name expected given before
    exact ⟨caller, implies _ _ excuse⟩
  · exact excuses name expected given rfl

/-- More may be excused. -/
theorem weaken (paired : Paired excused left right) {more : String → String → Prop}
    (implies : ∀ caller callee, excused caller callee → more caller callee) :
    Paired more left right :=
  paired.carry implies paired.cursor paired.started paired.session paired.platform
    (paired.coupled.weaken implies) fun _ member => .inl member

/-- Both sides refuse a unit with the same fault. -/
theorem refused (paired : Paired excused left right) {error : CompileError}
    {location : Option Location} {after : Evaluator} {afterToo : Generator}
    {more : String → String → Prop}
    (implies : ∀ caller callee, excused caller callee → more caller callee)
    (coupled : Coupled left.session excused left.platform after afterToo) :
    Paired more
      { left with backend := after, complaints := left.complaints ++ [.compiling error location] }
      { right with
        backend := afterToo, complaints := right.complaints ++ [.compiling error location] } := by
  refine paired.carry implies paired.cursor paired.started paired.session paired.platform
    (coupled.weaken implies) ?_
  intro problem member
  rcases List.mem_append.mp member with before | last
  · exact .inl before
  · cases List.mem_singleton.mp last

/-- A declaration is accepted or refused on both sides. -/
theorem takes_declaration (paired : Paired excused left right) {prototype : Prototype}
    (word : IsWord prototype.name) (plain : Prop) :
    TakeTogether excused left right (.declaration prototype) plain := by
  rcases paired.coupled.declare word with
    ⟨handle, after, handleToo, afterToo, declares, declaresToo, coupled⟩ |
    ⟨error, location, after, afterToo, refuses, refusesToo, coupled⟩
  · rw [← paired.session] at declaresToo
    refine ⟨_, _, .declared declares, .declared declaresToo, ?_,
      fun _ level => ⟨level.results, level.complaints⟩⟩
    refine paired.carry (fun _ _ => .inl) paired.cursor paired.started ?_ paired.platform
      (coupled.weaken fun _ _ => .inl) fun _ member => .inl member
    exact congrArg (Session.record · prototype) paired.session
  · rw [← paired.session] at refusesToo
    exact ⟨_, _, .declarationRefused refuses rfl, .declarationRefused refusesToo rfl,
      paired.refused (fun _ _ => .inl) coupled,
      fun _ level => level.complain (.compiling error location) after afterToo⟩

/-- A definition is accepted or refused on both sides. -/
theorem takes_definition (paired : Paired excused left right) {function : Definition}
    (word : IsWord function.prototype.name) (spelled : function.body.Spelled) (plain : Prop) :
    TakeTogether excused left right (.definition function) plain := by
  rcases paired.coupled.define function (.inl word) spelled with
    ⟨handle, compiled, compiledToo, done, doneToo, defines, rendered⟩ |
    ⟨error, location, after, afterToo, refuses, refusesToo, coupled⟩
  · rw [← paired.session] at doneToo
    have handsOff := Generator.handOff_ok rendered paired.coupled.accepting
    refine ⟨_, _, .defined done (Evaluator.handOff_eq compiled), .defined doneToo handsOff, ?_,
      fun _ level => ⟨level.results, level.complaints⟩⟩
    have accepted : compiledToo.delivered.defined = compiled.closed.defined := by
      change compiledToo.defined = compiled.defined
      rw [rendered.same, defines.same, Module.symbol_of_isWord _ word]
      exact congrArg (NameSet.insert · _) paired.coupled.defined
    have undefined : function.prototype.name ∉ left.backend.defined := fun member =>
      word.ne_anonymousName (defines.new member)
    have present : function.prototype.name ∈ compiled.closed.defined := by
      change _ ∈ compiled.defined
      rw [defines.same]
      exact (NameSet.mem_insert ..).mpr (.inr rfl)
    refine paired.carry (fun _ _ => .inl) paired.cursor paired.started ?_ paired.platform ?_
      fun _ member => .inl member
    · exact congrArg (Session.record · function.prototype) paired.session
    · refine (paired.coupled.weaken fun _ _ => .inl).defined_closed word spelled defines rendered ?_
      intro callee there wordToo unrecorded other found
      obtain ⟨routine, foundToo, _⟩ := paired.coupled.matched.of_some (.inl wordToo) found
      refine .inr ⟨⟨undefined, present, ⟨?_, unrecorded⟩, other⟩, ⟨?_, ?_, ⟨?_, ?_⟩, other⟩⟩
      · simp [Evaluator.lookup_eq, found]
      · change _ ∉ right.backend.defined
        rw [paired.coupled.defined]
        exact undefined
      · change _ ∈ compiledToo.delivered.defined
        rw [accepted]
        exact present
      · simp [Generator.lookup_eq, foundToo]
      · rw [paired.session]
        exact unrecorded
  · rw [← paired.session] at refusesToo
    exact ⟨_, _, .definitionRefused refuses rfl, .definitionRefused refusesToo rfl,
      paired.refused (fun _ _ => .inl) coupled,
      fun _ level => level.complain (.compiling error location) after afterToo⟩

/-- A bare expression ends in one way or another on both sides. -/
theorem takes_expression (paired : Paired excused left right) {body : Node}
    (spelled : body.Spelled) :
    TakeTogether excused left right (.expression (.anonymous body))
      (∀ handle compiled declared code,
        define left.session (.anonymous body) left.backend = .ok handle compiled →
        compiled.closed.function? handle = some ⟨declared, some (body, code)⟩ →
        compiled.closed.Plain left.platform code) := by
  rcases paired.coupled.define (.anonymous body) (.inr rfl) spelled with
    ⟨handle, compiled, compiledToo, done, doneToo, defines, rendered⟩ |
    ⟨error, location, after, afterToo, refuses, refusesToo, coupled⟩
  · rw [← paired.session] at doneToo
    have handsOff := Generator.handOff_ok rendered paired.coupled.accepting
    obtain ⟨declared, code, wraps⟩ := paired.coupled.settled.wraps spelled defines
    obtain ⟨outcome, outcomeToo, released, executedToo, releasedToo, comes, gives, comesToo,
      givesToo, coupled, ran, alike⟩ := paired.coupled.expression wraps rendered
    rw [← paired.platform] at comesToo
    refine ⟨_, _, .told done (Evaluator.handOff_eq compiled) comes gives,
      .told doneToo handsOff comesToo givesToo, ?_, ?_⟩
    · refine paired.carry (fun _ _ => .inl) (by simp [paired.cursor]) (by simp [paired.started])
        (by simp [paired.session]) (by simp [paired.platform]) ?_ ?_
      · rw [told_session, told_platform, told_backend, told_backend]
        exact coupled.weaken fun _ _ => .inl
      · intro problem member
        cases outcome with
        | ok value => exact .inl member
        | error error =>
          rcases List.mem_append.mp member with before | last
          · exact .inl before
          · cases List.mem_singleton.mp last
            right
            rintro name expected given rfl
            obtain ⟨caller, excuse⟩ := wraps.excused_of_stale ran
            exact ⟨caller, .inl excuse⟩
    · intro plain level
      exact level.told (alike (plain handle compiled declared code done wraps.function?_closed)) _ _
  · rw [← paired.session] at refusesToo
    exact ⟨_, _, .expressionRefused refuses rfl, .expressionRefused refusesToo rfl,
      paired.refused (fun _ _ => .inl) coupled,
      fun _ level => level.complain (.compiling error location) after afterToo⟩

/-- A unit that was read is taken in on both sides. -/
theorem takes (paired : Paired excused left right) {unit : ProgramUnit} (spelled : unit.Spelled) :
    TakeTogether excused left right unit (∀ function handle compiled declared body code,
      unit = .expression function →
      define left.session function left.backend = .ok handle compiled →
      compiled.closed.function? handle = some ⟨declared, some (body, code)⟩ →
      compiled.closed.Plain left.platform code) := by
  cases unit with
  | definition function => exact paired.takes_definition spelled.1 spelled.2 _
  | declaration prototype => exact paired.takes_declaration spelled _
  | expression function =>
    obtain ⟨body, spelled, rfl⟩ := spelled
    obtain ⟨leftAfter, rightAfter, takes, takesToo, after, level⟩ := paired.takes_expression spelled
    refine ⟨leftAfter, rightAfter, takes, takesToo, after, fun plain => level ?_⟩
    intro handle compiled declared code done finds
    exact plain _ handle compiled declared body code rfl done finds

/-- Both dialogues take a step, and stay paired. If the step evaluates nothing that is not plain,
they stay level as well. -/
theorem step (paired : Paired excused left right) :
    ∃ more leftAfter rightAfter, Turns left more leftAfter ∧ Turns right more rightAfter ∧
      Paired (Excusing excused left leftAfter right rightAfter) leftAfter rightAfter ∧
      ((∀ closed code, left.evaluated? = some (closed, code) → closed.Plain left.platform code) →
        Level left right → Level leftAfter rightAfter) := by
  by_cases more : left.cursor.nextToken.kind = .endOfInput
  · refine ⟨false, _, _, .finished more, .finished (paired.cursor ▸ more), ?_,
      fun _ level => ⟨level.results, level.complaints⟩⟩
    exact paired.carry (fun _ _ => .inl) paired.cursor rfl paired.session paired.platform
      (paired.coupled.weaken fun _ _ => .inl) fun _ member => .inl member
  by_cases separator : left.cursor.nextToken.isSymbol ';' = true
  · refine ⟨true, _, _, .separated separator, .separated (paired.cursor ▸ separator), ?_,
      fun _ level => ⟨level.results, level.complaints⟩⟩
    exact paired.carry (fun _ _ => .inl) (congrArg Cursor.pastToken paired.cursor) rfl
      paired.session paired.platform (paired.coupled.weaken fun _ _ => .inl)
      fun _ member => .inl member
  have moreToo : right.cursor.nextToken.kind ≠ .endOfInput := paired.cursor ▸ more
  have unseparated := Bool.eq_false_iff.mpr separator
  have unseparatedToo : right.cursor.nextToken.isSymbol ';' = false := paired.cursor ▸ unseparated
  have alike : right.cursor.readUnit right.session.operators =
      left.cursor.readUnit left.session.operators := by
    rw [paired.cursor, paired.session]
  cases reads : left.cursor.readUnit left.session.operators with
  | failed error stopped =>
    refine ⟨true, _, _, .malformed more unseparated reads,
      .malformed moreToo unseparatedToo (alike.trans reads), ?_, fun _ level =>
        ⟨level.results, List.rel_append level.complaints (.cons (.reading error) .nil)⟩⟩
    refine paired.carry (fun _ _ => .inl) rfl rfl paired.session paired.platform
      (paired.coupled.weaken fun _ _ => .inl) fun problem member => ?_
    rcases List.mem_append.mp member with before | last
    · exact .inl before
    · cases List.mem_singleton.mp last
  | parsed unit cursor =>
    have spelled := Cursor.readUnit_spelled reads
    have moved : Paired excused { left with started := true, cursor }
        { right with started := true, cursor } :=
      ⟨rfl, rfl, paired.session, paired.platform, paired.coupled, paired.stale⟩
    obtain ⟨leftAfter, rightAfter, takes, takesToo, after, level⟩ := moved.takes spelled
    refine ⟨true, leftAfter, rightAfter, .took more unseparated reads takes,
      .took moreToo unseparatedToo (alike.trans reads) takesToo, ?_, ?_⟩
    · refine after.weaken fun caller callee => Or.imp id (And.imp ?_ ?_)
      · exact fun excuse => ⟨excuse.undefined, excuse.defined, excuse.leftOver, excuse.other⟩
      · exact fun excuse => ⟨excuse.undefined, excuse.defined, excuse.leftOver, excuse.other⟩
    intro plain before
    refine level ?_ ⟨before.results, before.complaints⟩
    rintro function handle compiled declared body code rfl done finds
    exact plain _ _ (by
      simp [evaluated?, more, unseparated, reads, done, Evaluator.handOff_eq, finds])

end Paired

end Dialogue

end Reckon
