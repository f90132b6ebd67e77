import Reckon.Proofs.Dialogue.Rearrangement
import Reckon.Proofs.Evaluator.Judgement
import Reckon.Proofs.Reading.Prototypes

/-!
# Declaring a known function again

A declaration with the recorded number of parameters changes the open unit and the recorded
prototype, but nothing that can be noticed: every name still means as many parameters in a
call, and the same bodies are found by names. So whatever is read afterwards is accepted or
refused for the same reasons and comes to the same.
-/

namespace Reckon

/-! ## What judging depends on -/

namespace Surroundings

/-- How many parameters the function has that a name means: the one in the open unit, or else the
recorded one. -/
def meaning (surroundings : Surroundings) (name : String) : Option Nat :=
  (surroundings.opened name).or (surroundings.recorded name)

/-- Where a function of the open unit is recorded, it is with its number of parameters. -/
def Consistent (surroundings : Surroundings) : Prop :=
  ∀ name arity known, surroundings.opened name = some arity →
    surroundings.recorded name = some known → arity = known

variable {left right : Surroundings}

/-- Of two conflicts with functions of one arity only the first is seen. -/
theorem Consistent.head?_conflicts (consistent : left.Consistent) (prototype : Prototype) :
    (prototype.conflicts (left.recorded prototype.name) ++
      prototype.conflicts (left.opened prototype.name)).head? =
      (prototype.conflicts (left.meaning prototype.name)).head? := by
  unfold meaning
  cases recorded : left.recorded prototype.name with
  | none => rw [Option.or_none, Prototype.conflicts, List.nil_append]
  | some known =>
    cases opened : left.opened prototype.name with
    | none => rw [Option.none_or, show prototype.conflicts none = [] from rfl, List.append_nil]
    | some arity =>
      rw [consistent _ _ _ opened recorded, Option.some_or, List.head?_append, Option.or_self]

/-- The first violation in a prototype depends on the meaning of its name. -/
theorem Consistent.head?_prototype (consistent : left.Consistent)
    (consistentToo : right.Consistent) (meaning : left.meaning = right.meaning)
    (prototype : Prototype) :
    (prototype.violations left).head? = (prototype.violations right).head? := by
  rw [Prototype.violations, Prototype.violations, List.append_assoc, List.append_assoc,
    List.head?_append, consistent.head?_conflicts, List.head?_append,
    consistentToo.head?_conflicts, meaning]

/-- What a call may mean depends on what names mean. -/
theorem callable?_congr (meaning : left.meaning = right.meaning) (prototype : Prototype) :
    left.callable? prototype = right.callable? prototype := by
  funext name
  exact congrArg (fun found => if name = prototype.name then _ else found) (congrFun meaning name)

/-- The first violation in a definition depends on what names mean and which are taken. -/
theorem Consistent.head?_definition (consistent : left.Consistent)
    (consistentToo : right.Consistent) (meaning : left.meaning = right.meaning)
    (defined : left.defined = right.defined) (function : Definition) :
    (function.violations left).head? = (function.violations right).head? := by
  rw [Definition.violations, Definition.violations, List.append_assoc, List.append_assoc,
    defined, callable?_congr meaning, List.head?_append,
    consistent.head?_prototype consistentToo meaning, ← List.head?_append]

end Surroundings

/-- Recording the same prototype keeps the recorded arities the same. -/
theorem Session.arity?_record_congr {session other : Session}
    (same : session.arity? = other.arity?) (prototype : Prototype) :
    (session.record prototype).arity? = (other.record prototype).arity? := by
  funext name
  have before := congrFun same name
  unfold arity? at before ⊢
  rw [find?_record, find?_record]
  by_cases itself : prototype.name = name
  · rw [if_pos itself, if_pos itself]
  · rw [if_neg itself, if_neg itself, before]

/-- Sessions that are alike know the same arities. -/
theorem Session.Alike.arity?_eq {session other : Session} (alike : session.Alike other) :
    session.arity? = other.arity? := by
  funext name
  unfold arity?
  rcases alike.find? name with ⟨absent, absentToo⟩ | ⟨known, knownToo, finds, findsToo, same⟩
  · rw [absent, absentToo]
  · rw [finds, findsToo, Option.map_some, Option.map_some, same.arity]

namespace Evaluator

open Reckon.Action

variable {session : Session} {evaluator : Evaluator}

/-- A name means to the judges of a definition what it means to the evaluator. -/
theorem meaning_of (session : Session) (evaluator : Evaluator) :
    (Surroundings.of session evaluator).meaning = meantArity? session evaluator := by
  funext name
  rw [Surroundings.meaning, opened_of]
  rfl

/-- Functions of the open unit that are recorded have their recorded arities. -/
theorem Open.consistent (opened : Open session evaluator) :
    (Surroundings.of session evaluator).Consistent := by
  intro name arity known found finds
  rw [opened_of] at found
  obtain ⟨function, there, rfl⟩ := Option.map_eq_some_iff.mp found
  obtain ⟨prototype, recorded, rfl⟩ := Option.map_eq_some_iff.mp finds
  exact opened.recorded name function prototype there recorded

/-- Recording a prototype changes the meaning of no name if its function stands in the open unit. -/
theorem meantArity?_record {prototype : Prototype} {there : Function}
    (found : evaluator.current.functions.get? prototype.name = some there) :
    meantArity? (session.record prototype) evaluator = meantArity? session evaluator := by
  funext name
  unfold meantArity? Session.arity?
  rw [Session.find?_record]
  by_cases itself : prototype.name = name
  · rw [← itself, found]
    rfl
  · rw [if_neg itself]

/-- Declaring makes no difference to what is found. -/
theorem Declares.definition?_eq {prototype : Prototype} {handle : Handle} {after : Evaluator}
    (declares : Declares session prototype evaluator handle after) :
    after.definition? = evaluator.definition? := by
  rw [declares.same]
  rfl

/-- In an empty unit names mean what is recorded. -/
theorem meantArity?_opened {number : Nat} (opened : evaluator.current = .opened number) :
    meantArity? session evaluator = session.arity? := by
  funext name
  rw [meantArity?, opened]
  rfl

end Evaluator

namespace Dialogue

open Reckon.Action Evaluator

/-! ## Between the steps of a dialogue -/

/-- The session and the evaluator are as they are between the steps of a dialogue. -/
structure Sound (session : Session) (evaluator : Evaluator) : Prop where
  keyed : session.Keyed
  distinct : session.Distinct
  settled : Settled session (fun _ _ => True) evaluator
  identified (name : String) (known : Prototype) (finds : session.find? name = some known) :
    isIdentifier name = true

/-- A definition has been accepted, with code. -/
structure Accepted (session : Session) (evaluator : Evaluator) (function : Definition)
    (handle : Handle) (compiled : Evaluator) (declared : Prototype) (code : Code) : Prop where
  done : define session function evaluator = .ok handle compiled
  defines : Defines session function evaluator handle compiled
  bears : compiled.current.Bears function.prototype.name declared function.body code
  arity : declared.arity = function.prototype.arity
  resolved : resolution ((Surroundings.of session evaluator).callable? function.prototype)
    function.prototype.parameters function.body = .ok code

/-- Compiling makes no difference to what is found among the live units. -/
theorem Accepted.definition?_eq {session : Session} {evaluator compiled : Evaluator}
    {function : Definition} {handle : Handle} {declared : Prototype} {code : Code}
    (accepted : Accepted session evaluator function handle compiled declared code) :
    compiled.definition? = evaluator.definition? := by
  rw [accepted.defines.same]
  rfl

/-- A definition has been refused. -/
structure Refused (session : Session) (evaluator : Evaluator) (function : Definition)
    (fault : Fault) (after : Evaluator) : Prop where
  failed : define session function evaluator = .error fault after
  compiles : fault.IsCompile
  leaves : Leaves session evaluator after
  refuses : Evaluator.Refuses session function evaluator after

namespace Sound

variable {session : Session} {evaluator after : Evaluator} {prototype : Prototype}
  {function : Definition} {handle : Handle}

/-- At the beginning of a dialogue all is as it is between steps. -/
theorem initial (operators : Operators) : Sound (newSession operators) .initial :=
  ⟨Session.keyed_fresh, nofun, .initial _ _, nofun⟩

/-- Recording an identifier that is accepted. -/
theorem identified_record (sound : Sound session evaluator)
    (identified : isIdentifier prototype.name = true) (name : String) (known : Prototype)
    (finds : (session.record prototype).find? name = some known) : isIdentifier name = true := by
  rw [Session.find?_record] at finds
  by_cases itself : prototype.name = name
  · exact itself ▸ identified
  · rw [if_neg itself] at finds
    exact sound.identified name known finds

/-- A declaration is accepted if its prototype has no violation, and else refused for the first
one. -/
theorem declare (sound : Sound session evaluator)
    (identified : isIdentifier prototype.name = true) :
    let first? := (prototype.violations (.of session evaluator)).head?
    (first? = none ∧ ∃ handle after,
      Evaluator.declare session prototype evaluator = .ok handle after ∧
      Declares session prototype evaluator handle after ∧
      Sound (session.record prototype) after) ∨
    ∃ violation, first? = some violation ∧
      Evaluator.declare session prototype evaluator = .error violation.fault evaluator := by
  have spec := declare_ensures session prototype evaluator
  have reports := declare_reports session prototype evaluator
  unfold Reports Ensures at *
  cases ended : Evaluator.declare session prototype evaluator with
  | ok handle after =>
    rw [ended] at spec reports
    obtain ⟨faultless, declares⟩ := reports
    refine .inl ⟨by rw [faultless]; rfl, handle, after, rfl, declares, ?_⟩
    exact ⟨sound.keyed.record prototype, sound.distinct.record spec.2.1,
      sound.settled.declared ended, sound.identified_record identified⟩
  | error fault after =>
    rw [ended] at reports
    obtain ⟨reported, rfl⟩ := reports
    obtain ⟨violation, first, rfl⟩ := Option.map_eq_some_iff.mp reported
    exact .inr ⟨violation, first, rfl⟩

/-- A definition is accepted if it has no violation, and else refused for the first one. -/
theorem define (sound : Sound session evaluator) (spelled : function.body.Spelled) :
    let first? := (function.violations (.of session evaluator)).head?
    (first? = none ∧ ∃ handle compiled declared code,
      Accepted session evaluator function handle compiled declared code) ∨
    ∃ fault after, first?.map Violation.fault = some fault ∧
      Refused session evaluator function fault after := by
  have ends := define_ensures sound.keyed sound.settled.opened sound.settled.earlier function
  have reports := define_reports sound.keyed sound.distinct spelled
    fun _ found => sound.settled.opened.body_eq_none found
  unfold Reports Ensures at *
  cases ended : Reckon.define session function evaluator with
  | ok handle compiled =>
    rw [ended] at ends reports
    obtain ⟨faultless, accepts⟩ := reports
    obtain ⟨declared, code, bears, arity, _⟩ := ends.bears
    obtain ⟨resolved, resolves, found⟩ := accepts.compiled
    rw [accepts.named, ← ends.number, function?_current, bears.found] at found
    cases found
    exact .inl ⟨by rw [faultless]; rfl, handle, compiled, _, code, ended, ends, bears, arity,
      resolves⟩
  | error fault after =>
    rw [ended] at ends reports
    exact .inr ⟨fault, after, reports.1, ended, ends.2 spelled, ends.1, reports.2⟩

/-- An accepted definition is handed off and recorded. -/
theorem closed (sound : Sound session evaluator) {declared : Prototype} {code : Code}
    (word : IsWord function.prototype.name)
    (identified : isIdentifier function.prototype.name = true) (spelled : function.body.Spelled)
    (accepted : Accepted session evaluator function handle after declared code) :
    Sound (session.record function.prototype) after.closed where
  keyed := sound.keyed.record _
  distinct := sound.distinct.record accepted.defines.accepted
  settled := sound.settled.defined_closed word spelled accepted.defines fun _ _ _ _ _ _ => trivial
  identified := sound.identified_record identified

/-- An accepted expression wraps its code. -/
theorem wraps (sound : Sound session evaluator) {body : Node} (spelled : body.Spelled)
    {declared : Prototype} {code : Code}
    (accepted : Accepted session evaluator (.anonymous body) handle after declared code) :
    Wraps session (fun _ _ => True) evaluator body handle after declared code := by
  obtain ⟨header, content, wraps⟩ := sound.settled.wraps spelled accepted.defines
  have found := wraps.bears.found.symm.trans accepted.bears.found
  cases found
  exact wraps

/-- A refused definition leaves what a dialogue can go on with. -/
theorem refused (sound : Sound session evaluator) {fault : Fault}
    (refused : Refused session evaluator function fault after) : Sound session after :=
  { sound with settled := sound.settled.leaves refused.leaves }

end Sound

/-! ## Dialogues that cannot be told apart -/

/-- Names mean the same in both dialogues and the same is found by them, and both have told the
same. -/
structure Indistinct (left right : Dialogue Evaluator) : Prop where
  platform : left.platform = right.platform
  arities : left.session.arity? = right.session.arity?
  meanings : meantArity? left.session left.backend = meantArity? right.session right.backend
  defined : left.backend.defined = right.backend.defined
  found : left.backend.definition? = right.backend.definition?
  results : left.results = right.results
  complaints : left.complaints.map Complaint.bare = right.complaints.map Complaint.bare

/-- Two dialogues that cannot be told apart, between their steps. -/
structure Together (left right : Dialogue Evaluator) : Prop where
  sound : Sound left.session left.backend
  soundToo : Sound right.session right.backend
  indistinct : left.Indistinct right

namespace Together

variable {left right : Dialogue Evaluator}

/-- A dialogue cannot be told apart from itself. -/
theorem refl {dialogue : Dialogue Evaluator} (sound : Sound dialogue.session dialogue.backend) :
    Together dialogue dialogue := ⟨sound, sound, ⟨rfl, rfl, rfl, rfl, rfl, rfl, rfl⟩⟩

/-- What has been written does not matter. -/
theorem withOutput (together : Together left right) (output outputToo : String) :
    Together { left with output } { right with output := outputToo } :=
  ⟨together.sound, together.soundToo, { together.indistinct with }⟩

variable {prototype : Prototype} {function : Definition}

/-- Prototypes and definitions are judged alike. -/
theorem meaning (together : Together left right) :
    (Surroundings.of left.session left.backend).meaning =
      (Surroundings.of right.session right.backend).meaning := by
  rw [meaning_of, meaning_of, together.indistinct.meanings]

/-- Dialogues that cannot be told apart find the same fault with a prototype first. -/
theorem head?_prototype (together : Together left right) (prototype : Prototype) :
    (prototype.violations (.of left.session left.backend)).head? =
      (prototype.violations (.of right.session right.backend)).head? :=
  together.sound.settled.opened.consistent.head?_prototype
    together.soundToo.settled.opened.consistent together.meaning prototype

/-- Dialogues that cannot be told apart find the same fault with a function first. -/
theorem head?_definition (together : Together left right) (function : Definition) :
    (function.violations (.of left.session left.backend)).head? =
      (function.violations (.of right.session right.backend)).head? :=
  together.sound.settled.opened.consistent.head?_definition
    together.soundToo.settled.opened.consistent together.meaning together.indistinct.defined
    function

/-- A declaration is taken in by both. -/
theorem takes_declaration (together : Together left right)
    (identified : isIdentifier prototype.name = true) :
    ∃ leftAfter rightAfter, Takes left (.declaration prototype) leftAfter ∧
      Takes right (.declaration prototype) rightAfter ∧ Together leftAfter rightAfter := by
  have indistinct := together.indistinct
  have heads := together.head?_prototype prototype
  rcases together.sound.declare identified with
    ⟨faultless, handle, after, declares, shape, sound⟩ | ⟨violation, first, refuses⟩
  · rcases together.soundToo.declare identified with
      ⟨_, handleToo, afterToo, declaresToo, shapeToo, soundToo⟩ | ⟨violation, first, _⟩
    · refine ⟨_, _, .declared declares, .declared declaresToo, sound, soundToo, ?_⟩
      obtain ⟨function, stands, _⟩ := shape.function
      obtain ⟨functionToo, standsToo, _⟩ := shapeToo.function
      exact {
        platform := indistinct.platform
        arities := Session.arity?_record_congr indistinct.arities prototype
        meanings := by
          rw [meantArity?_record stands, meantArity?_record standsToo, shape.meant,
            shapeToo.meant, Surroundings.callable?_congr together.meaning]
        defined := by rw [shape.same, shapeToo.same, indistinct.defined]
        found := by
          change after.definition? = afterToo.definition?
          rw [shape.definition?_eq, shapeToo.definition?_eq, indistinct.found]
        results := indistinct.results
        complaints := indistinct.complaints }
    · rw [heads, first] at faultless
      cases faultless
  · rcases together.soundToo.declare identified with
      ⟨faultless, _⟩ | ⟨violationToo, firstToo, refusesToo⟩
    · rw [heads, faultless] at first
      cases first
    · rw [heads, firstToo] at first
      cases first
      refine ⟨_, _, .declarationRefused refuses rfl, .declarationRefused refusesToo rfl,
        together.sound, together.soundToo, ?_⟩
      exact { indistinct with complaints := by simp [indistinct.complaints] }

/-- A definition is accepted by both with the same code, or refused by both for the same reason and
with the same names left over. -/
theorem define (together : Together left right) (spelled : function.body.Spelled) :
    (∃ handle compiled declared handleToo compiledToo declaredToo code,
      Accepted left.session left.backend function handle compiled declared code ∧
      Accepted right.session right.backend function handleToo compiledToo declaredToo code) ∨
    ∃ fault after afterToo, Refused left.session left.backend function fault after ∧
      Refused right.session right.backend function fault afterToo ∧
      meantArity? left.session after = meantArity? right.session afterToo := by
  have heads := together.head?_definition function
  have callable := Surroundings.callable?_congr together.meaning function.prototype
  rcases together.sound.define spelled with
    ⟨faultless, handle, compiled, declared, code, accepted⟩ | ⟨fault, after, reported, refused⟩
  · rcases together.soundToo.define spelled with
      ⟨_, handleToo, compiledToo, declaredToo, codeToo, acceptedToo⟩ | ⟨fault, after, reported, _⟩
    · have same := accepted.resolved
      rw [callable, acceptedToo.resolved] at same
      cases same
      exact .inl ⟨_, _, _, _, _, _, _, accepted, acceptedToo⟩
    · rw [← heads, faultless] at reported
      cases reported
  · rcases together.soundToo.define spelled with
      ⟨faultless, _⟩ | ⟨faultToo, afterToo, reportedToo, refusedToo⟩
    · rw [heads, faultless] at reported
      cases reported
    · rw [heads, reportedToo] at reported
      cases reported
      refine .inr ⟨fault, after, afterToo, refused, refusedToo, ?_⟩
      have formed : function.prototype.violations (.of left.session left.backend) = [] ↔
          function.prototype.violations (.of right.session right.backend) = [] := by
        rw [← List.head?_eq_none_iff, ← List.head?_eq_none_iff, together.head?_prototype]
      rw [refused.refuses, refusedToo.refuses, callable, together.indistinct.meanings]
      simp only [formed]

/-- What is refused by both is reported by both. -/
theorem refused (together : Together left right) {fault : Fault} {after afterToo : Evaluator}
    (refused : Refused left.session left.backend function fault after)
    (refusedToo : Refused right.session right.backend function fault afterToo)
    (meanings : meantArity? left.session after = meantArity? right.session afterToo) :
    ∃ complaint, fault.complaint? = some complaint ∧
      Together
        { left with backend := after, complaints := left.complaints ++ [complaint] }
        { right with backend := afterToo, complaints := right.complaints ++ [complaint] } := by
  have indistinct := together.indistinct
  obtain ⟨error, location, rfl⟩ := refused.compiles
  refine ⟨_, rfl, together.sound.refused refused, together.soundToo.refused refusedToo, ?_⟩
  exact {
    platform := indistinct.platform
    arities := indistinct.arities
    meanings
    defined := by rw [refused.leaves.same, refusedToo.leaves.same, indistinct.defined]
    found := by
      rw [refused.leaves.same, refusedToo.leaves.same]
      exact indistinct.found
    results := indistinct.results
    complaints := by simp [indistinct.complaints] }

/-- A definition is taken in by both. -/
theorem takes_definition (together : Together left right) (word : IsWord function.prototype.name)
    (identified : isIdentifier function.prototype.name = true) (spelled : function.body.Spelled) :
    ∃ leftAfter rightAfter, Takes left (.definition function) leftAfter ∧
      Takes right (.definition function) rightAfter ∧ Together leftAfter rightAfter := by
  have indistinct := together.indistinct
  rcases together.define spelled with
    ⟨handle, compiled, declared, handleToo, compiledToo, declaredToo, code, accepted,
      acceptedToo⟩ | ⟨fault, after, afterToo, refused, refusedToo, meanings⟩
  · refine ⟨_, _, .defined accepted.done (handOff_eq _), .defined acceptedToo.done (handOff_eq _),
      together.sound.closed word identified spelled accepted,
      together.soundToo.closed word identified spelled acceptedToo, ?_⟩
    have arities := Session.arity?_record_congr indistinct.arities function.prototype
    exact {
      platform := indistinct.platform
      arities
      meanings := by
        rw [meantArity?_opened rfl, meantArity?_opened rfl, arities]
      defined := by
        change compiled.defined = compiledToo.defined
        rw [accepted.defines.same, acceptedToo.defines.same, indistinct.defined]
      found := by
        funext name
        rw [definition?_closed accepted.bears, definition?_closed acceptedToo.bears,
          accepted.arity, acceptedToo.arity, accepted.definition?_eq, acceptedToo.definition?_eq,
          indistinct.found]
      results := indistinct.results
      complaints := indistinct.complaints }
  · obtain ⟨complaint, reported, after⟩ := together.refused refused refusedToo meanings
    exact ⟨_, _, .definitionRefused refused.failed reported,
      .definitionRefused refusedToo.failed reported, after⟩

/-- An expression is taken in by both. -/
theorem takes_expression (together : Together left right) {body : Node} (spelled : body.Spelled) :
    ∃ leftAfter rightAfter, Takes left (.expression (.anonymous body)) leftAfter ∧
      Takes right (.expression (.anonymous body)) rightAfter ∧
      Together leftAfter rightAfter := by
  have indistinct := together.indistinct
  have wrapped : (Definition.anonymous body).body.Spelled := spelled
  rcases together.define wrapped with
    ⟨handle, compiled, declared, handleToo, compiledToo, declaredToo, code, accepted,
      acceptedToo⟩ | ⟨fault, after, afterToo, refused, refusedToo, meanings⟩
  · have wraps := together.sound.wraps spelled accepted
    have wrapsToo := together.soundToo.wraps spelled acceptedToo
    obtain ⟨outcome, comes, _⟩ := wraps.execute_comes left.platform
    have comesToo := comes_congr wraps wrapsToo indistinct.found comes
    rw [indistinct.platform] at comesToo
    refine ⟨_, _, .told accepted.done (handOff_eq _) comes wraps.release_closed,
      .told acceptedToo.done (handOff_eq _) comesToo wrapsToo.release_closed, ?_, ?_, ?_⟩
    · rw [told_session, told_backend]
      exact { together.sound with settled := wraps.released }
    · rw [told_session, told_backend]
      exact { together.soundToo with settled := wrapsToo.released }
    · refine ⟨?_, ?_, ?_, ?_, ?_, ?_, ?_⟩
      · rw [told_platform, told_platform, indistinct.platform]
      · rw [told_session, told_session, indistinct.arities]
      · rw [told_session, told_session, told_backend, told_backend, meantArity?_opened rfl,
          meantArity?_opened rfl, indistinct.arities]
      · rw [told_backend, told_backend]
        exact indistinct.defined
      · rw [told_backend, told_backend]
        exact indistinct.found
      · cases outcome with
        | ok value => exact congrArg (· ++ [value]) indistinct.results
        | error error => exact indistinct.results
      · cases outcome with
        | ok value => exact indistinct.complaints
        | error error => simp [told, indistinct.complaints]
  · obtain ⟨complaint, reported, after⟩ := together.refused refused refusedToo meanings
    exact ⟨_, _, .expressionRefused refused.failed reported,
      .expressionRefused refusedToo.failed reported, after⟩

/-- What was read is attended to by both. -/
theorem attend (together : Together left right) {item : Item}
    (read : ∀ unit, item = .ok unit → unit.Spelled ∧ unit.Identified) :
    ∃ leftAfter rightAfter, Dialogue.attend item left = .ok () leftAfter ∧
      Dialogue.attend item right = .ok () rightAfter ∧ Together leftAfter rightAfter := by
  cases item with
  | error error =>
    obtain ⟨output, complained⟩ := ends_complain (.reading error) left
    obtain ⟨outputToo, complainedToo⟩ := ends_complain (.reading error) right
    refine ⟨_, _, complained, complainedToo, together.sound, together.soundToo, ?_⟩
    exact { together.indistinct with complaints := by simp [together.indistinct.complaints] }
  | ok unit =>
    obtain ⟨spelled, identified⟩ := read unit rfl
    obtain ⟨leftAfter, rightAfter, takes, takesToo, after⟩ : ∃ leftAfter rightAfter,
        Takes left unit leftAfter ∧ Takes right unit rightAfter ∧
        Together leftAfter rightAfter := by
      cases unit with
      | definition function =>
        exact together.takes_definition spelled.1 (identified _ List.mem_cons_self) spelled.2
      | declaration prototype => exact together.takes_declaration (identified _ List.mem_cons_self)
      | expression function =>
        obtain ⟨body, spelled, rfl⟩ := spelled
        exact together.takes_expression spelled
    obtain ⟨output, taken⟩ := takes.taken
    obtain ⟨outputToo, takenToo⟩ := takesToo.taken
    exact ⟨_, _, taken, takenToo, after.withOutput output outputToo⟩

/-- So is all that was read. -/
theorem attends (together : Together left right) {items : List Item}
    (read : ∀ unit, .ok unit ∈ items → unit.Spelled ∧ unit.Identified) :
    ∃ leftAfter rightAfter, forM items Dialogue.attend left = .ok () leftAfter ∧
      forM items Dialogue.attend right = .ok () rightAfter ∧ Together leftAfter rightAfter := by
  induction items generalizing left right with
  | nil => exact ⟨left, right, rfl, rfl, together⟩
  | cons item rest inductionHypothesis =>
    obtain ⟨middle, middleToo, first, firstToo, between⟩ :=
      together.attend fun unit same => read unit (same ▸ List.mem_cons_self)
    obtain ⟨after, afterToo, later, laterToo, last⟩ :=
      inductionHypothesis between fun unit member => read unit (List.mem_cons_of_mem _ member)
    refine ⟨after, afterToo, ?_, ?_, last⟩
    · rw [List.forM_cons, bind_ok first, later]
    · rw [List.forM_cons, bind_ok firstToo, laterToo]

/-- A declaration that is known with its number of parameters makes no difference. -/
theorem redeclares {dialogue : Dialogue Evaluator}
    (sound : Sound dialogue.session dialogue.backend) (distinct : prototype.parameters.Nodup)
    (recorded : dialogue.session.arity? prototype.name = some prototype.arity) :
    ∃ after, Dialogue.attend (.ok (.declaration prototype)) dialogue = .ok () after ∧
      Together after dialogue := by
  obtain ⟨known, finds, arity⟩ := Option.map_eq_some_iff.mp recorded
  have formed : prototype.WellFormed (.of dialogue.session dialogue.backend) := by
    refine ⟨distinct, ?_, fun given stands => ?_⟩
    · intro given found
      exact (Option.some.inj (recorded.symm.trans found)).symm
    · exact sound.settled.opened.consistent _ _ _ stands recorded
  have faultless := (prototype.wellFormed_iff _).mp formed
  rcases sound.declare (sound.identified _ _ finds) with
    ⟨_, handle, after, declares, shape, soundAfter⟩ | ⟨violation, first, _⟩
  · obtain ⟨output, taken⟩ := Takes.taken (.declared declares)
    refine ⟨_, taken, soundAfter, sound, ?_⟩
    obtain ⟨there, stands, _⟩ := shape.function
    have accepted : dialogue.session.prototypeFault? prototype = none := by
      refine (Session.prototypeFault?_eq_none_iff ..).mpr ⟨distinct, fun other found => ?_⟩
      rw [finds] at found
      cases found
      exact arity
    exact {
      platform := rfl
      arities := Session.arity?_record accepted finds
      meanings := by
        rw [meantArity?_record stands, shape.meant]
        funext name
        rw [callable?_of]
        by_cases itself : name = prototype.name
        · subst itself
          rw [if_pos rfl, ← meaning_of, Surroundings.meaning]
          cases stood : (Surroundings.of dialogue.session dialogue.backend).opened
              prototype.name with
          | none => exact recorded.symm
          | some given => rw [formed.opened given stood, Option.some_or]
        · rw [if_neg itself]
      defined := by
        change after.defined = _
        rw [shape.same]
      found := shape.definition?_eq
      results := rfl
      complaints := rfl }
  · rw [faultless] at first
    cases first

end Together

/-! ## Whole texts -/

/-- The items of a text are read, and made of words and identifiers. -/
theorem read_of_mem_items {operators : Operators} {cursor : Cursor} {unit : ProgramUnit}
    (member : .ok unit ∈ cursor.items operators) : unit.Spelled ∧ unit.Identified := by
  obtain ⟨_, _, reads⟩ := Cursor.reads_of_mem member
  exact ⟨Cursor.readUnit_spelled reads, Cursor.readUnit_identified reads⟩

/-- **Declaring a known function again is harmless.** If a name is recorded after a text with as
many parameters as a prototype of the name has, then the text, a declaration of the prototype and any
second text come to the same results and reports as the text and the second text alone: from every
table of operators that registration reaches, on every platform, and whatever is wrong with the
texts. -/
theorem redeclaration_is_harmless {operators : Operators} (registered : operators.Registered)
    (settings : Settings) (platform : Platform) (file : String) (first second : List Char)
    {prototype : Prototype} (distinct : prototype.parameters.Nodup)
    (identifiers : ∀ parameter ∈ prototype.parameters, isIdentifier parameter = true)
    {driven : Dialogue Evaluator}
    (drives : run (withEvaluator settings platform operators (.start file first)) = .ok () driven)
    (recorded : driven.session.arity? prototype.name = some prototype.arity) :
    let line := "extern ".toList ++ prototype.written.toList ++ ";\n".toList
    ∃ redeclared plain,
      run (withEvaluator settings platform operators
        (.start file (first ++ "\n;\n".toList ++ line ++ second))) = .ok () redeclared ∧
      run (withEvaluator settings platform operators
        (.start file (first ++ "\n;\n".toList ++ second))) = .ok () plain ∧
      redeclared.results = plain.results ∧
      redeclared.complaints.map Complaint.bare = plain.complaints.map Complaint.bare := by
  intro line
  let former := Cursor.start file first
  let latter := Cursor.start file second
  let start : Dialogue Evaluator := withEvaluator settings platform operators former
  have begun : Together start start := .refl (.initial operators)
  obtain ⟨middle, middleToo, attended, attendedToo, together⟩ :=
    begun.attends fun unit member => read_of_mem_items member
  rw [attended] at attendedToo
  cases attendedToo
  -- What is recorded in the middle is what was recorded after the first text.
  have arities : middle.session.arity? = driven.session.arity? := by
    obtain ⟨after, _, ran, follows⟩ :=
      run_of_attends (Cursor.items_congr registered rfl) attended
    rw [drives] at ran
    cases ran
    exact follows.session.arity?_eq.symm
  obtain ⟨known, finds, _⟩ := Option.map_eq_some_iff.mp (arities ▸ recorded)
  have identified : prototype.Identified :=
    List.forall_mem_cons.mpr ⟨together.sound.identified _ _ finds, identifiers⟩
  obtain ⟨redeclared, taken, afterwards⟩ :=
    @Together.redeclares { prototype with location := none } _ together.sound distinct
      (arities ▸ recorded)
  obtain ⟨last, lastToo, rest, restToo, ends⟩ :=
    afterwards.attends fun unit member => @read_of_mem_items operators latter unit member
  have whole : forM (former.items operators ++
      .ok (.declaration { prototype with location := none }) :: latter.items operators) attend
      start = .ok () last := by
    rw [List.forM_append, bind_ok attended, List.forM_cons, bind_ok taken, rest]
  have wholeToo : forM (former.items operators ++ latter.items operators) attend start =
      .ok () lastToo := by
    rw [List.forM_append, bind_ok attended, restToo]
  have reads := Cursor.items_declared registered file file file first second identified
  have readsToo := @Cursor.items_separated operators registered
    (.start file (first ++ "\n;\n".toList ++ second)) former latter
    (Cursor.lexemes_start_append file file file first second)
  obtain ⟨after, _, done, follows⟩ := run_of_attends reads whole
  obtain ⟨afterToo, _, doneToo, followsToo⟩ := run_of_attends readsToo wholeToo
  refine ⟨after, afterToo, ?_, doneToo, ?_, ?_⟩
  · simpa [line] using done
  · have same := ends.indistinct.results
    rw [follows.results, followsToo.results] at same
    exact same
  · have same := ends.indistinct.complaints
    rw [follows.complaints, followsToo.complaints] at same
    exact same

/-- A function is defined after it was declared again under another name for its parameter. -/
theorem redeclaration_is_harmless_defined :
    let first := "extern f(x)".toList
    let second := "def f(z) z*2; def f(z) z; f(3); f(1, 2)".toList
    ∃ redeclared,
      run (withEvaluator .quiet .doubles .standard (.start "" (first ++ "\n;\n".toList ++
        "extern f(y);\n".toList ++ second))) = .ok () redeclared ∧
      redeclared.results.length = 1 ∧
      redeclared.complaints.map Complaint.bare =
        [(.compiling, "C005", "Function 'f' cannot be redefined"),
          (.compiling, "C003",
            "Incorrect number of arguments passed to 'f': expected 1, got 2")] := by
  intro first second
  have registered : Operators.standard.Registered := .standard
  let prototype : Prototype := ⟨"f", ["y"], none⟩
  obtain ⟨driven, drives, recorded⟩ : ∃ driven,
      run (withEvaluator .quiet .doubles .standard (.start "" first)) = .ok () driven ∧
      driven.session.arity? "f" = some 1 :=
    exists_end (by decide +kernel)
  obtain ⟨redeclared, plain, done, donePlain, results, complaints⟩ :=
    @redeclaration_is_harmless _ registered .quiet .doubles "" first second prototype (by decide)
      (by decide) _ drives recorded
  obtain ⟨other, ended, count, reports⟩ : ∃ other,
      run (withEvaluator .quiet .doubles .standard (.start "" (first ++ "\n;\n".toList ++
        second))) = .ok () other ∧ other.results.length = 1 ∧
      other.complaints.map Complaint.bare =
        [(.compiling, "C005", "Function 'f' cannot be redefined"),
          (.compiling, "C003",
            "Incorrect number of arguments passed to 'f': expected 1, got 2")] :=
    exists_end (by decide +kernel)
  rw [donePlain] at ended
  cases ended
  have written : "extern ".toList ++ prototype.written.toList ++ ";\n".toList =
      "extern f(y);\n".toList := by decide
  rw [written] at done
  exact ⟨redeclared, done, results ▸ count, complaints.trans reports⟩

end Dialogue

end Reckon
