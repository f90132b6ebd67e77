import Mathlib.Logic.Function.Basic
import Reckon.Proofs.Dialogue.Barrier
import Reckon.Proofs.Evaluator.Expressions
import Reckon.Proofs.Evaluator.Verdicts
import Reckon.Proofs.Pairing.Runs
import Reckon.Proofs.Reading.RoundTrip

/-!
# Definitions in any order

Once every function is declared, the order in which definitions are given does not matter.
Each of them is judged by the declared arities and accepted or refused for the same reason
wherever it stands, and the definitions that are accepted are found by their names, so
expressions that follow come to the same.
-/

namespace Reckon

/-! ## What was read -/

/-- A tree like one of words is one of words. -/
theorem Node.Alike.spelled {left right : Node} (alike : left.Alike right) (spelled : left.Spelled) :
    right.Spelled := by
  induction alike with
  | number value location other => exact .number value other
  | reference name location other => exact .reference name other
  | binary operator location other _ _ inLeft inRight =>
    cases spelled with
    | binary _ _ spelledLeft spelledRight =>
      exact .binary operator other (inLeft spelledLeft) (inRight spelledRight)
  | @call callee arguments argumentsToo location other length _ inArguments =>
    cases spelled with
    | call _ word each =>
      refine .call other word fun argument member => ?_
      obtain ⟨position, below, rfl⟩ := List.getElem_of_mem member
      have belowToo : position < arguments.length := length ▸ below
      have together : position < (arguments.zip argumentsToo).length := by
        rw [List.length_zip]
        omega
      have paired := inArguments _ (List.getElem_mem together)
      rw [List.getElem_zip] at paired
      exact paired (each _ (List.getElem_mem belowToo))

/-- A unit whose trees are made of words, under words. -/
def ProgramUnit.OfWords : ProgramUnit → Prop
  | .definition function => IsWord function.prototype.name ∧ function.body.Spelled
  | .declaration prototype => IsWord prototype.name
  | .expression function => function.body.Spelled

/-- What is like a spelled unit is made of words. -/
theorem ProgramUnit.Alike.ofWords {left right : ProgramUnit} (alike : left.Alike right)
    (spelled : left.Spelled) : right.OfWords := by
  cases alike with
  | definition alike =>
    obtain ⟨word, spelled⟩ := spelled
    exact ⟨alike.prototype.name ▸ word, alike.body.spelled spelled⟩
  | @declaration prototype _ alike =>
    have word : IsWord prototype.name := spelled
    exact (alike.name ▸ word : IsWord _)
  | expression alike =>
    obtain ⟨body, spelled, rfl⟩ := spelled
    exact alike.body.spelled spelled

/-- The units of a text are read somewhere in it. -/
theorem Cursor.reads_of_mem {operators : Operators} {limit : Nat} {cursor : Cursor}
    {unit : ProgramUnit} (member : .ok unit ∈ cursor.itemsWithin operators limit) :
    ∃ before after : Cursor, before.readUnit operators = .parsed unit after := by
  induction limit generalizing cursor with
  | zero => cases member
  | succ limit inductionHypothesis =>
    rw [itemsWithin] at member
    split at member
    · cases member
    · split at member
      · exact inductionHypothesis member
      · rcases List.mem_cons.mp member with first | later
        · cases reads : cursor.readUnit operators with
          | failed error stopped =>
            rw [reads] at first
            cases first
          | parsed read after =>
            rw [reads] at first
            cases first
            exact ⟨cursor, after, reads⟩
        · exact inductionHypothesis later

/-- Units like those that are read are made of words. -/
theorem Item.AllAlike.ofWords {operators : Operators} {cursor : Cursor} {units : List ProgramUnit}
    (alike : Item.AllAlike (cursor.items operators) (units.map .ok)) :
    ∀ unit ∈ units, unit.OfWords := by
  have spelled : ∀ unit, .ok unit ∈ cursor.items operators → unit.Spelled := by
    intro unit member
    obtain ⟨_, _, reads⟩ := Cursor.reads_of_mem member
    exact Cursor.readUnit_spelled reads
  generalize cursor.items operators = items at alike spelled
  induction units generalizing items with
  | nil => nofun
  | cons unit rest inductionHypothesis =>
    obtain ⟨item, others, first, later, rfl⟩ := List.forall₂_cons_right_iff.mp alike
    refine List.forall_mem_cons.mpr ⟨?_, inductionHypothesis others later fun unit member =>
      spelled unit (List.mem_cons_of_mem _ member)⟩
    cases first with
    | unit alike => exact alike.ofWords (spelled _ List.mem_cons_self)

/-! ## Dialogues with nothing left over -/

namespace Dialogue

open Reckon.Action Evaluator

/-- What is found by names. -/
abbrev Definitions := String → Option (Nat × Code)

/-- Nothing is left over in the evaluator, the arities of the known session are recorded, and calls
find the definitions. -/
structure Arranged (known : Session) (definitions : Definitions) (session : Session)
    (evaluator : Evaluator) : Prop where
  keyed : session.Keyed
  distinct : session.Distinct
  settled : Settled session (fun _ _ => False) evaluator
  tidy : Tidy session evaluator
  arities : session.arity? = known.arity?
  live : evaluator.definition? = definitions

/-- At the beginning nothing is left over and nothing is found. -/
theorem arranged_initial (operators : Operators) :
    Arranged (newSession operators) (fun _ => none) (newSession operators) .initial where
  keyed := Session.keyed_fresh
  distinct := nofun
  settled := .initial _ _
  tidy := tidy_opened (show Evaluator.initial.current = .opened 1 from rfl)
  arities := rfl
  live := rfl

namespace Arranged

variable {known session : Session} {definitions : Definitions} {evaluator : Evaluator}

/-- What is found by a name is what counts as defined. -/
theorem mem_defined_iff (arranged : Arranged known definitions session evaluator) (name : String) :
    name ∈ evaluator.defined ↔ ∃ found, definitions name = some found := by
  rw [arranged.settled.defined, ← arranged.live]
  constructor
  · rintro ⟨unit, member, there⟩
    obtain ⟨other, prototype, body, code, honours⟩ := arranged.settled.live unit member
    rw [honours.bears.defined, List.mem_singleton] at there
    refine ⟨(prototype.arity, code), arranged.settled.definition?_eq_some_iff.mpr ?_⟩
    exact ⟨unit, member, prototype, body, there ▸ honours.bears, rfl⟩
  · rintro ⟨⟨arity, code⟩, found⟩
    obtain ⟨unit, member, prototype, body, bears, _⟩ :=
      arranged.settled.definition?_eq_some_iff.mp found
    exact ⟨unit, member, by simp [bears.defined]⟩

/-- A new declaration is accepted. -/
theorem declare_new (arranged : Arranged known definitions session evaluator)
    {prototype : Prototype} (word : IsWord prototype.name) (distinct : prototype.parameters.Nodup)
    (new : session.find? prototype.name = none) :
    ∃ handle after, declare session prototype evaluator = .ok handle after ∧
      Arranged (session.record prototype) definitions (session.record prototype) after := by
  have accepted : session.prototypeFault? prototype = none := by
    refine (Session.prototypeFault?_eq_none_iff ..).mpr ⟨distinct, ?_⟩
    intro known found
    rw [new] at found
    cases found
  have absent : evaluator.current.functions.get? prototype.name = none := by
    cases there : evaluator.current.functions.get? prototype.name with
    | none => rfl
    | some function =>
      rcases arranged.tidy _ function there with ⟨known, found⟩ | ⟨reserved, _⟩
      · rw [new] at found
        cases found
      · exact (word.ne_anonymousName reserved).elim
  have declares := declare_absent accepted absent
  refine ⟨_, _, declares, arranged.keyed.record prototype, arranged.distinct.record accepted,
    arranged.settled.declared declares, ?_, rfl, arranged.live⟩
  intro name function found
  rw [Catalog.get?_put] at found
  by_cases itself : prototype.name = name
  · exact .inl ⟨prototype, itself ▸ Session.find?_record_self session prototype⟩
  · rw [if_neg itself] at found
    refine (arranged.tidy name function found).imp ?_ id
    rintro ⟨recorded, finds⟩
    exact ⟨recorded, by rw [Session.find?_record, if_neg itself, finds]⟩

/-- A familiar definition is judged: it is compiled to the code of the verdict, or refused for its
reason with nothing left over. -/
theorem define_judged (arranged : Arranged known definitions session evaluator)
    {function : Definition} (spelled : function.body.Spelled)
    (familiar : Familiar session function.prototype.name function.prototype.arity)
    (new : function.prototype.name ∈ evaluator.defined →
      function.prototype.name = anonymousName) :
    (∃ handle compiled declared code, verdict known function = .ok code ∧
      define session function evaluator = .ok handle compiled ∧
      Defines session function evaluator handle compiled ∧
      compiled.current.Bears function.prototype.name declared function.body code ∧
      declared.arity = function.prototype.arity) ∨
    ∃ fault after, verdict known function = .error fault ∧ fault.IsCompile ∧
      define session function evaluator = .error fault after ∧
      Arranged known definitions session after := by
  have settled := arranged.settled
  have ends := define_ensures arranged.keyed settled.opened settled.earlier function
  have judged := Evaluator.define_judged arranged.keyed arranged.distinct settled.opened
    arranged.tidy spelled familiar new
  rw [verdict_congr arranged.arities] at judged
  unfold Ensures at ends judged
  cases ended : define session function evaluator with
  | ok handle compiled =>
    rw [ended] at ends judged
    obtain ⟨_, code, decided, found⟩ := judged
    obtain ⟨declared, _, bears, arity, _⟩ := ends.bears
    rw [bears.found] at found
    cases found
    exact .inl ⟨handle, compiled, _, code, decided, rfl, ends, bears, arity⟩
  | error fault after =>
    rw [ended] at ends judged
    obtain ⟨leaves, compiles⟩ := ends
    obtain ⟨decided, tidy⟩ := judged
    have live : after.definition? = definitions := by
      rw [← arranged.live, leaves.same]
      rfl
    exact .inr ⟨fault, after, decided, compiles spelled, rfl,
      { arranged with settled := settled.leaves leaves, tidy, live }⟩

/-- A name with a known arity is recorded. -/
theorem recorded (arranged : Arranged known definitions session evaluator) {name : String}
    (declared : known.arity? name ≠ none) : ∃ recorded, session.find? name = some recorded := by
  rw [← arranged.arities, Session.arity?, Ne, Option.map_eq_none_iff] at declared
  exact Option.ne_none_iff_exists'.mp declared

/-- A name that calls do not find is not defined. -/
theorem not_mem_defined (arranged : Arranged known definitions session evaluator) {name : String}
    (new : definitions name = none) : name ∉ evaluator.defined := by
  rw [arranged.mem_defined_iff, new]
  nofun

/-- Definitions are refused for faults of compiling. -/
theorem isCompile_of_refused (arranged : Arranged known definitions session evaluator)
    {function : Definition} (spelled : function.body.Spelled)
    (declared : known.arity? function.prototype.name ≠ none)
    (new : definitions function.prototype.name = none) {fault : Fault}
    (decided : verdict known function = .error fault) : fault.IsCompile := by
  rcases arranged.define_judged spelled (.inl (arranged.recorded declared))
      (fun member => (arranged.not_mem_defined new member).elim) with
    ⟨_, _, _, _, other, _⟩ | ⟨_, _, same, compiles, _⟩
  · rw [decided] at other
    cases other
  · rw [decided] at same
    cases same
    exact compiles

/-- A definition of a declared function that is accepted is found from then on. -/
theorem adopts (arranged : Arranged known definitions session evaluator) {function : Definition}
    (word : IsWord function.prototype.name) (spelled : function.body.Spelled)
    {recorded declared : Prototype} (found : session.find? function.prototype.name = some recorded)
    {handle : Handle} {compiled : Evaluator} {code : Code}
    (defines : Defines session function evaluator handle compiled)
    (bears : compiled.current.Bears function.prototype.name declared function.body code)
    (arity : declared.arity = function.prototype.arity) :
    Arranged known
      (Function.update definitions function.prototype.name
        (some (function.prototype.arity, code)))
      (session.record function.prototype) compiled.closed where
  keyed := arranged.keyed.record _
  distinct := arranged.distinct.record defines.accepted
  settled := by
    apply arranged.settled.defined_closed word spelled defines
    intro callee function called unrecorded _ there
    rcases arranged.tidy callee function there with ⟨known, found⟩ | ⟨reserved, _⟩
    · rw [unrecorded] at found
      cases found
    · exact called.ne_anonymousName reserved
  tidy := tidy_opened rfl
  arities := (Session.arity?_record defines.accepted found).trans arranged.arities
  live := by
    have before : compiled.definition? = definitions := by
      rw [← arranged.live, defines.same]
      rfl
    funext name
    rw [definition?_closed bears, before, arity, Function.update_apply]

end Arranged

/-! ## Judging definitions -/

/-- What is told about an error: its kind, code and message. -/
abbrev Report := Complaint.Kind × String × String

/-- What is found by names once a definition has been judged. -/
def adopt (known : Session) (definitions : Definitions) (function : Definition) : Definitions :=
  match verdict known function with
  | .ok code =>
    Function.update definitions function.prototype.name (some (function.prototype.arity, code))
  | .error _ => definitions

/-- Other names are found as before. -/
theorem adopt_of_ne (known : Session) (definitions : Definitions) {function : Definition}
    {name : String} (differs : name ≠ function.prototype.name) :
    adopt known definitions function name = definitions name := by
  unfold adopt
  cases verdict known function with
  | ok code => exact Function.update_of_ne differs _ _
  | error fault => rfl

/-- Why a definition is refused, if it is. -/
def refusal (known : Session) (function : Definition) : Option Report :=
  match verdict known function with
  | .ok _ => none
  | .error fault => fault.complaint?.map Complaint.bare

/-- A dialogue has come to another in which nothing is left over, and has told the results and the
reports. -/
structure Advances (known : Session) (definitions : Definitions) (results : List Float)
    (reports : List Report) (before after : Dialogue Evaluator) : Prop where
  arranged : Arranged known definitions after.session after.backend
  platform : after.platform = before.platform
  results : after.results = before.results ++ results
  complaints : after.complaints.map Complaint.bare =
    before.complaints.map Complaint.bare ++ reports

namespace Advances

variable {known : Session} {definitions : Definitions} {before after : Dialogue Evaluator}

/-- A dialogue that stays where it is has told nothing. -/
theorem refl (arranged : Arranged known definitions before.session before.backend) :
    Advances known definitions [] [] before before :=
  ⟨arranged, rfl, (List.append_nil _).symm, (List.append_nil _).symm⟩

/-- What is told on the way and what is told later are told one after the other. -/
theorem trans {former : Session} {older : Definitions} {results resultsToo : List Float}
    {reports reportsToo : List Report} {last : Dialogue Evaluator}
    (start : Advances former older results reports before after)
    (rest : Advances known definitions resultsToo reportsToo after last) :
    Advances known definitions (results ++ resultsToo) (reports ++ reportsToo) before last where
  arranged := rest.arranged
  platform := rest.platform.trans start.platform
  results := by rw [rest.results, start.results, List.append_assoc]
  complaints := by rw [rest.complaints, start.complaints, List.append_assoc]

/-- What has been written does not matter. -/
theorem withOutput {results : List Float} {reports : List Report}
    (advances : Advances known definitions results reports before after) (output : String) :
    Advances known definitions results reports before { after with output } :=
  ⟨advances.arranged, advances.platform, advances.results, advances.complaints⟩

end Advances

/-- A turn is taken up to what is written. -/
theorem Takes.taken {before after : Dialogue Evaluator} {unit : ProgramUnit}
    (takes : Takes before unit after) :
    ∃ output, take unit before = .ok () { after with output } :=
  takes.ends before.output

section

variable {known : Session} {definitions : Definitions} {dialogue : Dialogue Evaluator}

/-- A new declaration is taken in. -/
theorem take_declaration (arranged : Arranged known definitions dialogue.session dialogue.backend)
    {prototype : Prototype} (word : IsWord prototype.name) (distinct : prototype.parameters.Nodup)
    (new : dialogue.session.find? prototype.name = none) :
    ∃ after, take (.declaration prototype) dialogue = .ok () after ∧
      after.session = dialogue.session.record prototype ∧
      Advances (dialogue.session.record prototype) definitions [] [] dialogue after := by
  obtain ⟨handle, backend, declares, arranged⟩ := arranged.declare_new word distinct new
  obtain ⟨output, taken⟩ := Takes.taken (.declared declares)
  refine ⟨_, taken, rfl, arranged, rfl, ?_, ?_⟩
  · exact (List.append_nil _).symm
  · exact (List.append_nil _).symm

/-- A definition of a declared function is taken in as the verdict says. -/
theorem take_definition (arranged : Arranged known definitions dialogue.session dialogue.backend)
    {function : Definition} (word : IsWord function.prototype.name)
    (spelled : function.body.Spelled) (declared : known.arity? function.prototype.name ≠ none)
    (new : definitions function.prototype.name = none) :
    ∃ after, take (.definition function) dialogue = .ok () after ∧
      Advances known (adopt known definitions function) [] (refusal known function).toList
        dialogue after := by
  obtain ⟨recorded, found⟩ := arranged.recorded declared
  unfold adopt refusal
  rcases arranged.define_judged spelled (.inl ⟨recorded, found⟩)
      (fun member => (arranged.not_mem_defined new member).elim) with
    ⟨handle, compiled, header, code, decided, done, defines, bears, arity⟩ |
    ⟨fault, backend, decided, compiles, failed, arranged⟩
  · obtain ⟨output, taken⟩ := Takes.taken (.defined done (handOff_eq compiled))
    rw [decided]
    refine ⟨_, taken, arranged.adopts word spelled found defines bears arity, rfl, ?_, ?_⟩
    · exact (List.append_nil _).symm
    · exact (List.append_nil _).symm
  · obtain ⟨error, location, rfl⟩ := compiles
    obtain ⟨output, taken⟩ := Takes.taken (.definitionRefused failed rfl)
    rw [decided]
    refine ⟨_, taken, arranged, rfl, (List.append_nil _).symm, ?_⟩
    simp [Fault.complaint?]

/-- New declarations are taken in. -/
theorem take_declarations {prototypes : List Prototype}
    (arranged : Arranged dialogue.session definitions dialogue.session dialogue.backend)
    (words : ∀ prototype ∈ prototypes, IsWord prototype.name)
    (distinct : ∀ prototype ∈ prototypes, prototype.parameters.Nodup)
    (once : (prototypes.map (·.name)).Nodup)
    (new : ∀ prototype ∈ prototypes, dialogue.session.find? prototype.name = none) :
    ∃ after, forM (prototypes.map .declaration) take dialogue = .ok () after ∧
      Advances (prototypes.foldl Session.record dialogue.session) definitions [] []
        dialogue after := by
  induction prototypes generalizing dialogue with
  | nil => exact ⟨dialogue, rfl, .refl arranged⟩
  | cons prototype rest inductionHypothesis =>
    obtain ⟨word, words⟩ := List.forall_mem_cons.mp words
    obtain ⟨itself, distinct⟩ := List.forall_mem_cons.mp distinct
    obtain ⟨unknown, new⟩ := List.forall_mem_cons.mp new
    obtain ⟨apart, once⟩ := List.nodup_cons.mp once
    obtain ⟨middle, taken, session, advances⟩ := take_declaration arranged word itself unknown
    have newThere : ∀ other ∈ rest, middle.session.find? other.name = none := by
      intro other member
      rw [session, Session.find?_record, if_neg, new other member]
      exact fun same => apart (List.mem_map.mpr ⟨other, member, same.symm⟩)
    obtain ⟨after, takenAll, advancesOn⟩ :=
      inductionHypothesis (session.symm ▸ advances.arranged) words distinct once newThere
    refine ⟨after, ?_, ?_⟩
    · rw [List.map_cons, List.forM_cons, bind_ok taken, takenAll]
    · rw [session] at advancesOn
      exact advances.trans advancesOn

/-- Definitions of declared functions are taken in, each as its verdict says. -/
theorem take_definitions {functions : List Definition}
    (arranged : Arranged known definitions dialogue.session dialogue.backend)
    (words : ∀ function ∈ functions, IsWord function.prototype.name ∧ function.body.Spelled)
    (declared : ∀ function ∈ functions, known.arity? function.prototype.name ≠ none)
    (once : (functions.map (·.prototype.name)).Nodup)
    (new : ∀ function ∈ functions, definitions function.prototype.name = none) :
    ∃ after, forM (functions.map .definition) take dialogue = .ok () after ∧
      Advances known (functions.foldl (adopt known) definitions) []
        (functions.filterMap (refusal known)) dialogue after := by
  induction functions generalizing dialogue definitions with
  | nil => exact ⟨dialogue, rfl, .refl arranged⟩
  | cons function rest inductionHypothesis =>
    obtain ⟨⟨word, spelled⟩, words⟩ := List.forall_mem_cons.mp words
    obtain ⟨recorded, declared⟩ := List.forall_mem_cons.mp declared
    obtain ⟨unfound, new⟩ := List.forall_mem_cons.mp new
    obtain ⟨apart, once⟩ := List.nodup_cons.mp once
    obtain ⟨middle, taken, advances⟩ := take_definition arranged word spelled recorded unfound
    have newThere : ∀ other ∈ rest,
        adopt known definitions function other.prototype.name = none := by
      intro other member
      rw [adopt_of_ne known definitions, new other member]
      exact fun same => apart (List.mem_map.mpr ⟨other, member, same⟩)
    obtain ⟨after, takenAll, advancesOn⟩ :=
      inductionHypothesis advances.arranged words declared once newThere
    refine ⟨after, ?_, ?_⟩
    · rw [List.map_cons, List.forM_cons, bind_ok taken, takenAll]
    · have whole : (function :: rest).filterMap (refusal known) =
          (refusal known function).toList ++ rest.filterMap (refusal known) := by
        rw [List.filterMap_cons]
        cases refusal known function <;> rfl
      rw [whole]
      exact advances.trans advancesOn

end

/-! ## The order does not matter -/

/-- Definitions of different names may be judged in either order. -/
theorem adopt_comm (known : Session) (definitions : Definitions) {function other : Definition}
    (differs : function.prototype.name ≠ other.prototype.name) :
    adopt known (adopt known definitions function) other =
      adopt known (adopt known definitions other) function := by
  unfold adopt
  cases verdict known function with
  | error fault => rfl
  | ok code =>
    cases verdict known other with
    | error fault => rfl
    | ok codeToo => exact Function.update_comm differs _ _ _

/-- Whatever the order of the definitions, the same is found in the end. -/
theorem foldl_adopt_perm (known : Session) {functions order : List Definition}
    (permuted : order.Perm functions) (once : (functions.map (·.prototype.name)).Nodup)
    (definitions : Definitions) :
    order.foldl (adopt known) definitions = functions.foldl (adopt known) definitions := by
  apply permuted.foldl_eq'
  intro function member other memberToo definitions
  by_cases same : function.prototype.name = other.prototype.name
  · rw [List.inj_on_of_nodup_map once (permuted.mem_iff.mp member) (permuted.mem_iff.mp memberToo)
      same]
  · exact adopt_comm known definitions same

/-- What is found in the end was found before, or is a definition that is not refused. -/
theorem foldl_adopt_eq_some_iff (known : Session) (functions : List Definition)
    (compiles : ∀ function ∈ functions, ∀ fault, verdict known function = .error fault →
      fault.IsCompile) (definitions : Definitions) (name : String) :
    (∃ found, functions.foldl (adopt known) definitions name = some found) ↔
      (∃ found, definitions name = some found) ∨
        ∃ function ∈ functions, function.prototype.name = name ∧
          refusal known function = none := by
  induction functions generalizing definitions with
  | nil => simp
  | cons function rest inductionHypothesis =>
    obtain ⟨itself, others⟩ := List.forall_mem_cons.mp compiles
    rw [List.foldl_cons, inductionHypothesis others, List.exists_mem_cons_iff, ← or_assoc]
    refine or_congr_left ?_
    unfold adopt refusal
    cases decided : verdict known function with
    | error fault =>
      obtain ⟨error, location, rfl⟩ := itself fault decided
      simp [Fault.complaint?]
    | ok code =>
      dsimp only
      rw [Function.update_apply]
      by_cases same : name = function.prototype.name
      · simp [same]
      · simp [same, Ne.symm same]

/-! ## Expressions -/

/-- What is told of an expression: its value, or a report. -/
abbrev Answer := Except Report Float

/-- The value of an answer. -/
def Answer.result? : Answer → Option Float
  | .ok value => some value
  | .error _ => none

/-- The report in an answer. -/
def Answer.report? : Answer → Option Report
  | .ok _ => none
  | .error report => some report

/-- A dialogue goes on to another with an answer. -/
abbrev Answers (known : Session) (definitions : Definitions) (answers : List Answer)
    (before after : Dialogue Evaluator) : Prop :=
  Advances known definitions (answers.filterMap Answer.result?) (answers.filterMap Answer.report?)
    before after

section

variable {known : Session} {definitions : Definitions}

/-- Wrapped code ends in the same way wherever calls find the same. -/
theorem comes_congr {session sessionToo : Session} {excused excusedToo : String → String → Prop}
    {evaluator evaluatorToo compiled compiledToo : Evaluator} {body : Node}
    {handle handleToo : Handle} {declared declaredToo : Prototype} {code : Code}
    (wraps : Wraps session excused evaluator body handle compiled declared code)
    (wrapsToo : Wraps sessionToo excusedToo evaluatorToo body handleToo compiledToo declaredToo
      code)
    (same : evaluator.definition? = evaluatorToo.definition?) {platform : Platform}
    {outcome : Except RunError Float}
    (comes : Comes (execute platform handle []) compiled.closed outcome compiled.closed) :
    Comes (execute platform handleToo []) compiledToo.closed outcome compiledToo.closed := by
  have found : compiled.closed.definition? = compiledToo.closed.definition? := by
    funext name
    by_cases reserved : name = anonymousName
    · rw [reserved, wraps.definition?_anonymous, wrapsToo.definition?_anonymous]
    · rw [wraps.definition?_other reserved, wrapsToo.definition?_other reserved, same]
  have symbol : handle.symbol = handleToo.symbol := by
    rw [wraps.defines.handle, wrapsToo.defines.handle]
  unfold Comes at comes ⊢
  rw [wraps.execute_closed, call_congr found] at comes
  rw [wrapsToo.execute_closed, ← symbol]
  cases ran : code.run platform (argument []) (call platform compiledToo.closed platform.depth) with
  | ok value =>
    rw [ran] at comes
    cases outcome <;> cases comes
    rfl
  | error fault =>
    rw [ran] at comes
    cases fault <;> cases outcome <;> cases comes <;> rfl

/-- A bare expression with a verdict of code is wrapped with this code. -/
theorem Arranged.wraps {session : Session} {evaluator : Evaluator}
    (arranged : Arranged known definitions session evaluator) {body : Node}
    (spelled : body.Spelled) {code : Code} (decided : verdict known (.anonymous body) = .ok code) :
    ∃ handle compiled declared, define session (.anonymous body) evaluator = .ok handle compiled ∧
      Wraps session (fun _ _ => False) evaluator body handle compiled declared code := by
  have wrapped : (Definition.anonymous body).body.Spelled := spelled
  rcases arranged.define_judged wrapped (.inr ⟨rfl, rfl⟩) (fun _ => rfl) with
    ⟨handle, compiled, declared, _, same, done, defines, bears, _⟩ | ⟨_, _, other, _⟩
  · rw [decided] at same
    cases same
    obtain ⟨header, _, wraps⟩ := arranged.settled.wraps spelled defines
    have found := wraps.bears.found.symm.trans bears.found
    cases found
    exact ⟨handle, compiled, _, done, wraps⟩
  · rw [decided] at other
    cases other

/-- A bare expression that is wrapped is answered by what its code comes to. -/
theorem take_wrapped {dialogue : Dialogue Evaluator}
    (arranged : Arranged known definitions dialogue.session dialogue.backend) {body : Node}
    {handle : Handle} {compiled : Evaluator} {declared : Prototype} {code : Code}
    (done : define dialogue.session (.anonymous body) dialogue.backend = .ok handle compiled)
    (wraps : Wraps dialogue.session (fun _ _ => False) dialogue.backend body handle compiled
      declared code) {outcome : Except RunError Float}
    (comes : Comes (execute dialogue.platform handle []) compiled.closed outcome
      compiled.closed) :
    ∃ after, take (.expression (.anonymous body)) dialogue = .ok () after ∧
      Answers known definitions [outcome.mapError fun error => (Complaint.running error).bare]
        dialogue after := by
  obtain ⟨output, taken⟩ :=
    Takes.taken (.told done (handOff_eq compiled) comes wraps.release_closed)
  refine ⟨_, taken, Advances.withOutput ?_ output⟩
  have again : Arranged known definitions dialogue.session { dialogue.backend with
      current := .opened (dialogue.backend.current.number + 1)
      released := dialogue.backend.released ++ [compiled.current] } :=
    { arranged with settled := wraps.released, tidy := tidy_opened rfl, live := arranged.live }
  cases outcome with
  | ok value => exact ⟨again, rfl, rfl, (List.append_nil _).symm⟩
  | error error => exact ⟨again, rfl, (List.append_nil _).symm, List.map_append⟩

/-- A bare expression that is refused is answered by the reason. -/
theorem take_refused {dialogue : Dialogue Evaluator}
    (arranged : Arranged known definitions dialogue.session dialogue.backend) {body : Node}
    (spelled : body.Spelled) {fault : Fault}
    (decided : verdict known (.anonymous body) = .error fault) :
    ∃ complaint after, fault.complaint? = some complaint ∧
      take (.expression (.anonymous body)) dialogue = .ok () after ∧
      Answers known definitions [.error complaint.bare] dialogue after := by
  have wrapped : (Definition.anonymous body).body.Spelled := spelled
  rcases arranged.define_judged wrapped (.inr ⟨rfl, rfl⟩) (fun _ => rfl) with
    ⟨_, _, _, _, other, _⟩ | ⟨_, backend, same, ⟨error, location, rfl⟩, failed, refused⟩
  · rw [decided] at other
    cases other
  · rw [decided] at same
    cases same
    obtain ⟨output, taken⟩ := Takes.taken (.expressionRefused failed rfl)
    exact ⟨_, _, rfl, taken, refused, rfl, (List.append_nil _).symm, List.map_append⟩

/-- An expression is answered alike wherever calls find the same. -/
theorem take_expression {left right : Dialogue Evaluator}
    (platform : left.platform = right.platform)
    (arranged : Arranged known definitions left.session left.backend)
    (arrangedToo : Arranged known definitions right.session right.backend) {body : Node}
    (spelled : body.Spelled) :
    ∃ answer after afterToo, take (.expression (.anonymous body)) left = .ok () after ∧
      take (.expression (.anonymous body)) right = .ok () afterToo ∧
      Answers known definitions [answer] left after ∧
      Answers known definitions [answer] right afterToo := by
  cases decided : verdict known (.anonymous body) with
  | ok code =>
    obtain ⟨handle, compiled, declared, done, wraps⟩ := arranged.wraps spelled decided
    obtain ⟨handleToo, compiledToo, declaredToo, doneToo, wrapsToo⟩ :=
      arrangedToo.wraps spelled decided
    obtain ⟨outcome, comes, _⟩ := wraps.execute_comes left.platform
    have comesToo := comes_congr wraps wrapsToo (arranged.live.trans arrangedToo.live.symm) comes
    rw [platform] at comesToo
    obtain ⟨after, taken, answers⟩ := take_wrapped arranged done wraps comes
    obtain ⟨afterToo, takenToo, answersToo⟩ := take_wrapped arrangedToo doneToo wrapsToo comesToo
    exact ⟨_, after, afterToo, taken, takenToo, answers, answersToo⟩
  | error fault =>
    obtain ⟨complaint, after, reported, taken, answers⟩ := take_refused arranged spelled decided
    obtain ⟨complaintToo, afterToo, reportedToo, takenToo, answersToo⟩ :=
      take_refused arrangedToo spelled decided
    rw [reported] at reportedToo
    cases reportedToo
    exact ⟨_, after, afterToo, taken, takenToo, answers, answersToo⟩

/-- Expressions are answered alike, one after the other, wherever calls find the same. -/
theorem take_expressions {left right : Dialogue Evaluator}
    (platform : left.platform = right.platform)
    (arranged : Arranged known definitions left.session left.backend)
    (arrangedToo : Arranged known definitions right.session right.backend) {bodies : List Node}
    (spelled : ∀ body ∈ bodies, body.Spelled) :
    ∃ answers after afterToo, answers.length = bodies.length ∧
      forM (bodies.map fun body => .expression (.anonymous body)) take left = .ok () after ∧
      forM (bodies.map fun body => .expression (.anonymous body)) take right = .ok () afterToo ∧
      Answers known definitions answers left after ∧
      Answers known definitions answers right afterToo := by
  induction bodies generalizing left right with
  | nil => exact ⟨[], left, right, rfl, rfl, rfl, .refl arranged, .refl arrangedToo⟩
  | cons body rest inductionHypothesis =>
    obtain ⟨first, others⟩ := List.forall_mem_cons.mp spelled
    obtain ⟨answer, middle, middleToo, taken, takenToo, advances, advancesToo⟩ :=
      take_expression platform arranged arrangedToo first
    have same : middle.platform = middleToo.platform := by
      rw [advances.platform, advancesToo.platform, platform]
    obtain ⟨answers, after, afterToo, length, takenAll, takenAllToo, rests, restsToo⟩ :=
      inductionHypothesis same advances.arranged advancesToo.arranged others
    refine ⟨answer :: answers, after, afterToo, ?_, ?_, ?_, ?_, ?_⟩
    · rw [List.length_cons, List.length_cons, length]
    · rw [List.map_cons, List.forM_cons, bind_ok taken, takenAll]
    · rw [List.map_cons, List.forM_cons, bind_ok takenToo, takenAllToo]
    · rw [Answers, ← List.singleton_append, List.filterMap_append, List.filterMap_append]
      exact advances.trans rests
    · rw [Answers, ← List.singleton_append, List.filterMap_append, List.filterMap_append]
      exact advancesToo.trans restsToo

end

/-! ## Programs -/

/-- Declarations, then definitions, then expressions. -/
def program (prototypes : List Prototype) (functions : List Definition) (bodies : List Node) :
    List ProgramUnit :=
  prototypes.map .declaration ++ functions.map .definition ++
    bodies.map fun body => .expression (.anonymous body)

/-- The definitions that are not refused have been accepted, the others were reported, and then the
expressions were answered. -/
structure Settles (functions : List Definition) (refusal : Definition → Option Report)
    (answers : List Answer) (after : Dialogue Evaluator) : Prop where
  defined (name : String) : name ∈ Backend.defined after.backend ↔
    ∃ function ∈ functions, function.prototype.name = name ∧ refusal function = none
  results : after.results = answers.filterMap Answer.result?
  complaints : after.complaints.map Complaint.bare =
    functions.filterMap refusal ++ answers.filterMap Answer.report?

/-- What is recorded of a name is the arity of the last prototype, so all names of prototypes are
recorded. -/
theorem arity?_foldl_record_ne_none {prototypes : List Prototype} {session : Session}
    {name : String}
    (known : name ∈ prototypes.map (·.name) ∨ session.arity? name ≠ none) :
    (prototypes.foldl Session.record session).arity? name ≠ none := by
  induction prototypes generalizing session with
  | nil => exact known.resolve_left (List.not_mem_nil)
  | cons prototype rest inductionHypothesis =>
    apply inductionHypothesis
    rw [Session.arity?, Session.find?_record]
    by_cases itself : prototype.name = name
    · exact .inr (by simp [itself])
    · rw [if_neg itself]
      refine known.imp (fun member => ?_) id
      exact (List.mem_cons.mp member).resolve_left (Ne.symm itself)

section

variable {operators : Operators} {prototypes : List Prototype} {functions : List Definition}
  {bodies : List Node} {text : Cursor}

variable (operators text) in
/-- Declarations and then definitions are taken in, each definition as its verdict says. -/
theorem take_declared (settings : Settings) (platform : Platform)
    (names : (prototypes.map (·.name)).Nodup)
    (distinct : ∀ prototype ∈ prototypes, prototype.parameters.Nodup)
    (once : (functions.map (·.prototype.name)).Nodup)
    (declared : ∀ function ∈ functions, function.prototype.name ∈ prototypes.map (·.name))
    (words : ∀ prototype ∈ prototypes, IsWord prototype.name)
    (spelled : ∀ function ∈ functions,
      IsWord function.prototype.name ∧ function.body.Spelled) :
    let known := prototypes.foldl Session.record (newSession operators)
    ∃ middle, forM (prototypes.map .declaration ++ functions.map .definition) take
        (withEvaluator settings platform operators text) = .ok () middle ∧
      (∀ function ∈ functions, ∀ fault, verdict known function = .error fault →
        fault.IsCompile) ∧
      Advances known (functions.foldl (adopt known) fun _ => none) []
        (functions.filterMap (refusal known))
        (withEvaluator settings platform operators text) middle := by
  intro known
  let start : Dialogue Evaluator := withEvaluator settings platform operators text
  have begun : Arranged start.session (fun _ => none) start.session start.backend :=
    arranged_initial operators
  obtain ⟨opened, taken, advances⟩ :=
    take_declarations begun words distinct names (fun _ _ => rfl)
  have recorded : ∀ function ∈ functions, known.arity? function.prototype.name ≠ none :=
    fun function member => arity?_foldl_record_ne_none (.inl (declared function member))
  obtain ⟨middle, takenToo, advancesToo⟩ :=
    take_definitions advances.arranged spelled recorded once fun _ _ => rfl
  refine ⟨middle, ?_, ?_, advances.trans advancesToo⟩
  · rw [List.forM_append, bind_ok taken, takenToo]
  · intro function member fault decided
    exact advances.arranged.isCompile_of_refused (spelled function member).2
      (recorded function member) rfl decided

/-- A run of a text does what a dialogue does about the items that it is read as. -/
theorem run_of_attends {settings : Settings} {platform : Platform} {other : Cursor}
    {items : List Item} (reads : Item.AllAlike (text.items operators) items)
    {last : Dialogue Evaluator}
    (attended : forM items attend (withEvaluator settings platform operators other) =
      .ok () last) :
    ∃ after cursor, run (withEvaluator settings platform operators text) = .ok () after ∧
      Follows cursor operators [] [] after last := by
  have itself : Follows text operators [] [] (withEvaluator settings platform operators text)
      (withEvaluator settings platform operators other) :=
    ⟨rfl, rfl, rfl, rfl, rfl, Placeless.refl _, rfl, rfl⟩
  have ends := run_attends itself reads
  rw [attended] at ends
  generalize run (withEvaluator settings platform operators text) = result at ends
  cases ends with
  | @ok _ _ after _ _ follows =>
    obtain ⟨cursor, follows⟩ := follows
    exact ⟨after, cursor, rfl, follows⟩

/-- A run of a text does what a dialogue does about the units that it is read as. -/
theorem run_of_takes {settings : Settings} {platform : Platform} {units : List ProgramUnit}
    (reads : Item.AllAlike (text.items operators) (units.map .ok)) {last : Dialogue Evaluator}
    (taken : forM units take (withEvaluator settings platform operators text) = .ok () last) :
    ∃ after, run (withEvaluator settings platform operators text) = .ok () after ∧
      after.results = last.results ∧
      after.complaints.map Complaint.bare = last.complaints.map Complaint.bare ∧
      Backend.defined after.backend = Backend.defined last.backend := by
  have attended : forM (units.map .ok) attend (withEvaluator settings platform operators text) =
      .ok () last := by
    rw [List.forM_map]
    exact taken
  obtain ⟨after, _, done, follows⟩ := run_of_attends reads attended
  exact ⟨after, done, follows.results.symm, follows.complaints.symm,
    Placeless.defined follows.backend⟩

/-- Where all definitions have been judged and all expressions answered, everything is settled. -/
theorem Advances.settles {settings : Settings} {platform : Platform} {known : Session}
    {middle last after : Dialogue Evaluator} {answers : List Answer}
    (compiles : ∀ function ∈ functions, ∀ fault, verdict known function = .error fault →
      fault.IsCompile)
    (judged : Advances known (functions.foldl (adopt known) fun _ => none) []
      (functions.filterMap (refusal known)) (withEvaluator settings platform operators text) middle)
    (answered : Answers known (functions.foldl (adopt known) fun _ => none) answers middle last)
    (results : after.results = last.results)
    (complaints : after.complaints.map Complaint.bare = last.complaints.map Complaint.bare)
    (defined : Backend.defined after.backend = Backend.defined last.backend) :
    Settles functions (refusal known) answers after := by
  have whole := judged.trans answered
  constructor
  · intro name
    rw [defined]
    refine (whole.arranged.mem_defined_iff name).trans ?_
    rw [foldl_adopt_eq_some_iff known functions compiles]
    simp
  · rw [results, whole.results]
    rfl
  · rw [complaints, whole.complaints]
    rfl

/-- **Definitions may be given in any order.** If distinct functions are declared with distinct
parameters, and some of them are defined, in two orders, before expressions follow, then both runs
come to an end and settle everything alike: the same definitions are accepted, the others are
refused for the same reasons, and the expressions have the same answers. -/
theorem definitions_in_any_order (settings : Settings) (platform : Platform)
    (names : (prototypes.map (·.name)).Nodup)
    (distinct : ∀ prototype ∈ prototypes, prototype.parameters.Nodup)
    (once : (functions.map (·.prototype.name)).Nodup)
    (declared : ∀ function ∈ functions, function.prototype.name ∈ prototypes.map (·.name))
    {order : List Definition} (permuted : order.Perm functions) {textToo : Cursor}
    (reads : Item.AllAlike (text.items operators) ((program prototypes functions bodies).map .ok))
    (readsToo : Item.AllAlike (textToo.items operators)
      ((program prototypes order bodies).map .ok)) :
    ∃ refusal answers after afterToo, answers.length = bodies.length ∧
      run (withEvaluator settings platform operators text) = .ok () after ∧
      run (withEvaluator settings platform operators textToo) = .ok () afterToo ∧
      Settles functions refusal answers after ∧ Settles order refusal answers afterToo := by
  have ofWords := reads.ofWords
  simp only [program, List.forall_mem_append, List.forall_mem_map] at ofWords
  obtain ⟨⟨words, spelled⟩, bodiesSpelled⟩ := ofWords
  have onceToo : (order.map (·.prototype.name)).Nodup := (permuted.map _).nodup_iff.mpr once
  have declaredToo : ∀ function ∈ order, function.prototype.name ∈ prototypes.map (·.name) :=
    fun function member => declared function (permuted.mem_iff.mp member)
  have spelledToo : ∀ function ∈ order, IsWord function.prototype.name ∧ function.body.Spelled :=
    fun function member => spelled function (permuted.mem_iff.mp member)
  obtain ⟨middle, taken, compiles, judged⟩ := take_declared operators text
    settings platform names distinct once declared words spelled
  obtain ⟨middleToo, takenToo, compilesToo, judgedToo⟩ := take_declared operators textToo
    settings platform names distinct onceToo declaredToo words spelledToo
  have same := foldl_adopt_perm (prototypes.foldl Session.record (newSession operators)) permuted
    once fun _ => none
  have platforms : middle.platform = middleToo.platform :=
    judged.platform.trans judgedToo.platform.symm
  obtain ⟨answers, last, lastToo, length, takenLast, takenLastToo, answered, answeredToo⟩ :=
    take_expressions platforms judged.arranged (same ▸ judgedToo.arranged) bodiesSpelled
  have whole : forM (program prototypes functions bodies) take
      (withEvaluator settings platform operators text) = .ok () last := by
    rw [program, List.forM_append, bind_ok taken, takenLast]
  have wholeToo : forM (program prototypes order bodies) take
      (withEvaluator settings platform operators textToo) = .ok () lastToo := by
    rw [program, List.forM_append, bind_ok takenToo, takenLastToo]
  obtain ⟨after, done, results, complaints, defined⟩ := run_of_takes reads whole
  obtain ⟨afterToo, doneToo, resultsToo, complaintsToo, definedToo⟩ :=
    run_of_takes readsToo wholeToo
  exact ⟨_, answers, after, afterToo, length, done, doneToo,
    judged.settles compiles answered results complaints defined,
    judgedToo.settles compilesToo (same ▸ answeredToo) resultsToo complaintsToo definedToo⟩

end

/-- A definition that calls another with too few arguments is refused in front of the other as it
is behind it. -/
theorem definitions_in_any_order_refused :
    let text := Cursor.start ""
      "extern f ( x );extern g ( );def g ( ) f ( );def f ( x ) x * 2;f ( 4 )".toList
    ∃ after, run (withEvaluator .quiet .doubles .standard text) = .ok () after ∧
      after.results.length = 1 ∧
      after.complaints.map Complaint.bare = [(.compiling, "C003",
        "Incorrect number of arguments passed to 'f': expected 1, got 0")] ∧
      ∀ name, name ∈ Backend.defined after.backend ↔ name = "f" := by
  intro textToo
  let text := Cursor.start ""
    "extern f ( x );extern g ( );def f ( x ) x * 2;def g ( ) f ( );f ( 4 )".toList
  let product : Phrase := .operation '*' (.name "x") (.numeral "2")
  let doubles : Definition :=
    { prototype := ⟨"f", ["x"], none⟩, body := product.tree, location := none }
  let calls : Definition :=
    { prototype := ⟨"g", [], none⟩, body := .call "f" [] none, location := none }
  let prototypes : List Prototype := [⟨"f", ["x"], none⟩, ⟨"g", [], none⟩]
  let bodies : List Node := [.call "f" [.number (lexemeValue "4") none] none]
  -- Both texts are written from the same units.
  let clauses (first second : Clause) : List Clause := [.declaration "f" ["x"],
    .declaration "g" [], first, second, .expression (.call "f" [.numeral "4"])]
  have fitDoubles : (Clause.definition "f" ["x"] product).Fits .standard :=
    ⟨by decide, .operation rfl (.name (by decide)) (.numeral (by decide))⟩
  have fitCalls : (Clause.definition "g" [] (.call "f" [])).Fits .standard :=
    ⟨by decide, .call (by decide) nofun⟩
  have fit {first second : Clause} (fits : first.Fits .standard) (fitsToo : second.Fits .standard) :
      ∀ clause ∈ clauses first second, clause.Fits .standard := by
    have declared : ∀ word ∈ ["f", "x"], isIdentifier word = true := by decide
    have declaredToo : ∀ word ∈ ["g"], isIdentifier word = true := by decide
    have called : Phrase.Fits .standard (.call "f" [.numeral "4"]) :=
      .call (by decide) (List.forall_mem_singleton.mpr (.numeral (by decide)))
    simp only [clauses, List.forall_mem_cons]
    exact ⟨declared, declaredToo, fits, fitsToo, called, nofun⟩
  have written : text = Cursor.start "" (Clause.programText .standard
      (clauses (.definition "f" ["x"] product) (.definition "g" [] (.call "f" [])))).toList := by
    decide +kernel
  have writtenToo : textToo = Cursor.start "" (Clause.programText .standard
      (clauses (.definition "g" [] (.call "f" [])) (.definition "f" ["x"] product))).toList := by
    decide +kernel
  have reads : Item.AllAlike (text.items .standard)
      ((program prototypes [doubles, calls] bodies).map .ok) :=
    written ▸ Clause.items_programText .standard (fit fitDoubles fitCalls) ""
  have readsToo : Item.AllAlike (textToo.items .standard)
      ((program prototypes [calls, doubles] bodies).map .ok) :=
    writtenToo ▸ Clause.items_programText .standard (fit fitCalls fitDoubles) ""
  have permuted : [calls, doubles].Perm [doubles, calls] := List.Perm.swap _ _ _
  obtain ⟨refusal, answers, after, afterToo, _, done, doneToo, settles, settlesToo⟩ :=
    definitions_in_any_order .quiet .doubles (by decide) (by decide) (by decide) (by decide)
      permuted reads readsToo
  obtain ⟨other, ended, results, complaints, defined⟩ : ∃ other,
      run (withEvaluator .quiet .doubles .standard text) = .ok () other ∧
      other.results.length = 1 ∧
      other.complaints.map Complaint.bare = [(.compiling, "C003",
        "Incorrect number of arguments passed to 'f': expected 1, got 0")] ∧
      Backend.defined other.backend = ["f"] :=
    exists_end (by decide +kernel)
  rw [done] at ended
  cases ended
  refine ⟨afterToo, doneToo, ?_, ?_, fun name => ?_⟩
  · rw [settlesToo.results, ← settles.results, results]
  · have same := (permuted.filterMap refusal).append_right (answers.filterMap Answer.report?)
    rw [← settles.complaints, ← settlesToo.complaints, complaints] at same
    exact List.perm_singleton.mp same
  · rw [← List.mem_singleton, ← defined, settles.defined, settlesToo.defined]
    simp only [permuted.mem_iff]

end Dialogue

end Reckon
