import Reckon.Proofs.Evaluator.LiveBodies
import Reckon.Proofs.Generator.Requests
import Reckon.Proofs.Linker.Shelves
import Reckon.Proofs.Pairing.Deliveries

/-!
# Two back ends behind one interface

A back end is used through an interface: functions are declared, recorded and defined, units
are handed off and released, in any order and grouping. Whatever is asked of an evaluator and
of a generator alike, they give corresponding handles, their open units stay twins, and the
pending units of the linker are those that deliver the live units. Nothing is materialized as
long as nothing is executed.
-/

namespace Reckon

open Reckon.Action Instruction
open Evaluator (CodeUnit)

/-! ## The interface -/

/-- A back end with its session, and the handles that it gave for declarations and definitions. -/
structure Interface (β : Type) where
  session : Session
  backend : β
  handles : List Handle

namespace Interface

/-- What is asked through an interface. -/
inductive Step where
  | declare (prototype : Prototype)
  | record (prototype : Prototype)
  | define (definition : Definition)
  | handOff
  | release (number : Nat)

/-- Names are words or the reserved one, and bodies are expressions. -/
def Step.Spelled : Step → Prop
  | .declare prototype => Nameable prototype.name
  | .define definition => Nameable definition.prototype.name ∧ definition.body.Spelled
  | _ => True

section

variable {β : Type}

/-- Nothing has been asked yet. -/
def fresh (session : Session) (backend : β) : Interface β := ⟨session, backend, []⟩

/-- Keeps the handle that an action gives. -/
def keep (interface : Interface β) (action : Action β Handle) : Interface β :=
  match action interface.backend with
  | .ok handle backend => { interface with backend, handles := interface.handles ++ [handle] }
  | .error _ backend => { interface with backend }

variable [Backend β]

/-- Does what is asked, as far as it can be done. -/
def take (interface : Interface β) : Step → Interface β
  | .declare prototype => interface.keep (Declarations.declare interface.session prototype)
  | .record prototype => { interface with session := interface.session.record prototype }
  | .define definition => interface.keep (define interface.session definition)
  | .handOff => { interface with backend := after Backend.handOff interface.backend }
  | .release number =>
    { interface with backend := after (Backend.release number) interface.backend }

/-- Does what is asked, one step after the other. -/
def takeAll (steps : List Step) (interface : Interface β) : Interface β :=
  steps.foldl take interface

end

end Interface

/-! ## What corresponds -/

/-- The handle that the generator gives for what the evaluator gives this handle for. -/
def Handle.counterpart (handle : Handle) : Handle :=
  ⟨handle.unit, symbolIn handle.unit handle.symbol⟩

/-- An evaluator and a generator of which nothing has been executed hold the same bodies, in units
that are open, live or pending. -/
structure Conjoined (evaluator : Evaluator) (generator : Generator) : Prop where
  twin : Twin evaluator.current generator.current
  tally : Tally evaluator generator
  booked : ∃ excused, Evaluator.Booked excused evaluator
  numbered : evaluator.Numbered
  earlier : evaluator.Earlier
  earlierToo : generator.Earlier
  once : (generator.closed.map (·.number)).Nodup
  accepting : generator.refusal = none
  delivered (unit : CodeUnit) (member : unit ∈ evaluator.live) :
    ∃ module ∈ generator.closed, Twin unit module ∧
      module.handedOff generator.level ∈ generator.linker.pending
  waiting (compiled : CompiledUnit) (member : compiled ∈ generator.linker.pending) :
    ∃ unit ∈ evaluator.live, ∃ module ∈ generator.closed, Twin unit module ∧
      compiled = module.handedOff generator.level
  materialized : generator.linker.materialized = []
  image : generator.linker.image = []

namespace Conjoined

variable {evaluator after : Evaluator} {generator afterToo : Generator}

/-- Where nothing has been taken in, the same bodies are held. -/
theorem initial (level : Nat) : Conjoined .initial (.initial level none) := by
  constructor
  case twin => exact .opened 1
  case tally => exact ⟨fun _ _ => .rfl, nofun⟩
  case booked => exact ⟨False, .initial _⟩
  case numbered => exact .initial
  case once => exact List.nodup_nil
  case accepting => rfl
  case materialized => rfl
  case image => rfl
  all_goals exact nofun

/-- Units have the numbers of their twins. -/
theorem number_eq (conjoined : Conjoined evaluator generator) :
    generator.current.number = evaluator.current.number := conjoined.twin.alongside.number.symm

/-- Declarations and bodies change the open units alone. -/
theorem advances (conjoined : Conjoined evaluator generator)
    (advances : Advances evaluator generator after afterToo) {request : Evaluator.Request}
    (fulfils : Evaluator.Fulfils evaluator request after) (numbered : after.Numbered) :
    Conjoined after afterToo := by
  obtain ⟨excused, booked⟩ := conjoined.booked
  have same := advances.same
  have sameToo := advances.sameToo
  constructor
  case twin => exact advances.twin
  case tally => exact advances.tally
  case booked => exact ⟨_, booked.fulfils conjoined.numbered fulfils⟩
  case numbered => exact numbered
  case earlier =>
    intro unit member
    rw [advances.number]
    rw [same] at member
    exact conjoined.earlier unit member
  case earlierToo =>
    intro module member
    rw [advances.numberToo]
    rw [sameToo] at member
    exact conjoined.earlierToo module member
  case once =>
    rw [sameToo]
    exact conjoined.once
  case accepting =>
    rw [sameToo]
    exact conjoined.accepting
  case delivered =>
    rw [same, sameToo]
    exact conjoined.delivered
  case waiting =>
    rw [same, sameToo]
    exact conjoined.waiting
  case materialized =>
    rw [sameToo]
    exact conjoined.materialized
  case image =>
    rw [sameToo]
    exact conjoined.image

/-- The open units are handed off, the module as a unit that delivers the other. -/
theorem handOff (conjoined : Conjoined evaluator generator) :
    Conjoined (Action.after Evaluator.handOff evaluator)
      (Action.after Generator.handOff generator) := by
  obtain ⟨excused, booked⟩ := conjoined.booked
  obtain ⟨fulfils, numbered⟩ := Evaluator.handOff_fulfils conjoined.numbered
  have done := Generator.handOff_delivers conjoined.accepting conjoined.twin.complete
  have live : (Action.after Evaluator.handOff evaluator).live =
      evaluator.live ++ [evaluator.current] := rfl
  have delivered : Action.after Generator.handOff generator = generator.delivered := by
    rw [Action.after, done]
  rw [delivered]
  constructor
  case twin =>
    change Twin (.opened (evaluator.current.number + 1)) (.opened (generator.current.number + 1))
    rw [conjoined.number_eq]
    exact .opened _
  case tally =>
    refine ⟨conjoined.tally.words, fun number member => .inl ?_⟩
    change number < generator.current.number + 1
    rcases conjoined.tally.wrapped number member with less | ⟨rfl, _⟩ <;> omega
  case booked => exact ⟨_, booked.fulfils conjoined.numbered fulfils⟩
  case numbered => exact numbered
  case earlier =>
    intro unit member
    change unit ∈ evaluator.live ++ [evaluator.current] ++ evaluator.released at member
    change unit.number < evaluator.current.number + 1
    rcases List.mem_append.mp member with among | released
    · rcases List.mem_append.mp among with older | last
      · exact Nat.lt_succ_of_lt (conjoined.earlier unit (List.mem_append_left _ older))
      · rw [List.mem_singleton.mp last]
        exact Nat.lt_succ_self _
    · exact Nat.lt_succ_of_lt (conjoined.earlier unit (List.mem_append_right _ released))
  case earlierToo =>
    intro module member
    change module.number < generator.current.number + 1
    rcases List.mem_append.mp member with older | last
    · exact Nat.lt_succ_of_lt (conjoined.earlierToo module older)
    · rw [List.mem_singleton.mp last]
      exact Nat.lt_succ_self _
  case once =>
    change ((generator.closed ++ [generator.current]).map (·.number)).Nodup
    rw [List.map_append, List.nodup_append]
    refine ⟨conjoined.once, List.nodup_singleton _, ?_⟩
    intro number member other last
    obtain ⟨module, older, rfl⟩ := List.mem_map.mp member
    rw [List.mem_singleton.mp last]
    exact Nat.ne_of_lt (conjoined.earlierToo module older)
  case accepting => exact conjoined.accepting
  case delivered =>
    intro unit member
    rw [live] at member
    rcases List.mem_append.mp member with older | last
    · obtain ⟨module, closed, twin, pending⟩ := conjoined.delivered unit older
      exact ⟨module, List.mem_append_left _ closed, twin, List.mem_append_left _ pending⟩
    · rw [List.mem_singleton.mp last]
      exact ⟨generator.current, List.mem_append_right _ (List.mem_singleton_self _),
        conjoined.twin, List.mem_append_right _ (List.mem_singleton_self _)⟩
  case waiting =>
    intro compiled member
    rcases List.mem_append.mp member with older | last
    · obtain ⟨unit, there, module, closed, twin, same⟩ := conjoined.waiting compiled older
      exact ⟨unit, List.mem_append_left _ there, module, List.mem_append_left _ closed, twin, same⟩
    · rw [List.mem_singleton.mp last]
      exact ⟨evaluator.current, List.mem_append_right _ (List.mem_singleton_self _),
        generator.current, List.mem_append_right _ (List.mem_singleton_self _), conjoined.twin, rfl⟩
  case materialized => exact conjoined.materialized
  case image => exact conjoined.image

/-- A pending unit delivers the live unit of its number. -/
theorem delivers_of_number (conjoined : Conjoined evaluator generator) {unit : CodeUnit}
    (live : unit ∈ evaluator.live) {compiled : CompiledUnit}
    (pending : compiled ∈ generator.linker.pending) (same : compiled.number = unit.number) :
    Delivers unit compiled := by
  obtain ⟨other, there, module, _, twin, rfl⟩ := conjoined.waiting compiled pending
  have delivers := twin.delivers generator.level
  have own := conjoined.numbered.eq_of_number (List.mem_cons_of_mem _ there)
    (List.mem_cons_of_mem _ live) (delivers.number.symm.trans same)
  exact own ▸ delivers

/-- If both give up the unit and the one that delivers it, they go on holding the same bodies. -/
theorem giveUp (conjoined : Conjoined evaluator generator) {unit : CodeUnit}
    (live : unit ∈ evaluator.live) {compiled : CompiledUnit}
    (pending : compiled ∈ generator.linker.pending) (own : compiled.number = unit.number)
    (same : after = { evaluator with
      live := evaluator.live.filter (·.number ≠ unit.number)
      released := evaluator.released ++ [unit]
      defined := evaluator.defined.without unit.defined })
    (fulfils : Evaluator.Fulfils evaluator (.release unit.number) after)
    (numbered : after.Numbered) :
    Conjoined after { generator with
      linker := generator.linker.giveUp compiled
      defined := generator.defined.without compiled.defined } := by
  obtain ⟨excused, booked⟩ := conjoined.booked
  have delivers := conjoined.delivers_of_number live pending own
  have stays (waiting : CompiledUnit) :
      waiting ∈ (generator.linker.giveUp compiled).pending ↔
        waiting ∈ generator.linker.pending ∧ waiting.number ≠ unit.number := by
    rw [Linker.giveUp, List.mem_filter, decide_eq_true_eq, own]
  constructor
  case twin =>
    rw [same]
    exact conjoined.twin
  case tally =>
    rw [same]
    constructor
    case words =>
      intro name word
      simp only [NameSet.mem_without, conjoined.tally.words name word,
        delivers.mem_defined_iff word]
    case wrapped =>
      intro number member
      have past := conjoined.tally.wrapped number ((NameSet.mem_without ..).mp member).1
      rw [Evaluator.hasBody_iff] at past ⊢
      exact past
  case booked => exact ⟨_, booked.fulfils conjoined.numbered fulfils⟩
  case numbered => exact numbered
  case earlier =>
    intro other member
    rw [same] at member ⊢
    rcases List.mem_append.mp member with kept | released
    · exact conjoined.earlier other (List.mem_append_left _ (List.mem_filter.mp kept).1)
    · rcases List.mem_append.mp released with older | last
      · exact conjoined.earlier other (List.mem_append_right _ older)
      · rw [List.mem_singleton.mp last]
        exact conjoined.earlier unit (List.mem_append_left _ live)
  case earlierToo => exact conjoined.earlierToo
  case once => exact conjoined.once
  case accepting => exact conjoined.accepting
  case delivered =>
    intro other member
    rw [same] at member
    obtain ⟨kept, apart⟩ := List.mem_filter.mp member
    obtain ⟨module, closed, twin, there⟩ := conjoined.delivered other kept
    refine ⟨module, closed, twin, (stays _).mpr ⟨there, ?_⟩⟩
    rw [(twin.delivers _).number]
    exact of_decide_eq_true apart
  case waiting =>
    intro waiting member
    obtain ⟨there, apart⟩ := (stays waiting).mp member
    obtain ⟨other, kept, module, closed, twin, rfl⟩ := conjoined.waiting waiting there
    rw [(twin.delivers _).number] at apart
    refine ⟨other, ?_, module, closed, twin, rfl⟩
    rw [same]
    exact List.mem_filter.mpr ⟨kept, decide_eq_true apart⟩
  case materialized =>
    change generator.linker.materialized.filter _ = []
    rw [conjoined.materialized]
    rfl
  case image => exact conjoined.image

/-- A unit is released on both sides, or on neither. -/
theorem release (conjoined : Conjoined evaluator generator) (number : Nat) :
    Conjoined (Action.after (Evaluator.release number) evaluator)
      (Action.after (Generator.release number) generator) := by
  have materialized := conjoined.materialized
  obtain ⟨fulfils, numbered⟩ := Evaluator.release_fulfils conjoined.numbered number
  cases found : evaluator.live.find? (·.number = number) with
  | some unit =>
    have live := List.mem_of_find?_eq_some found
    obtain rfl : unit.number = number := by simpa using List.find?_some found
    obtain ⟨module, _, twin, there⟩ := conjoined.delivered unit live
    have own := (twin.delivers generator.level).number
    cases foundToo : generator.linker.pending.find? (·.number = unit.number) with
    | none =>
      have missed := List.find?_eq_none.mp foundToo _ there
      simp [own] at missed
    | some compiled =>
      have ownToo : compiled.number = unit.number := by simpa using List.find?_some foundToo
      have done : Linker.release unit.number generator.linker =
          .ok compiled.defined (generator.linker.giveUp compiled) := by
        rw [← ownToo] at foundToo ⊢
        unfold Linker.release
        rw [get_bind, Linker.giveUp, materialized, foundToo]
        rfl
      have given := conjoined.giveUp live (List.mem_of_find?_eq_some foundToo) ownToo ?_ fulfils
        numbered
      · have same : Action.after (Generator.release unit.number) generator = { generator with
            linker := generator.linker.giveUp compiled
            defined := generator.defined.without compiled.defined } := by
          rw [Action.after, Generator.release_ok done]
        rw [same]
        exact given
      · unfold Action.after Evaluator.release
        rw [get_bind, found]
        rfl
  | none =>
    have absent : ∀ unit ∈ generator.linker.units, unit.number ≠ number := by
      intro compiled member own
      rw [Linker.units, materialized, List.append_nil] at member
      obtain ⟨unit, live, module, _, twin, rfl⟩ := conjoined.waiting compiled member
      rw [(twin.delivers _).number] at own
      have missed := List.find?_eq_none.mp found unit live
      simp [own] at missed
    have same : Action.after (Evaluator.release number) evaluator = evaluator := by
      unfold Action.after Evaluator.release
      rw [get_bind, found]
      rfl
    have sameToo : Action.after (Generator.release number) generator = generator := by
      rw [Action.after, Generator.release_error (Linker.release_of_absent absent)]
    rw [same, sameToo]
    exact conjoined

end Conjoined

/-! ## Steps -/

namespace Interface

/-- Two interfaces of the same session of which the same has been asked. -/
structure Aligned (left : Interface Evaluator) (right : Interface Generator) : Prop where
  session : right.session = left.session
  keyed : left.session.Keyed
  handles : right.handles = left.handles.map Handle.counterpart
  conjoined : Conjoined left.backend right.backend

namespace Aligned

variable {left : Interface Evaluator} {right : Interface Generator}

/-- Interfaces that nothing has been asked of are aligned. -/
theorem fresh {session : Session} (keyed : session.Keyed) (level : Nat) :
    Aligned (.fresh session .initial) (.fresh session (.initial level none)) :=
  ⟨rfl, keyed, rfl, .initial level⟩

/-- The same action on both sides gives corresponding handles, or none, and advances both. -/
theorem keep (aligned : Aligned left right) {action : Action Evaluator Handle}
    {actionToo : Action Generator Handle} (name : String)
    (ends : (∃ after afterToo,
        action left.backend = .ok ⟨left.backend.current.number, name⟩ after ∧
        actionToo right.backend =
          .ok ⟨right.backend.current.number, right.backend.current.symbol name⟩ afterToo ∧
        Advances left.backend right.backend after afterToo) ∨
      ∃ fault faultToo after afterToo,
        action left.backend = .error fault after ∧
        actionToo right.backend = .error faultToo afterToo ∧
        Advances left.backend right.backend after afterToo)
    {request : Evaluator.Request}
    (fulfils : Evaluator.Fulfils left.backend request (Action.after action left.backend))
    (numbered : (Action.after action left.backend).Numbered) :
    Aligned (left.keep action) (right.keep actionToo) := by
  rcases ends with ⟨after, afterToo, done, doneToo, advances⟩ |
    ⟨fault, faultToo, after, afterToo, failed, failedToo, advances⟩
  · rw [Action.after, done] at fulfils numbered
    have conjoined := aligned.conjoined.advances advances fulfils numbered
    rw [Interface.keep, Interface.keep, done, doneToo]
    refine ⟨aligned.session, aligned.keyed, ?_, conjoined⟩
    simp only [List.map_append, ← aligned.handles, List.map_cons, List.map_nil, Handle.counterpart,
      Module.symbol_eq, aligned.conjoined.number_eq]
  · rw [Action.after, failed] at fulfils numbered
    have conjoined := aligned.conjoined.advances advances fulfils numbered
    rw [Interface.keep, Interface.keep, failed, failedToo]
    exact ⟨aligned.session, aligned.keyed, aligned.handles, conjoined⟩

/-- **Every step keeps two interfaces aligned.** -/
theorem take (aligned : Aligned left right) {step : Step} (spelled : step.Spelled) :
    Aligned (left.take step) (right.take step) := by
  have conjoined := aligned.conjoined
  cases step with
  | declare prototype =>
    have announces := (Evaluator.declare_announces left.backend left.session prototype).holds_after
      (.refl left.backend)
    have fulfils : Evaluator.Fulfils left.backend (.declare left.session prototype)
        (Action.after (Evaluator.declare left.session prototype) left.backend) :=
      .announced announces
    have ends := declare_twins conjoined.twin conjoined.tally left.session spelled
    rw [Interface.take, Interface.take, aligned.session]
    refine aligned.keep prototype.name ?_ fulfils (announces.numbered conjoined.numbered)
    rcases ends with ⟨after, afterToo, done, doneToo, _, rests⟩ | ⟨fault, failed, failedToo⟩
    · exact .inl ⟨after, afterToo, done, doneToo, rests.advances⟩
    · exact .inr ⟨fault, fault, _, _, failed, failedToo, rfl, rfl, rfl, rfl, conjoined.twin,
        conjoined.tally⟩
  | record prototype =>
    refine ⟨?_, aligned.keyed.record prototype, aligned.handles, conjoined⟩
    rw [Interface.take, Interface.take, aligned.session]
  | define definition =>
    obtain ⟨nameable, body⟩ := spelled
    obtain ⟨fulfils, numbered⟩ := Evaluator.fulfils_of_compiles conjoined.numbered
      (.define left.session definition)
      (Evaluator.define_compiles conjoined.numbered left.session definition)
    have ends := define_twins aligned.keyed conjoined.twin conjoined.tally conjoined.earlier
      conjoined.earlierToo definition nameable body
    rw [Interface.take, Interface.take, aligned.session]
    exact aligned.keep _ ends fulfils numbered
  | handOff => exact ⟨aligned.session, aligned.keyed, aligned.handles, conjoined.handOff⟩
  | release number =>
    exact ⟨aligned.session, aligned.keyed, aligned.handles, conjoined.release number⟩

/-- So do any steps. -/
theorem takeAll (aligned : Aligned left right) {steps : List Step}
    (spelled : ∀ step ∈ steps, step.Spelled) :
    Aligned (left.takeAll steps) (right.takeAll steps) := by
  induction steps generalizing left right with
  | nil => exact aligned
  | cons step rest inductionHypothesis =>
    obtain ⟨first, others⟩ := List.forall_mem_cons.mp spelled
    exact inductionHypothesis (aligned.take first) others

end Aligned

end Interface

end Reckon
