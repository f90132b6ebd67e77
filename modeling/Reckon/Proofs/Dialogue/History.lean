import Reckon.Platform.Doubles
import Reckon.Proofs.Dialogue.Keeping
import Reckon.Proofs.Dialogue.Submissions
import Reckon.Proofs.Generator.Keeping
import Reckon.Proofs.Linker.Selection
import Reckon.Proofs.Linker.Shelves

/-!
# No symbol is handed over twice

A linker forgets no unit: what it took in is pending, materialized or released. In a run of the
generator these are the units of the definitions and the bare expressions that the steps handed
off. No two of them define the same symbol, also if one is gone. Only units of bare expressions
are released, and the symbol of a bare expression is no word, so nothing in a program can name
it, and no other unit defines or calls it.
-/

namespace Reckon

open Reckon.Action

namespace Linker

/-- All units that the linker has taken in, however far they have come. -/
def accepted (linker : Linker) : List CompiledUnit := linker.units ++ linker.released

/-- A unit that is taken in is accepted. -/
theorem accepted_add (linker : Linker) (unit : CompiledUnit) :
    (linker.add unit).accepted.Perm (linker.accepted ++ [unit]) := by
  simp only [accepted, units, Linker.add, List.append_assoc, List.singleton_append]
  refine List.Perm.append_left _ ?_
  rw [← List.append_assoc]
  exact (List.perm_append_singleton ..).symm

variable {linker : Linker}

/-- Giving a unit up accepts nothing and forgets nothing. -/
theorem accepted_giveUp (numbered : (linker.units.map (·.number)).Nodup) {unit : CompiledUnit}
    (member : unit ∈ linker.units) :
    ((linker.giveUp unit).accepted.map handedOff).Perm (linker.accepted.map handedOff) := by
  have once : ([unit].map (·.number)) = [unit.number] := rfl
  have perm := perm_of_sublist (List.singleton_sublist.mpr member) numbered
  simp only [once, List.mem_singleton] at perm
  have left : (linker.giveUp unit).units = linker.units.filter (·.number ≠ unit.number) := by
    simp only [units, giveUp, List.filter_append]
  have gone : (linker.giveUp unit).released.map handedOff =
      linker.released.map handedOff ++ [handedOff unit] := by
    simp only [giveUp, List.map_append]
    rfl
  have whole := perm.map handedOff
  rw [List.map_append] at whole
  rw [accepted, accepted, List.map_append, List.map_append, gone, left]
  refine (List.perm_append_comm.append_left _).trans ?_
  rw [← List.append_assoc]
  exact whole.append_right _

/-- No two accepted units have the same number. -/
theorem Shelves.numbers {returned : List Nat} {next : Nat}
    (shelves : Shelves returned next linker) : (linker.accepted.map (·.number)).Nodup := by
  refine List.nodup_iff_count_le_one.mpr fun number => ?_
  have counted : (linker.accepted.map (·.number)).count number =
      ((linker.shelf .pending).filter (·.number = number)).length +
        ((linker.shelf .materialized).filter (·.number = number)).length +
        ((linker.shelf .released).filter (·.number = number)).length := by
    rw [List.count, List.countP_map, List.countP_eq_length_filter, accepted, units,
      List.filter_append, List.filter_append, List.length_append, List.length_append]
    rfl
  rw [counted]
  by_cases listed : number ∈ returned
  · obtain ⟨state, stands⟩ := shelves.stands number listed
    obtain ⟨unit, only, _⟩ := stands.once
    have none (place : UnitState) (other : place ≠ state) :=
      filter_number_eq_nil_iff.mpr (stands.nowhereElse place other)
    cases state with
    | pending => simp [only, none .materialized (by decide), none .released (by decide)]
    | materialized => simp [only, none .pending (by decide), none .released (by decide)]
    | released => simp [only, none .pending (by decide), none .materialized (by decide)]
  · have none (place : UnitState) :
        (linker.shelf place).filter (·.number = number) = [] :=
      filter_number_eq_nil_iff.mpr fun unit member own =>
        listed (own ▸ shelves.listed place unit member)
    rw [none, none, none]
    exact Nat.zero_le 1

end Linker

/-- What holds after an action is kept by it. -/
theorem Action.keeps_of_after {σ α : Type} {good : σ → Prop} {action : EStateM Fault σ α}
    (holds : ∀ state, good state → good (after action state)) : Keeps good action := by
  intro state before
  have kept := holds state before
  unfold after at kept
  unfold Ensures
  cases ended : action state <;> rw [ended] at kept <;> exact kept

namespace Generator

/-- The units of the linker are told apart by their numbers, and the next one has another. -/
def Booked (generator : Generator) : Prop :=
  ∃ returned, generator.linker.Shelves returned generator.current.number

/-- Declaring leaves the numbers of units in order. -/
theorem declare_booked (session : Session) (prototype : Prototype) :
    Keeps Booked (declare session prototype) :=
  declare_keeps fun _ booked _ => booked

/-- Compiling a body leaves the numbers of units in order. -/
theorem defineBody_booked (session : Session) (handle : Handle) (body : Node)
    (parameters : List String) : Keeps Booked (defineBody session handle body parameters) := by
  refine defineBody_keeps (declare_booked session) ?_ (fun _ booked => booked) parameters
  rintro _ _ generator replaced _ _ ⟨returned, shelves⟩ _ _ _
  refine ⟨returned, ?_⟩
  change generator.linker.Shelves returned (ite _ _ _ : Module).number
  split <;> exact shelves

/-- Handing off gives the new module a number that no unit has. -/
theorem handOff_booked : Keeps Booked handOff := by
  refine keeps_of_after fun generator ⟨returned, shelves⟩ => ?_
  unfold after handOff
  rw [get_bind]
  dsimp only
  cases generator.refusalOf? generator.current with
  | some reason => exact ⟨returned, shelves.skip⟩
  | none => exact ⟨_, shelves.add rfl rfl⟩

/-- Executing leaves the numbers of units in order. -/
theorem execute_booked (platform : Platform) (handle : Handle) (arguments : List Float) :
    Keeps Booked (execute platform handle arguments) := by
  refine keeps_of_after fun generator ⟨returned, shelves⟩ => ?_
  rcases after_execute platform handle arguments generator with same | ⟨names, same⟩
  · rw [same]
    exact ⟨returned, shelves⟩
  · rw [same]
    exact ⟨returned, (shelves.materialize platform).withHostSymbols names⟩

/-- Giving a unit up leaves the numbers of the others in order. -/
theorem release_booked (number : Nat) : Keeps Booked (release number) := by
  refine keeps_of_after fun generator ⟨returned, shelves⟩ => ?_
  rcases shelves.release_cases number with ⟨unit, member, _, done⟩ | failed
  · rw [after_of_ok (release_ok done)]
    exact ⟨returned, shelves.giveUp member⟩
  · rw [after_of_error (release_error failed)]
    exact ⟨returned, shelves⟩

/-- All operations keep the books. -/
theorem booked_kept : Kept Booked :=
  ⟨declare_booked, defineBody_booked, handOff_booked, execute_booked, release_booked⟩

/-- Running a function changes no unit but in how far it has come, and gives none up. -/
theorem units_execute {platform : Platform} {next : Nat} {generator : Generator}
    (held : Dialogue.Held platform next generator.linker) (handle : Handle)
    (arguments : List Float) :
    ((after (execute platform handle arguments) generator).linker.units.map
        Linker.handedOff).Perm (generator.linker.units.map Linker.handedOff) ∧
      (after (execute platform handle arguments) generator).linker.released =
        generator.linker.released := by
  obtain ⟨holds, _, linking⟩ := held
  have distinct := Linker.nodup_pending linking.numbers
  rcases after_execute platform handle arguments generator with same | ⟨names, same⟩
  · rw [same]
    exact ⟨.refl _, rfl⟩
  · obtain ⟨moved, moves⟩ := Linker.moves_settle platform generator.linker
    rw [same]
    exact ⟨Linker.handedOff_materialize platform distinct, moves.released⟩

end Generator

/-- The names of the functions that a program unit defines, declares or calls. -/
def ProgramUnit.functionNames : ProgramUnit → List String
  | .definition function => function.prototype.name :: function.body.calls.map Prod.fst
  | .declaration prototype => [prototype.name]
  | .expression function => function.body.calls.map Prod.fst

namespace Dialogue

open Linker (accepted handedOff)

variable {reasons : Nat → Option String} {start : Dialogue Generator}

/-- Names of functions in a program are words. -/
theorem Reads.isWord {β : Type} {dialogue : Dialogue β} {read : ProgramUnit}
    (reads : dialogue.Reads read) : ∀ name ∈ read.functionNames, IsWord name := by
  obtain ⟨_, _, cursor, parsed⟩ := reads
  have spelled := Cursor.readUnit_spelled parsed
  intro name member
  cases read with
  | definition function =>
    rcases List.mem_cons.mp member with rfl | called
    · exact spelled.1
    · obtain ⟨call, made, rfl⟩ := List.mem_map.mp called
      exact spelled.2.word_of_mem_calls made
  | declaration prototype =>
    rw [List.mem_singleton.mp member]
    exact spelled
  | expression function =>
    obtain ⟨body, spelled, rfl⟩ := spelled
    obtain ⟨call, made, rfl⟩ := List.mem_map.mp member
    exact spelled.word_of_mem_calls made

/-- The unit that is delivered is among the units of the linker. -/
theorem Delivers.mem_units {dialogue : Dialogue Generator} {read : ProgramUnit}
    {compiled closed : Generator} {unit : CompiledUnit}
    (delivers : Delivers dialogue read compiled closed unit) : unit ∈ closed.linker.units := by
  rw [delivers.linker]
  exact List.mem_append_left _ (List.mem_append_right _ List.mem_cons_self)

/-- One unit comes to those that were accepted before. -/
theorem Delivers.accepted {dialogue : Dialogue Generator} {read : ProgramUnit}
    {compiled closed : Generator} {unit : CompiledUnit}
    (delivers : Delivers dialogue read compiled closed unit) :
    (closed.linker.accepted.map handedOff).Perm
      (dialogue.backend.linker.accepted.map handedOff ++ [unit]) := by
  have whole := (Linker.accepted_add dialogue.backend.linker unit).map handedOff
  rw [List.map_append, List.map_singleton, Linker.handedOff_of_pending delivers.waits] at whole
  rw [delivers.linker]
  exact whole

/-- In the step that submits a function, its unit and no other is accepted. -/
theorem handsOver_iff {step : Nat} {before : Dialogue Generator} {read other : ProgramUnit}
    {handle : Handle} {compiled closed : Generator} {unit wanted : CompiledUnit}
    (reached : stepsRefusing reasons step start = .ok () before)
    (submits : Submission (before.facing (reasons step)) read handle compiled closed)
    (delivers : Delivers (before.facing (reasons step)) read compiled closed unit) :
    HandsOver reasons start step other wanted ↔ other = read ∧ wanted = unit := by
  constructor
  · rintro ⟨beforeToo, _, _, _, reachedToo, submitsToo, taken⟩
    rw [reached] at reachedToo
    cases reachedToo
    obtain ⟨rfl, rfl, rfl⟩ := submits.unique submitsToo
    rw [delivers.linker, delivers.before] at taken
    have pending := congrArg Linker.pending taken
    exact ⟨rfl, (List.cons.inj (List.append_cancel_left pending)).1.symm⟩
  · rintro ⟨rfl, rfl⟩
    refine ⟨before, handle, compiled, closed, reached, submits, ?_⟩
    rw [delivers.before]
    exact delivers.linker

/-- An accepted unit defines the symbol of what was read, and calls words. -/
theorem HandsOver.delivers (shadowed : start.Shadowed) {step : Nat} {read : ProgramUnit}
    {unit : CompiledUnit} (handsOver : HandsOver reasons start step read unit) :
    unit.defined = [read.symbol unit.number] ∧ (∀ name ∈ unit.required, IsWord name) ∧
      ((∃ function, read = .definition function ∧ IsWord function.prototype.name) ∨
        ∃ function, read = .expression function) := by
  obtain ⟨before, handle, compiled, closed, reached, submits, taken⟩ := id handsOver
  obtain ⟨other, delivers⟩ := submits.delivers ((shadowed.of_steps reached).facing _)
  obtain ⟨_, rfl⟩ := (handsOver_iff reached submits delivers).mp handsOver
  refine ⟨delivers.defined, delivers.words, ?_⟩
  obtain ⟨function, rfl | rfl, _⟩ := submits.defines
  · refine .inl ⟨function, rfl, ?_⟩
    exact submits.reads.isWord _ List.mem_cons_self
  · exact .inr ⟨function, rfl⟩

/-- What the linker has taken in after a number of steps, and what of it is gone. -/
structure History (reasons : Nat → Option String) (start : Dialogue Generator) (count : Nat)
    (linker : Linker) : Prop where
  accepted (unit : CompiledUnit) : unit ∈ linker.accepted.map handedOff ↔
    ∃ step < count, ∃ read, HandsOver reasons start step read unit
  released (gone : CompiledUnit) (member : gone ∈ linker.released) :
    ∃ step < count, ∃ function, HandsOver reasons start step (.expression function) (handedOff gone)

namespace History

variable {count : Nat} {linker after : Linker}

/-- A step in which no unit is accepted changes nothing. -/
theorem nothing (history : History reasons start count linker)
    (none : ∀ read unit, ¬ HandsOver reasons start count read unit) :
    History reasons start (count + 1) linker := by
  constructor
  case accepted =>
    intro unit
    rw [history.accepted]
    constructor
    · rintro ⟨step, earlier, handsOver⟩
      exact ⟨step, Nat.lt_succ_of_lt earlier, handsOver⟩
    · rintro ⟨step, earlier, read, handsOver⟩
      refine ⟨step, Nat.lt_of_le_of_ne (Nat.le_of_lt_succ earlier) ?_, read, handsOver⟩
      rintro rfl
      exact none read unit handsOver
  case released =>
    intro gone member
    obtain ⟨step, earlier, handsOver⟩ := history.released gone member
    exact ⟨step, Nat.lt_succ_of_lt earlier, handsOver⟩

/-- A step in which a unit is accepted adds it, and may release it if it is of an expression. -/
theorem takes_in (history : History reasons start count linker) {read : ProgramUnit}
    {unit : CompiledUnit}
    (only : ∀ other wanted, HandsOver reasons start count other wanted ↔
      other = read ∧ wanted = unit)
    (accepted : (after.accepted.map handedOff).Perm (linker.accepted.map handedOff ++ [unit]))
    (released : ∀ gone ∈ after.released, gone ∈ linker.released ∨
      (∃ function, read = .expression function) ∧ handedOff gone = unit) :
    History reasons start (count + 1) after := by
  have now : HandsOver reasons start count read unit := (only ..).mpr ⟨rfl, rfl⟩
  constructor
  case accepted =>
    intro wanted
    rw [accepted.mem_iff, List.mem_append, List.mem_singleton, history.accepted]
    constructor
    · rintro (⟨step, earlier, handsOver⟩ | rfl)
      · exact ⟨step, Nat.lt_succ_of_lt earlier, handsOver⟩
      · exact ⟨count, Nat.lt_succ_self _, read, now⟩
    · rintro ⟨step, earlier, other, handsOver⟩
      rcases Nat.lt_or_eq_of_le (Nat.le_of_lt_succ earlier) with before | rfl
      · exact .inl ⟨step, before, other, handsOver⟩
      · exact .inr ((only ..).mp handsOver).2
  case released =>
    intro gone member
    rcases released gone member with older | ⟨⟨function, rfl⟩, rfl⟩
    · obtain ⟨step, earlier, handsOver⟩ := history.released gone older
      exact ⟨step, Nat.lt_succ_of_lt earlier, handsOver⟩
    · exact ⟨count, Nat.lt_succ_self _, function, now⟩

end History

/-- Giving up a unit that was just run. -/
theorem given_up {platform : Platform} {next : Nat} {closed released : Generator} {number : Nat}
    {handle : Handle} {unit : CompiledUnit} (held : Held platform next closed.linker)
    (member : unit ∈ closed.linker.units) (own : unit.number = number)
    (waits : unit.state = .pending) (releases : Generator.release number
      (Action.after (Generator.execute platform handle []) closed) = .ok () released) :
    (released.linker.accepted.map handedOff).Perm (closed.linker.accepted.map handedOff) ∧
      ∃ gone, handedOff gone = unit ∧
        released.linker.released = closed.linker.released ++ [gone] := by
  obtain ⟨holds, _, linking⟩ := held.execute handle []
  obtain ⟨units, same⟩ := Generator.units_execute held handle []
  obtain ⟨here, present, equal⟩ :=
    List.mem_map.mp (units.symm.subset (List.mem_map_of_mem member))
  rw [Linker.handedOff_of_pending waits] at equal
  have numbered : here.number = number := by
    rw [← own, ← equal]
    rfl
  have given := Generator.release_ok (linking.release_eq present)
  rw [numbered] at given
  rw [given] at releases
  cases releases
  constructor
  · refine (Linker.accepted_giveUp linking.numbers present).trans ?_
    rw [Linker.accepted, Linker.accepted, List.map_append, List.map_append, same]
    exact units.append_right _
  · exact ⟨{ here with state := .released }, equal, congrArg (· ++ _) same⟩

/-- **The linker remembers the history of a run.** -/
theorem Shadowed.history (shadowed : start.Shadowed)
    (fresh : start.backend.linker = .initial) {count : Nat} {dialogue : Dialogue Generator}
    (reached : stepsRefusing reasons count start = .ok () dialogue) :
    History reasons start count dialogue.backend.linker := by
  induction count generalizing dialogue with
  | zero =>
    cases reached
    rw [fresh]
    constructor
    · intro unit
      constructor
      · exact fun absurd => by cases absurd
      · rintro ⟨step, earlier, _⟩
        cases earlier
    · exact fun gone member => by cases member
  | succ count inductionHypothesis =>
    obtain ⟨before, more, after, output, reachedBefore, there, turns, rfl⟩ :=
      shadowed.last_step reached
    have history := inductionHypothesis reachedBefore
    have asked := there.facing (reasons count)
    change History reasons start (count + 1) after.backend.linker
    cases turns.deals with
    | nothing same none =>
      rw [same]
      refine history.nothing ?_
      rintro read unit ⟨beforeToo, handle, compiled, closed, reachedToo, submits, _⟩
      rw [reachedBefore] at reachedToo
      cases reachedToo
      exact none read handle compiled closed submits
    | keeps submits same =>
      obtain ⟨unit, delivers⟩ := submits.delivers asked
      refine history.takes_in (fun _ _ => handsOver_iff reachedBefore submits delivers) ?_ ?_
      · rw [same]
        exact delivers.accepted
      · intro gone member
        rw [same, delivers.linker] at member
        exact .inl member
    | returns submits handsOff releases same =>
      obtain ⟨unit, delivers⟩ := submits.delivers asked
      have own := delivers.returned
      rw [handsOff] at own
      cases own
      have member := delivers.mem_units
      obtain ⟨kept, gone, itself, released⟩ :=
        given_up delivers.held member rfl delivers.waits releases
      refine history.takes_in (fun _ _ => handsOver_iff reachedBefore submits delivers) ?_ ?_
      · rw [same]
        exact kept.trans delivers.accepted
      · intro other there
        rw [same, released, delivers.linker] at there
        rcases List.mem_append.mp there with older | last
        · exact .inl older
        · rw [List.mem_singleton.mp last]
          exact .inr ⟨⟨_, rfl⟩, itself⟩

namespace History

variable {count : Nat} {linker : Linker} {unit other : CompiledUnit}

/-- An accepted unit defines a word, or the symbol of a bare expression. It calls words. -/
theorem defined (history : History reasons start count linker) (shadowed : start.Shadowed)
    (member : unit ∈ linker.accepted) :
    ((∃ name, unit.defined = [name] ∧ IsWord name) ∨
      unit.defined = [anonymousSymbol unit.number]) ∧ ∀ name ∈ unit.required, IsWord name := by
  obtain ⟨_, _, read, handsOver⟩ := (history.accepted _).mp (List.mem_map_of_mem member)
  obtain ⟨defined, words, ⟨function, rfl, word⟩ | ⟨function, rfl⟩⟩ := handsOver.delivers shadowed
  · exact ⟨.inl ⟨_, defined, word⟩, words⟩
  · exact ⟨.inr defined, words⟩

/-- A released unit defined the symbol of a bare expression. -/
theorem defined_of_released (history : History reasons start count linker)
    (shadowed : start.Shadowed) (member : unit ∈ linker.released) :
    unit.defined = [anonymousSymbol unit.number] := by
  obtain ⟨_, _, function, handsOver⟩ := history.released unit member
  exact (handsOver.delivers shadowed).1

/-- The symbol of a bare expression is used by no other unit. -/
theorem anonymous_apart (history : History reasons start count linker) (shadowed : start.Shadowed)
    (member : other ∈ linker.accepted) {number : Nat} (differ : other.number ≠ number) :
    anonymousSymbol number ∉ other.defined ∧ anonymousSymbol number ∉ other.required := by
  obtain ⟨either, words⟩ := history.defined shadowed member
  constructor
  · intro defines
    rcases either with ⟨name, defined, word⟩ | defined
    · rw [defined, List.mem_singleton] at defines
      exact word.ne_of_anonymous_append _ defines.symm
    · rw [defined, List.mem_singleton] at defines
      exact differ (anonymousSymbol_inj defines).symm
  · exact fun required => (words _ required).ne_of_anonymous_append _ rfl

/-- Two accepted units define nothing in common. -/
theorem apart (history : History reasons start count linker) (shadowed : start.Shadowed)
    {platform : Platform} {next : Nat} (held : Held platform next linker)
    (member : unit ∈ linker.accepted) (memberToo : other ∈ linker.accepted)
    (differ : unit.number ≠ other.number) : ∀ symbol ∈ unit.defined, symbol ∉ other.defined := by
  intro symbol defines definesToo
  obtain ⟨either, _⟩ := history.defined shadowed member
  rcases either with ⟨name, defined, word⟩ | defined
  · obtain rfl : symbol = name := List.mem_singleton.mp (defined ▸ defines)
    -- Units that define a word are not released, and the others define different words.
    have live {here : CompiledUnit} (among : here ∈ linker.accepted) (own : symbol ∈ here.defined) :
        here ∈ linker.units := by
      refine (List.mem_append.mp among).resolve_right fun gone => ?_
      rw [history.defined_of_released shadowed gone, List.mem_singleton] at own
      exact word.ne_of_anonymous_append _ own
    obtain ⟨holds, _, linking⟩ := held
    have same := linking.distinct unit other (live member defines) (live memberToo definesToo)
      symbol defines definesToo
    exact differ (congrArg (·.number) same)
  · rw [defined, List.mem_singleton] at defines
    subst defines
    exact (history.anonymous_apart shadowed memberToo (Ne.symm differ)).1 definesToo

end History

/-- **No symbol is handed to the linker twice.** Whatever the program and whichever units the
machine refuses, after any number of steps the units that the linker has ever taken in are those
that the steps have handed off. No two of them define the same symbol. The unit of a bare
expression defines one symbol, and no other unit defines or calls it. What has been released are
units of bare expressions, so no unit defines or calls what a released one has defined. Functions
that a program names in what is read next have other names than bare expressions have symbols. -/
theorem no_symbol_twice (settings : Settings) (platform : Platform) (operators : Operators)
    (level : Nat) (cursor : Cursor) (reasons : Nat → Option String) (count : Nat) :
    let start := withGenerator settings platform operators level cursor
    ∃ dialogue, stepsRefusing reasons count start = .ok () dialogue ∧
      (∀ unit, unit ∈ dialogue.backend.linker.accepted.map handedOff ↔
        ∃ step < count, ∃ read, HandsOver reasons start step read unit) ∧
      dialogue.backend.linker.accepted.Pairwise
        (fun unit other => ∀ symbol ∈ unit.defined, symbol ∉ other.defined) ∧
      (∀ step < count, ∀ function unit,
        HandsOver reasons start step (.expression function) unit →
          unit.defined = [anonymousSymbol unit.number] ∧
          ∀ other ∈ dialogue.backend.linker.accepted, handedOff other ≠ unit →
            anonymousSymbol unit.number ∉ other.defined ∧
            anonymousSymbol unit.number ∉ other.required) ∧
      (∀ gone ∈ dialogue.backend.linker.released,
        (∃ step < count, ∃ function,
          HandsOver reasons start step (.expression function) (handedOff gone)) ∧
        ∀ symbol ∈ gone.defined, ∀ other ∈ dialogue.backend.linker.accepted,
          handedOff other ≠ handedOff gone →
            symbol ∉ other.defined ∧ symbol ∉ other.required) ∧
      ∀ read, dialogue.Reads read → ∀ name ∈ read.functionNames,
        ∀ number, name ≠ anonymousSymbol number := by
  intro start
  have shadowed : start.Shadowed :=
    shadowed_withGenerator settings platform operators level cursor
  obtain ⟨dialogue, reached, there⟩ := shadowed.steps reasons count
  have history := shadowed.history rfl reached
  obtain ⟨returned, shelves⟩ : dialogue.backend.Booked :=
    (stepsRefusing_keeps Generator.booked_kept (fun _ _ booked => booked) reasons count).of_ok
      reached ⟨[], .initial 1⟩
  have numbers := shelves.numbers
  have differ {unit other : CompiledUnit} (member : unit ∈ dialogue.backend.linker.accepted)
      (memberToo : other ∈ dialogue.backend.linker.accepted)
      (apart : handedOff other ≠ handedOff unit) : other.number ≠ unit.number := fun same =>
    apart (congrArg handedOff (List.inj_on_of_nodup_map numbers memberToo member same))
  refine ⟨dialogue, reached, history.accepted, ?_, ?_, ?_, ?_⟩
  · refine (List.pairwise_map.mp numbers).imp_of_mem fun member memberToo different => ?_
    exact history.apart shadowed there.held member memberToo different
  · intro step earlier function unit handsOver
    refine ⟨(handsOver.delivers shadowed).1, fun other member apart => ?_⟩
    obtain ⟨here, among, rfl⟩ :=
      List.mem_map.mp ((history.accepted unit).mpr ⟨step, earlier, _, handsOver⟩)
    have different := differ among member apart
    exact history.anonymous_apart shadowed member different
  · intro gone member
    refine ⟨history.released gone member, fun symbol defines other memberToo apart => ?_⟩
    rw [history.defined_of_released shadowed member, List.mem_singleton] at defines
    subst defines
    exact history.anonymous_apart shadowed memberToo
      (differ (List.mem_append_right _ member) memberToo apart)
  · intro read reads name member number
    exact (reads.isWord name member).ne_of_anonymous_append _

end Dialogue

end Reckon
