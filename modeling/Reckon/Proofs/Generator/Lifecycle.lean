import Mathlib.Data.List.Induction
import Reckon.Platform.Doubles
import Reckon.Proofs.Generator.Blocks
import Reckon.Proofs.Generator.Requests
import Reckon.Proofs.Linker.Shelves

/-!
# The life of units

A unit that a hand-off returns is pending at first. It may be materialized, and from either
state it may be given up, once. All the time it stands in the list that its state names. The
names that count as defined are those of the bodies in the open module that are complete and
those that the pending and the materialized units define. A body that is broken off by a
misuse of the generator, and not refused, leaves an unfinished block in the open module, which
does not count.
-/

namespace Reckon

open Reckon.Action Instruction

namespace Generator

/-- What may be demanded of a generator: a request; a body for a function of the open module; or
that from now on units are refused for a reason, or are not refused. -/
inductive Demand where
  | request (request : Request)
  | defineBody (session : Session) (symbol : String) (body : Node) (parameters : List String)
  | refuse (reason? : Option String)

/-- Does what is demanded, as far as it can be done. -/
def meet (platform : Platform) (generator : Generator) : Demand → Generator
  | .request request => perform platform generator request
  | .defineBody session symbol body parameters =>
    after (defineBody session ⟨generator.current.number, symbol⟩ body parameters) generator
  | .refuse reason? => { generator with refusal := reason? }

/-- Does what is demanded, one demand after the other. -/
def meetAll (platform : Platform) (demands : List Demand) (generator : Generator) : Generator :=
  demands.foldl (meet platform) generator

/-- The number of the unit that a demand returns, if it is a hand-off and the module is accepted. -/
def returned? (generator : Generator) : Demand → Option Nat
  | .request .handOff =>
    match handOff generator with
    | .ok number _ => some number
    | .error .. => none
  | _ => none

/-- The numbers of the units that the demands return. -/
def returned (platform : Platform) : List Demand → Generator → List Nat
  | [], _ => []
  | demand :: rest, generator =>
    (generator.returned? demand).toList ++ returned platform rest (meet platform generator demand)

/-- The demand is a body for the function, and is broken off by a fault that is no refusal. -/
def BreaksOff (generator : Generator) (demand : Demand) (symbol : String) : Prop :=
  match demand with
  | .request (.define session definition) =>
    symbol = generator.current.symbol definition.prototype.name ∧ ∃ fault last,
      Reckon.define session definition generator = .error fault last ∧ ¬ fault.IsCompile
  | .defineBody session name body parameters =>
    symbol = name ∧ ∃ fault last,
      defineBody session ⟨generator.current.number, name⟩ body parameters generator =
        .error fault last ∧ ¬ fault.IsCompile
  | _ => False

/-- One of the demands was. -/
def BrokenOff (platform : Platform) (demands : List Demand) (generator : Generator)
    (symbol : String) : Prop :=
  ∃ earlier demand later, demands = earlier ++ demand :: later ∧
    BreaksOff (meetAll platform earlier generator) demand symbol

/-- The last demand is met after all the others. -/
theorem meetAll_append_singleton (platform : Platform) (demands : List Demand) (demand : Demand)
    (generator : Generator) :
    meetAll platform (demands ++ [demand]) generator =
      meet platform (meetAll platform demands generator) demand := by
  simp only [meetAll, List.foldl_append, List.foldl_cons, List.foldl_nil]

/-- What the last demand returns comes behind what the others returned. -/
theorem returned_append_singleton (platform : Platform) (demands : List Demand) (demand : Demand)
    (generator : Generator) :
    returned platform (demands ++ [demand]) generator =
      returned platform demands generator ++
        ((meetAll platform demands generator).returned? demand).toList := by
  induction demands generalizing generator with
  | nil => simp [returned, meetAll]
  | cons first rest inductionHypothesis =>
    rw [List.cons_append, returned, inductionHypothesis, returned, List.append_assoc]
    rfl

/-! ## What a demand comes to -/

/-- The generator after its open module is handed off and refused. -/
def dismissed (generator : Generator) : Generator :=
  { generator with
    current := .opened (generator.current.number + 1)
    closed := generator.closed ++ [generator.current]
    defined := generator.defined.without generator.current.defined }

/-- What a demand can come to, with the number that it returns if it returns one. -/
inductive Effect (platform : Platform) (before : Generator) (demand : Demand) :
    Option Nat → Generator → Prop
  | quiet {after : Generator} (announces : Announces before after) :
    Effect platform before demand none after
  | finished {symbol : String} {block : Block} {after : Generator}
    (gains : Gains before symbol block after) (returns : block.returned.isSome = true)
    (defined : after.defined = before.defined.insert symbol) :
    Effect platform before demand none after
  | brokenOff {symbol : String} {block : Block} {after : Generator}
    (gains : Gains before symbol block after) (unfinished : block.returned = none)
    (defined : after.defined = before.defined) (breaks : BreaksOff before demand symbol) :
    Effect platform before demand none after
  | delivered (complete : ∀ symbol block, before.current.block? symbol = some block →
      block.returned.isSome = true) :
    Effect platform before demand (some before.current.number) before.delivered
  | dismissed : Effect platform before demand none before.dismissed
  | materialized (names : List String) : Effect platform before demand none
      { before with linker := (before.linker.materialize platform).2.withHostSymbols names }
  | released (number : Nat) : Effect platform before demand none
      (after (release number) before)

/-- Handing the open module off delivers it if its blocks all return, or dismisses it. -/
theorem handOff_ends {generator : Generator} (filed : generator.current.Filed) :
    Ensures handOff generator fun
      | .ok number last => number = generator.current.number ∧ last = generator.delivered ∧
        ∀ symbol block, generator.current.block? symbol = some block →
          block.returned.isSome = true
      | .error _ last => last = generator.dismissed := by
  unfold handOff
  apply ensures_get
  dsimp only
  cases refused : generator.refusalOf? generator.current with
  | some reason => exact rfl
  | none =>
    refine ⟨rfl, rfl, fun symbol block found => ?_⟩
    have complete : incompleteLine? 4 generator.current.routines.values = none := by
      unfold refusalOf? at refused
      split at refused
      · cases refused
      · exact Option.map_eq_none_iff.mp refused
    obtain ⟨routine, member, _, held⟩ := filed.block?_eq_some_iff.mp found
    exact Option.isSome_iff_ne_none.mpr
      (incompleteLine?_eq_none_iff.mp complete routine member block held)

/-- A compilation comes to one of these. -/
theorem effect_of_compiles {α : Type} {before : Generator} {demand : Demand} {symbol : String}
    (platform : Platform) {action : Action Generator α}
    (compiles : Ensures action before (Compiles before symbol))
    (breaks : ∀ fault last, action before = .error fault last → ¬ fault.IsCompile →
      BreaksOff before demand symbol) :
    Effect platform before demand none (after action before) := by
  unfold Ensures at compiles
  unfold after
  cases ended : action before with
  | ok value last =>
    rw [ended] at compiles
    rcases compiles with announces | ⟨block, gains, returns, defined⟩
    · exact .quiet announces
    · exact .finished gains returns defined
  | error fault last =>
    rw [ended] at compiles
    rcases compiles with announces | ⟨block, gains, unfinished, defined, misuse⟩
    · exact .quiet announces
    · exact .brokenOff gains unfinished defined (breaks fault last ended misuse)

/-- **Every demand comes to one of these.** -/
theorem meet_effect {generator : Generator} (filed : generator.current.Filed) (platform : Platform)
    (demand : Demand) :
    Effect platform generator demand (generator.returned? demand)
      (meet platform generator demand) := by
  cases demand with
  | refuse reason? => exact .quiet ⟨rfl, rfl, rfl, fun _ => rfl, filed⟩
  | defineBody session symbol body parameters =>
    apply effect_of_compiles platform (defineBody_compiles filed session symbol body parameters)
    exact fun fault last ended misuse => ⟨rfl, fault, last, ended, misuse⟩
  | request request =>
    cases request with
    | declare session prototype =>
      exact .quiet ((declare_announces generator session prototype).holds_after (.refl filed))
    | define session definition =>
      apply effect_of_compiles platform (define_compiles filed session definition)
      exact fun fault last ended misuse => ⟨rfl, fault, last, ended, misuse⟩
    | handOff =>
      have ends := handOff_ends filed
      unfold Ensures at ends
      change Effect platform generator _ (match handOff generator with
        | .ok number _ => some number
        | .error .. => none) (after handOff generator)
      unfold after
      cases ended : handOff generator with
      | ok number last =>
        rw [ended] at ends
        obtain ⟨rfl, rfl, complete⟩ := ends
        exact .delivered complete
      | error fault last =>
        rw [ended] at ends
        subst ends
        exact .dismissed
    | execute handle arguments =>
      change Effect platform generator _ none (after (execute platform handle arguments) generator)
      rcases after_execute platform handle arguments generator with same | ⟨names, same⟩
      · rw [same]
        exact .quiet (.refl filed)
      · rw [same]
        exact .materialized names
    | materialize => exact .materialized []
    | release number => exact .released number

/-! ## The books -/

/-- The units stand where their states belong. The names that count as defined are those with a
body, complete, in the open module, and those that live units define; no two of these define the
same name. What is incomplete is excused. -/
structure Ledger (excused : String → Prop) (returned : List Nat) (generator : Generator) :
    Prop where
  filed : generator.current.Filed
  shelves : generator.linker.Shelves returned generator.current.number
  told (name : String) : name ∈ generator.defined ↔
    generator.current.Finishes name ∨ ∃ number, generator.linker.Defines number name
  apart (name : String) (number : Nat) (defines : generator.linker.Defines number name) :
    generator.current.block? name = none
  sole (name : String) (number other : Nat) (defines : generator.linker.Defines number name)
    (definesToo : generator.linker.Defines other name) : number = other
  complete (name : String) (block : Block) (held : generator.current.block? name = some block) :
    block.returned.isSome = true ∨ excused name

namespace Ledger

variable {platform : Platform} {excused : String → Prop} {returned : List Nat}
  {before after : Generator} {demand : Demand}

/-- At the beginning nothing has been returned and nothing counts as defined. -/
theorem initial (excused : String → Prop) (level : Nat) (refusal : Option String) :
    Ledger excused [] (.initial level refusal) := by
  have none (number : Nat) (name : String) : ¬ Linker.initial.Defines number name := by
    rintro ⟨unit, member, _⟩
    cases member
  constructor
  case filed => exact .opened 1
  case shelves => exact .initial _
  case told =>
    intro name
    constructor
    · exact nofun
    · rintro (⟨block, held, _⟩ | ⟨number, defines⟩)
      · cases held
      · exact (none number name defines).elim
  case apart => exact fun name number defines => (none number name defines).elim
  case sole => exact fun name number _ defines => (none number name defines).elim
  case complete => exact fun name block held => by cases held

/-- More may be excused. -/
theorem weaken (ledger : Ledger excused returned before) {more : String → Prop}
    (among : ∀ name, excused name → more name) : Ledger more returned before :=
  { ledger with
    complete := fun name block held => (ledger.complete name block held).imp_right (among name) }

/-- Declarations are not booked. -/
theorem announces (ledger : Ledger excused returned before) (announces : Announces before after) :
    Ledger excused returned after := by
  have finishes (name : String) : after.current.Finishes name ↔ before.current.Finishes name := by
    simp only [Module.Finishes, announces.blocks]
  constructor
  case filed => exact announces.filed
  case shelves =>
    rw [announces.linker, announces.number]
    exact ledger.shelves
  case told =>
    intro name
    rw [announces.defined, announces.linker, finishes]
    exact ledger.told name
  case apart =>
    intro name number defines
    rw [announces.linker] at defines
    rw [announces.blocks]
    exact ledger.apart name number defines
  case sole =>
    rw [announces.linker]
    exact ledger.sole
  case complete =>
    intro name block held
    rw [announces.blocks] at held
    exact ledger.complete name block held

/-- A body is booked if it is complete, and excused if it is not. -/
theorem gains (ledger : Ledger excused returned before) {symbol : String} {block : Block}
    (gains : Gains before symbol block after)
    (booked : ∀ name, name ∈ after.defined ↔
      name ∈ before.defined ∨ block.returned.isSome = true ∧ name = symbol) :
    Ledger (fun name => excused name ∨ block.returned.isSome = false ∧ name = symbol) returned
      after := by
  have finishes (name : String) : after.current.Finishes name ↔
      before.current.Finishes name ∨ block.returned.isSome = true ∧ name = symbol := by
    simp only [Module.Finishes, gains.blocks]
    by_cases same : name = symbol
    · subst same
      simp [gains.bare]
    · simp [same]
  constructor
  case filed => exact gains.filed
  case shelves =>
    rw [gains.linker, gains.number]
    exact ledger.shelves
  case told =>
    intro name
    rw [booked, gains.linker, finishes, ledger.told, or_right_comm]
  case apart =>
    intro name number defines
    rw [gains.linker] at defines
    rw [gains.blocks, if_neg, ledger.apart name number defines]
    rintro rfl
    exact gains.new ((ledger.told _).mpr (.inr ⟨number, defines⟩))
  case sole =>
    rw [gains.linker]
    exact ledger.sole
  case complete =>
    intro name held found
    rw [gains.blocks] at found
    split at found
    · rename_i same
      cases found
      cases returns : block.returned.isSome with
      | true => exact .inl rfl
      | false => exact .inr (.inr ⟨rfl, same⟩)
    · exact (ledger.complete name held found).imp_right .inl

/-- A module that is delivered takes its names with it into a unit. -/
theorem delivered (ledger : Ledger excused returned before)
    (complete : ∀ symbol block, before.current.block? symbol = some block →
      block.returned.isSome = true) :
    Ledger excused (returned ++ [before.current.number]) before.delivered := by
  have finishes (name : String) : before.current.Finishes name ↔
      ∃ block, before.current.block? name = some block := by
    constructor
    · exact fun ⟨block, found, _⟩ => ⟨block, found⟩
    · exact fun ⟨block, found⟩ => ⟨block, found, complete name block found⟩
  have defines (number : Nat) (name : String) : before.delivered.linker.Defines number name ↔
      before.linker.Defines number name ∨
        before.current.number = number ∧ before.current.Finishes name := by
    rw [Generator.delivered, Linker.defines_add, ledger.filed.mem_defined_ofRoutines_iff, finishes]
    rfl
  constructor
  case filed => exact .opened _
  case shelves => exact ledger.shelves.add rfl rfl
  case told =>
    intro name
    have opened : ¬ before.delivered.current.Finishes name := Module.not_finishes_opened _ _
    change name ∈ before.defined ↔ _
    simp only [ledger.told, opened, defines, exists_or, exists_and_right, exists_eq', true_and,
      false_or]
    exact or_comm
  case apart => exact fun _ _ _ => rfl
  case sole =>
    -- What the module defines no unit defined.
    have new (name : String) (number : Nat) (finishes : before.current.Finishes name) :
        ¬ before.linker.Defines number name := by
      intro old
      obtain ⟨block, held, _⟩ := finishes
      rw [ledger.apart name number old] at held
      cases held
    intro name number other first second
    rcases (defines ..).mp first with old | ⟨own, finishes⟩
    · rcases (defines ..).mp second with oldToo | ⟨_, finishes⟩
      · exact ledger.sole name number other old oldToo
      · exact (new name number finishes old).elim
    · rcases (defines ..).mp second with oldToo | ⟨ownToo, _⟩
      · exact (new name other finishes oldToo).elim
      · exact own.symm.trans ownToo
  case complete => exact fun name block held => by cases held

/-- A module that is refused takes its names away. -/
theorem dismissed (ledger : Ledger excused returned before) :
    Ledger excused returned before.dismissed := by
  constructor
  case filed => exact .opened _
  case shelves => exact ledger.shelves.skip
  case told =>
    intro name
    have opened : ¬ before.dismissed.current.Finishes name := Module.not_finishes_opened _ _
    change name ∈ before.defined.without before.current.defined ↔
      _ ∨ ∃ number, before.linker.Defines number name
    rw [NameSet.mem_without, ledger.told, ledger.filed.mem_defined_iff]
    constructor
    · rintro ⟨⟨block, held, _⟩ | live, absent⟩
      · exact (absent ⟨block, held⟩).elim
      · exact .inr live
    · rintro (finishes | ⟨number, defines⟩)
      · exact (opened finishes).elim
      · refine ⟨.inr ⟨number, defines⟩, ?_⟩
        rw [ledger.apart name number defines]
        exact nofun
  case apart => exact fun _ _ _ => rfl
  case sole => exact ledger.sole
  case complete => exact fun name block held => by cases held

/-- Units that are materialized define what they defined. -/
theorem materialized (ledger : Ledger excused returned before) (platform : Platform)
    (names : List String) :
    Ledger excused returned
      { before with linker := (before.linker.materialize platform).2.withHostSymbols names } := by
  have defines (number : Nat) (name : String) :
      ((before.linker.materialize platform).2.withHostSymbols names).Defines number name ↔
        before.linker.Defines number name :=
    ledger.shelves.numbered.defines_materialize platform number name
  constructor
  case filed => exact ledger.filed
  case shelves => exact (ledger.shelves.materialize platform).withHostSymbols names
  case told =>
    intro name
    simp only [defines]
    exact ledger.told name
  case apart => exact fun name number there => ledger.apart name number ((defines ..).mp there)
  case sole =>
    intro name number other there thereToo
    exact ledger.sole name number other ((defines ..).mp there) ((defines ..).mp thereToo)
  case complete => exact ledger.complete

/-- A unit of the number is live and goes with the names that it defines, or nothing happens. -/
theorem release_cases (ledger : Ledger excused returned before) (number : Nat) :
    (∃ unit ∈ before.linker.units, unit.number = number ∧
      release number before = .ok () { before with
        linker := before.linker.giveUp unit, defined := before.defined.without unit.defined }) ∨
    release number before = .error (.run (.alreadyReleased (unitName number))) before := by
  rcases ledger.shelves.release_cases number with ⟨unit, live, own, done⟩ | failed
  · exact .inl ⟨unit, live, own, release_ok done⟩
  · exact .inr (release_error failed)

/-- A unit that is given up takes its names away. -/
theorem giveUp (ledger : Ledger excused returned before) {unit : CompiledUnit}
    (live : unit ∈ before.linker.units) :
    Ledger excused returned { before with
      linker := before.linker.giveUp unit, defined := before.defined.without unit.defined } := by
  have defines (number : Nat) (name : String) : (before.linker.giveUp unit).Defines number name ↔
      before.linker.Defines number name ∧ number ≠ unit.number :=
    Linker.defines_giveUp ..
  have own (name : String) (member : name ∈ unit.defined) :
      before.linker.Defines unit.number name := ⟨unit, live, rfl, member⟩
  constructor
  case filed => exact ledger.filed
  case shelves => exact ledger.shelves.giveUp live
  case told =>
    intro name
    rw [NameSet.mem_without, ledger.told]
    constructor
    · rintro ⟨finishes | ⟨number, other, among, rfl, there⟩, absent⟩
      · exact .inl finishes
      · refine .inr ⟨_, (defines ..).mpr ⟨⟨other, among, rfl, there⟩, fun same => absent ?_⟩⟩
        obtain rfl := ledger.shelves.numbered other among unit live same
        exact there
    · rintro (⟨block, held, returns⟩ | ⟨number, there⟩)
      · refine ⟨.inl ⟨block, held, returns⟩, fun member => ?_⟩
        rw [ledger.apart name _ (own name member)] at held
        cases held
      · obtain ⟨older, apart⟩ := (defines ..).mp there
        exact ⟨.inr ⟨number, older⟩, fun member =>
          apart (ledger.sole name _ _ older (own name member))⟩
  case apart => exact fun name number there => ledger.apart name number ((defines ..).mp there).1
  case sole =>
    intro name number other there thereToo
    exact ledger.sole name number other ((defines ..).mp there).1 ((defines ..).mp thereToo).1
  case complete => exact ledger.complete

/-- **A demand keeps the books**, up to what it breaks off. -/
theorem effect (ledger : Ledger excused returned before) {given? : Option Nat}
    (effect : Effect platform before demand given? after) :
    Ledger (fun name => excused name ∨ BreaksOff before demand name) (returned ++ given?.toList)
      after := by
  have kept {after : Generator} (ledger : Ledger excused returned after) :
      Ledger (fun name => excused name ∨ BreaksOff before demand name)
        (returned ++ (none : Option Nat).toList) after := by
    rw [Option.toList_none, List.append_nil]
    exact ledger.weaken fun _ => .inl
  cases effect with
  | quiet announces => exact kept (ledger.announces announces)
  | finished gains returns defined =>
    refine kept ((ledger.gains gains ?_).weaken ?_)
    · simp [defined, returns]
    · simp [returns]
  | brokenOff gains unfinished defined breaks =>
    rw [Option.toList_none, List.append_nil]
    refine (ledger.gains gains ?_).weaken ?_
    · simp [defined, unfinished]
    · rintro name (past | ⟨_, rfl⟩)
      · exact .inl past
      · exact .inr breaks
  | delivered complete => exact (ledger.delivered complete).weaken fun _ => .inl
  | dismissed => exact kept ledger.dismissed
  | materialized names => exact kept (ledger.materialized platform names)
  | released number =>
    apply kept
    rcases ledger.release_cases number with ⟨unit, live, _, done⟩ | failed
    · rw [Action.after, done]
      exact ledger.giveUp live
    · rw [Action.after, failed]
      exact ledger

/-- A demand leaves a unit in its state, or moves it on. -/
theorem moves (ledger : Ledger excused returned before) {given? : Option Nat}
    (effect : Effect platform before demand given? after) {number : Nat}
    (member : number ∈ returned) {state : UnitState}
    (stands : before.linker.Stands number state) :
    ∃ next, after.linker.Stands number next ∧ state.Moves next := by
  cases effect with
  | quiet announces => exact ⟨state, announces.linker ▸ stands, .stays state⟩
  | finished gains => exact ⟨state, gains.linker ▸ stands, .stays state⟩
  | brokenOff gains => exact ⟨state, gains.linker ▸ stands, .stays state⟩
  | delivered =>
    have less := ledger.shelves.earlier number member
    exact ⟨state, stands.add (Nat.ne_of_gt less), .stays state⟩
  | dismissed => exact ⟨state, stands, .stays state⟩
  | materialized names =>
    obtain ⟨next, there, moves⟩ := stands.materialize platform
    exact ⟨next, there.withHostSymbols names, moves⟩
  | released released =>
    rcases ledger.release_cases released with ⟨unit, live, own, done⟩ | failed
    · rw [Action.after, done]
      by_cases same : unit.number = number
      · obtain ⟨place, there, among⟩ := (Linker.mem_units_iff ..).mp live
        obtain rfl := stands.place_eq among same
        exact ⟨.released, stands.giveUp there same, .goes there⟩
      · exact ⟨state, stands.giveUp_other same, .stays state⟩
    · rw [Action.after, failed]
      exact ⟨state, stands, .stays state⟩

/-- After any demands the books are kept, up to what was broken off. -/
theorem meetAll (platform : Platform) (level : Nat) (refusal : Option String)
    (demands : List Demand) :
    Ledger (BrokenOff platform demands (.initial level refusal))
      (Generator.returned platform demands (.initial level refusal))
      (Generator.meetAll platform demands (.initial level refusal)) := by
  induction demands using List.reverseRecOn with
  | nil => exact .initial _ level refusal
  | append_singleton earlier demand inductionHypothesis =>
    rw [meetAll_append_singleton, returned_append_singleton]
    have effect := meet_effect inductionHypothesis.filed platform demand
    refine (inductionHypothesis.effect effect).weaken fun name => ?_
    rintro (⟨first, breaking, rest, rfl, breaks⟩ | breaks)
    · exact ⟨first, breaking, rest ++ [demand], by simp, breaks⟩
    · exact ⟨earlier, demand, [], rfl, breaks⟩

end Ledger

/-- **Units stand where their states belong, and the names of live bodies count as defined.**
Whatever has been demanded of a generator: no number was returned twice, and the unit of each
stands in the one list that its state names; whatever is demanded next leaves it in its state or
moves it on; a released unit cannot be given up again, and the attempt changes nothing. The names
that count as defined are those of the complete bodies in the open module and those that the
pending and the materialized units define, and a body in the open module is complete unless it was
broken off by a fault that is no refusal. -/
theorem units_stand_where_their_states_belong (platform : Platform) (level : Nat)
    (refusal : Option String) (demands : List Demand) :
    let generator := meetAll platform demands (.initial level refusal)
    let numbers := returned platform demands (.initial level refusal)
    numbers.Nodup ∧
    (∀ number ∈ numbers, ∃ state, generator.linker.Stands number state) ∧
    (∀ demand, ∀ number ∈ numbers, ∀ state, generator.linker.Stands number state →
      ∃ next, (meet platform generator demand).linker.Stands number next ∧ state.Moves next) ∧
    (∀ number ∈ numbers, generator.linker.Stands number .released →
      ∃ error, Backend.release number generator = .error (.run error) generator ∧
        error.code = "E002") ∧
    (∀ name, name ∈ Backend.defined generator ↔ generator.current.Finishes name ∨
      ∃ unit ∈ generator.linker.pending ++ generator.linker.materialized, name ∈ unit.defined) ∧
    ∀ name ∈ generator.current.defined, generator.current.Finishes name ∨
      BrokenOff platform demands (.initial level refusal) name := by
  intro generator numbers
  have ledger := Ledger.meetAll platform level refusal demands
  refine ⟨ledger.shelves.once, ledger.shelves.stands, ?_, ?_, ?_, ?_⟩
  · intro demand number member state stands
    exact ledger.moves (meet_effect ledger.filed platform demand) member stands
  · intro number _ stands
    refine ⟨.alreadyReleased (unitName number), ?_, rfl⟩
    rcases ledger.release_cases number with ⟨unit, live, own, _⟩ | failed
    · obtain ⟨place, there, member⟩ := (Linker.mem_units_iff ..).mp live
      exact (there (stands.place_eq member own)).elim
    · exact failed
  · intro name
    refine (ledger.told name).trans (or_congr_right ?_)
    constructor
    · rintro ⟨_, unit, live, _, defines⟩
      exact ⟨unit, live, defines⟩
    · rintro ⟨unit, live, defines⟩
      exact ⟨unit.number, unit, live, rfl, defines⟩
  · intro name member
    obtain ⟨block, held⟩ := (ledger.filed.mem_defined_iff name).mp member
    exact (ledger.complete name block held).imp_left fun returns => ⟨block, held, returns⟩

/-- A function whose body is broken off at a misplaced header has a block and does not count as
defined. -/
theorem broken_off_body_does_not_count :
    let body : Node := .binary "+" (.number 1 none) (.prototype ⟨"q", ["z"], none⟩) none
    let definition : Definition := ⟨⟨"f", [], none⟩, body, none⟩
    let generator :=
      meetAll .doubles [.request (.define .fresh definition)] (.initial 2 none)
    "f" ∈ generator.current.defined ∧ "f" ∉ Backend.defined generator := by
  decide +kernel

end Generator

end Reckon
