import Reckon.Platform.Doubles
import Reckon.Proofs.Generator.LiveCode
import Reckon.Proofs.Linker.Timing
import Reckon.Proofs.Pairing.Expressions
import Reckon.Proofs.Pairing.Images

/-!
# However functions are grouped

The evaluator looks at the functions that a call comes to. The linker looks at whole units
before anything runs: a unit is loaded if every call in it can be answered, whichever of
its functions is wanted. Functions may share a unit with any others, be declared in one and
defined in another, or lose their neighbours to a release. If a function fails for want of
another, it fails alike on both sides, and if it runs in the image, it has the value that it
has in the evaluator. The one difference is that a function which could run is held back by
a call that it never makes, but another function of its unit, or of a unit that its unit needs.
-/

namespace Reckon

open Reckon.Action Instruction
open Evaluator (CodeUnit)

namespace Linker

/-- When nothing is loaded yet, the greatest set of pending units that answers its own calls is
loaded, as one batch. -/
theorem materialize_first (platform : Platform) {linker : Linker}
    (materialized : linker.materialized = []) (image : linker.image = []) :
    ∃ ready ⊆ linker.pending, Closed platform ready ∧
      (∀ chosen ⊆ linker.pending, Closed platform chosen → chosen ⊆ ready) ∧
      (linker.materialize platform).2.materialized = ready.map loadedUnit ∧
      (linker.materialize platform).2.image =
        (ready.map loadedUnit).map ({ unit := ·, batch := linker.batches }) := by
  obtain ⟨ready, names, sublist, answered, greatest, same⟩ := materialize_eq platform linker
  have nothing : linker.liveDefinitions = [] := by
    rw [liveDefinitions, materialized]
    rfl
  simp only [offered, nothing, List.nil_append] at answered greatest
  refine ⟨ready, sublist.subset, answered, greatest, ?_⟩
  rw [same]
  split
  case isTrue none =>
    rw [List.isEmpty_iff.mp none]
    exact ⟨materialized, image⟩
  case isFalse =>
    simp only [load, withHostSymbols, materialized, image, List.nil_append, and_self]

/-- A pending unit that is left out leads to a function that nobody answers. -/
theorem leads_unanswered {platform : Platform} {pending ready : List CompiledUnit}
    (greatest : ∀ chosen ⊆ pending, Closed platform chosen → chosen ⊆ ready)
    {unit : CompiledUnit} (member : unit ∈ pending) (left : unit ∉ ready) {symbol : String}
    (defines : symbol ∈ unit.defined) :
    ∃ needed, Leads pending symbol needed ∧ (∀ other ∈ pending, needed ∉ other.defined) ∧
      platform.provides needed = false := by
  classical
  by_contra unanswered
  -- Otherwise the units that the function leads to answer each other, so they are ready.
  let involved := pending.filter fun other =>
    symbol ∈ other.defined ∨ ∃ middle, Leads pending symbol middle ∧ middle ∈ other.defined
  have among : involved ⊆ pending := fun other there => (List.mem_filter.mp there).1
  refine left (greatest involved among ?_ ?_)
  · intro other there name required
    obtain ⟨present, concerned⟩ := List.mem_filter.mp there
    have leads : Leads pending symbol name := by
      rcases of_decide_eq_true concerned with own | ⟨middle, leads, own⟩
      · exact .directly present own required
      · exact .onward leads present own required
    by_contra neither
    obtain ⟨absent, foreign⟩ := not_or.mp neither
    refine unanswered ⟨name, leads, fun definer waiting own => ?_, by simpa using foreign⟩
    exact absent (List.mem_flatMap.mpr
      ⟨definer, List.mem_filter.mpr ⟨waiting, decide_eq_true (.inr ⟨name, leads, own⟩)⟩, own⟩)
  · exact List.mem_filter.mpr ⟨member, decide_eq_true (.inl defines)⟩

end Linker

/-! ## The first materialization -/

/-- What the linker of the generator loads when nothing is loaded yet. -/
structure Readies (platform : Platform) (evaluator : Evaluator) (generator : Generator)
    (ready : List CompiledUnit) : Prop where
  among : ready ⊆ generator.linker.pending
  greatest : ∀ chosen ⊆ generator.linker.pending, Linker.Closed platform chosen → chosen ⊆ ready
  live : (generator.linker.materialize platform).2.liveDefinitions = ready.flatMap (·.defined)
  imaged : (generator.linker.materialize platform).2.Imaged
  presents : Presents platform evaluator (generator.linker.materialize platform).2.image

/-- Loading changes nothing that is delivered. -/
theorem Delivers.loadedUnit {unit : CodeUnit} {compiled : CompiledUnit}
    (delivers : Delivers unit compiled) : Delivers unit (Linker.loadedUnit compiled) := by
  obtain ⟨number, once, resolved, rendered, defined, required⟩ := delivers
  exact ⟨number, once, resolved, rendered, defined, required⟩

namespace Conjoined

variable {evaluator : Evaluator} {generator : Generator} {unit : CodeUnit}
  {name : String} {arity : Nat} {body : Node} {code : Code}

/-- The units that are loaded deliver live units, and their calls are answered. -/
theorem readies (conjoined : Conjoined evaluator generator) (platform : Platform) :
    ∃ ready, Readies platform evaluator generator ready := by
  obtain ⟨ready, among, closed, greatest, materialized, image⟩ :=
    Linker.materialize_first platform conjoined.materialized conjoined.image
  refine ⟨ready, among, greatest, ?_, ?_, ?_, ?_⟩
  · rw [Linker.liveDefinitions, materialized, List.flatMap_map]
    rfl
  · intro unit member
    rw [materialized] at member
    rw [image]
    exact ⟨_, List.mem_map_of_mem member, rfl⟩
  · intro position loaded there
    rw [image] at there
    obtain ⟨_, member, rfl⟩ := List.mem_map.mp (List.mem_of_getElem? there)
    obtain ⟨compiled, isReady, rfl⟩ := List.mem_map.mp member
    obtain ⟨unit, live, module, _, twin, rfl⟩ := conjoined.waiting compiled (among isReady)
    exact ⟨unit, live, (twin.delivers _).loadedUnit⟩
  · intro position loaded there name required
    rw [image] at there ⊢
    obtain ⟨_, member, rfl⟩ := List.mem_map.mp (List.mem_of_getElem? there)
    obtain ⟨compiled, isReady, rfl⟩ := List.mem_map.mp member
    refine (closed compiled isReady name required).imp_left fun answered => ?_
    obtain ⟨definer, present, defines⟩ := List.mem_flatMap.mp answered
    obtain ⟨target, found⟩ := List.mem_iff_getElem?.mp
      (List.mem_map_of_mem (List.mem_map_of_mem present))
    exact Linker.bound?_isSome there found defines (.inr rfl)

/-! ## The handles of a function -/

/-- A live unit is found by its number. -/
theorem function?_eq (conjoined : Conjoined evaluator generator) (live : unit ∈ evaluator.live)
    (name : String) : evaluator.function? ⟨unit.number, name⟩ = unit.functions.get? name := by
  have found : evaluator.unit? unit.number = some unit := by
    have among : unit ∈ evaluator.units := List.mem_cons_of_mem _ live
    have first : evaluator.units.find? (·.number = unit.number) = some unit :=
      find?_eq_of_sole among rfl fun _ amongToo same =>
        conjoined.numbered.eq_of_number amongToo among same
    change (evaluator.units ++ evaluator.released).find? _ = _
    rw [List.find?_append, first]
    rfl
  rw [Evaluator.function?, found]
  rfl

/-- The handle on the other side names a routine with as many parameters. -/
theorem arityOf_eq (conjoined : Conjoined evaluator generator) (live : unit ∈ evaluator.live)
    (carries : unit.Carries name arity body code) :
    generator.arityOf (Handle.counterpart ⟨unit.number, name⟩) = arity := by
  obtain ⟨module, closed, twin, _⟩ := conjoined.delivered unit live
  obtain ⟨routine, there, renders⟩ := (twin.rendition name arity body code carries).routine
  have number : module.number = unit.number := twin.alongside.number.symm
  have found : generator.module? unit.number = some module := by
    refine find?_eq_of_sole (List.mem_cons_of_mem _ closed) number fun other amongToo own => ?_
    rcases List.mem_cons.mp amongToo with rfl | closedToo
    · have less := conjoined.earlierToo module closed
      omega
    · exact List.inj_on_of_nodup_map conjoined.once closedToo closed (own.trans number.symm)
  have routine? : generator.routine? (Handle.counterpart ⟨unit.number, name⟩) = some routine := by
    rw [Generator.routine?, Handle.counterpart]
    dsimp only
    rw [found, ← number, ← module.symbol_eq]
    exact there
  rw [Generator.arityOf, routine?]
  exact renders.parameters

/-! ## Both executed -/

/-- A function with a live body ends in the evaluator as the first thing in its way says. -/
theorem execute_meets (conjoined : Conjoined evaluator generator) (live : unit ∈ evaluator.live)
    (carries : unit.Carries name arity body code) {arguments : List Float}
    (given : arguments.length = arity)
    (fits : ∀ call, evaluator.callGraph.Reaches body.calls call → ∀ arity inner,
      evaluator.callGraph call.1 = some (arity, inner) → call.2 = arity) (platform : Platform) :
    (∃ value, evaluator.callGraph.first? platform.provides platform.depth body.calls = none ∧
      code.run platform (Evaluator.argument arguments)
        (Evaluator.call platform evaluator platform.depth) = .ok value ∧
      Comes (Evaluator.execute platform ⟨unit.number, name⟩ arguments) evaluator (.ok value)
        evaluator) ∨
    ∃ hindrance,
      evaluator.callGraph.first? platform.provides platform.depth body.calls =
        some hindrance ∧
      Comes (Evaluator.execute platform ⟨unit.number, name⟩ arguments) evaluator
        (.error (hindrance.error name)) evaluator := by
  have resolved := conjoined.resolved live carries
  have follows : evaluator.Follows evaluator.callGraph body.calls :=
    ⟨fun call _ => conjoined.callGraph_eq call.1, fits⟩
  have meets : Evaluator.Meets (code.run platform (Evaluator.argument arguments)
      (Evaluator.call platform evaluator platform.depth))
      (evaluator.callGraph.first? platform.provides platform.depth body.calls) := by
    rw [← resolved.calls] at follows ⊢
    exact follows.run_meets conjoined.readsArguments (given ▸ resolved.reads) platform _
  obtain ⟨prototype, there, own⟩ := carries
  have runs := Evaluator.execute_eq ((conjoined.function?_eq live name).trans there) platform
    (given.trans own.symm)
  cases first : evaluator.callGraph.first? platform.provides platform.depth body.calls with
  | none =>
    rw [first] at meets
    obtain ⟨value, ran⟩ := meets
    rw [ran] at runs
    exact .inl ⟨value, rfl, ran, runs⟩
  | some hindrance =>
    rw [first, Evaluator.Meets] at meets
    rw [meets] at runs
    refine .inr ⟨hindrance, rfl, ?_⟩
    cases hindrance <;> exact runs

end Conjoined

/-- How executing a function on the two sides ends. -/
inductive Outcomes (platform : Platform) (evaluator : Evaluator) (units : List CompiledUnit)
    (symbol : String) (calls : List (String × Nat)) :
    Except RunError Float → Except RunError Float → Prop
  /-- They give the same value, or errors of the same code. -/
  | alike {outcome outcomeToo : Except RunError Float} (alike : Alike outcome outcomeToo) :
      Outcomes platform evaluator units symbol calls outcome outcomeToo
  /-- The function has a value, but its unit leads to a function that nobody answers, and that the
  function itself does not come to. -/
  | held (value : Float) {error : RunError} {needed : String} (unresolved : error.code = "E001")
      (leads : Linker.Leads units symbol needed)
      (dead : ∀ unit ∈ evaluator.live, needed ∉ unit.defined)
      (foreign : platform.provides needed = false)
      (apart : ∀ call, evaluator.callGraph.Reaches calls call → call.1 ≠ needed) :
      Outcomes platform evaluator units symbol calls (.ok value) (.error error)
  /-- The calls nest deeper than the evaluator allows. -/
  | nested {error : RunError} (endless : error.code = "E002")
      (deep : evaluator.callGraph.Nests calls (platform.depth + 1))
      (outcomeToo : Except RunError Float) :
      Outcomes platform evaluator units symbol calls (.error error) outcomeToo

namespace Conjoined

variable {evaluator : Evaluator} {generator : Generator} {unit : CodeUnit} {name : String}
  {arity : Nat} {body : Node} {code : Code}

/-- What the image has for the symbol of a live body is this body. -/
theorem placed_of_carries (conjoined : Conjoined evaluator generator) {platform : Platform}
    {image : List Loaded} (presents : Presents platform evaluator image)
    (live : unit ∈ evaluator.live) (carries : unit.Carries name arity body code) {position : Nat}
    (defines : Linker.DefinesAt image position (symbolIn unit.number name)) :
    Placed evaluator image position (symbolIn unit.number name) arity code := by
  obtain ⟨loaded, there, defined⟩ := defines
  obtain ⟨other, liveToo, delivers⟩ := presents.delivers position loaded there
  obtain ⟨nameToo, _, _, _, carriesToo, symbols⟩ := (delivers.defined _).mp defined
  obtain ⟨rfl, rfl⟩ := conjoined.sole live liveToo carries carriesToo symbols.symm
  exact ⟨loaded, unit, name, body, there, live, delivers, carries, rfl⟩

/-- Units lead to words alone. -/
theorem word_of_leads (conjoined : Conjoined evaluator generator) {symbol needed : String}
    (leads : Linker.Leads generator.linker.pending symbol needed) : IsWord needed := by
  have word {compiled : CompiledUnit} (pending : compiled ∈ generator.linker.pending)
      (required : needed ∈ compiled.required) : IsWord needed := by
    obtain ⟨unit, live, module, _, twin, rfl⟩ := conjoined.waiting compiled pending
    obtain ⟨_, _, _, _, _, given, carries, member⟩ :=
      ((twin.delivers generator.level).required needed).mp required
    exact conjoined.words live carries _ member
  cases leads with
  | directly member _ required => exact word member required
  | onward _ member _ required => exact word member required

/-- A function whose unit is not loaded leads to one that nobody answers. -/
theorem leads_of_dead (conjoined : Conjoined evaluator generator) (live : unit ∈ evaluator.live)
    (carries : unit.Carries name arity body code) {platform : Platform}
    {ready : List CompiledUnit} (readies : Readies platform evaluator generator ready)
    (dead : symbolIn unit.number name ∉
      (generator.linker.materialize platform).2.liveDefinitions) :
    ∃ needed, Linker.Leads generator.linker.pending (symbolIn unit.number name) needed ∧
      (∀ other ∈ evaluator.live, needed ∉ other.defined) ∧ platform.provides needed = false := by
  obtain ⟨compiled, pending, delivers⟩ := conjoined.delivers live
  have defines := (delivers.defined _).mpr ⟨name, arity, body, code, carries, rfl⟩
  have left : compiled ∉ ready := by
    intro member
    rw [readies.live] at dead
    exact dead (List.mem_flatMap.mpr ⟨compiled, member, defines⟩)
  obtain ⟨needed, leads, unanswered, foreign⟩ :=
    Linker.leads_unanswered readies.greatest pending left defines
  refine ⟨needed, leads, fun other liveToo bears => ?_, foreign⟩
  obtain ⟨definer, waiting, deliversToo⟩ := conjoined.delivers liveToo
  have word := conjoined.word_of_leads leads
  exact unanswered definer waiting ((deliversToo.mem_defined_iff word).mpr bears)

section

variable {platform : Platform} {ready : List CompiledUnit} {arguments : List Float}
  {outcomeToo : Except RunError Float}

/-- What has a value in the evaluator has the same value in the image, or is held back. -/
theorem outcomes_of_value (conjoined : Conjoined evaluator generator)
    (foreign : Foreign platform evaluator) (live : unit ∈ evaluator.live)
    (carries : unit.Carries name arity body code)
    (readies : Readies platform evaluator generator ready) (given : arguments.length = arity)
    (clear : evaluator.callGraph.first? platform.provides platform.depth body.calls = none)
    {value : Float} (ran : code.run platform (Evaluator.argument arguments)
      (Evaluator.call platform evaluator platform.depth) = .ok value)
    (called : Linker.Called platform (generator.linker.materialize platform).2
      (symbolIn unit.number name) arguments outcomeToo) :
    Outcomes platform evaluator generator.linker.pending (symbolIn unit.number name) body.calls
      (.ok value) outcomeToo := by
  have runs {position : Nat} (defines : Linker.DefinesAt
      (generator.linker.materialize platform).2.image position (symbolIn unit.number name)) :=
    (readies.presents.binds conjoined).run_ok
      (conjoined.placed_of_carries readies.presents live carries defines) given
      (foreign.apart conjoined code) ran
  cases called with
  | value defines ranToo =>
    have same := (runs defines).symm.trans ranToo
    cases same
    exact .alike (.value value)
  | failed defines ranToo =>
    have same := (runs defines).symm.trans ranToo
    cases same
  | dead dead =>
    obtain ⟨needed, leads, unanswered, foreignToo⟩ :=
      conjoined.leads_of_dead live carries readies dead
    refine .held value rfl leads unanswered foreignToo ?_
    rintro call reaches rfl
    -- What a function with a value comes to is live or the host's.
    obtain ⟨provided, _⟩ := CallGraph.first?_eq_none_iff.mp clear
    have missed : evaluator.definition? call.1 = none := by
      refine Option.eq_none_iff_forall_ne_some.mpr fun found there => ?_
      obtain ⟨other, liveToo, bears⟩ := conjoined.mem_defined_of_definition? there
      exact unanswered other liveToo bears
    have answered := provided call reaches (conjoined.callGraph_eq_none_iff.mpr missed)
    rw [foreignToo] at answered
    cases answered

/-- What misses a function in the evaluator is not found in the image. -/
theorem outcomes_of_unresolved (conjoined : Conjoined evaluator generator)
    (foreign : Foreign platform evaluator) (live : unit ∈ evaluator.live)
    (carries : unit.Carries name arity body code)
    (readies : Readies platform evaluator generator ready) {missing : String}
    (first : evaluator.callGraph.first? platform.provides platform.depth body.calls =
      some (.unresolved missing))
    (called : Linker.Called platform (generator.linker.materialize platform).2
      (symbolIn unit.number name) arguments outcomeToo) :
    Outcomes platform evaluator generator.linker.pending (symbolIn unit.number name) body.calls
      (.error ((Hindrance.unresolved missing).error name)) outcomeToo := by
  obtain ⟨⟨count, reaches⟩, unanswered, foreignToo⟩ := CallGraph.reaches_of_first? first
  rw [← (conjoined.resolved live carries).calls] at reaches
  have absurd {position : Nat} (defines : Linker.DefinesAt
      (generator.linker.materialize platform).2.image position (symbolIn unit.number name)) :
      False := by
    have provided := (readies.presents.binds conjoined).answered_of_makes
      (conjoined.placed_of_carries readies.presents live carries defines)
      (foreign.apart conjoined code) (conjoined.makes_of_reaches reaches)
      (conjoined.callGraph_eq_none_iff.mp unanswered)
    rw [foreignToo] at provided
    cases provided
  cases called with
  | value defines _ => exact (absurd defines).elim
  | failed defines _ => exact (absurd defines).elim
  | dead _ => exact .alike (.error rfl)

/-- **Functions end alike on both sides**, however they are grouped into units. -/
theorem outcomes (conjoined : Conjoined evaluator generator)
    (foreign : Foreign platform evaluator) (live : unit ∈ evaluator.live)
    (carries : unit.Carries name arity body code) (given : arguments.length = arity)
    (fits : ∀ call, evaluator.callGraph.Reaches body.calls call → ∀ arity inner,
      evaluator.callGraph call.1 = some (arity, inner) → call.2 = arity) :
    ∃ outcome outcomeToo afterToo,
      Comes (Evaluator.execute platform ⟨unit.number, name⟩ arguments) evaluator outcome
        evaluator ∧
      Comes (Generator.execute platform (Handle.counterpart ⟨unit.number, name⟩) arguments)
        generator outcomeToo afterToo ∧
      Outcomes platform evaluator generator.linker.pending (symbolIn unit.number name) body.calls
        outcome outcomeToo := by
  obtain ⟨ready, readies⟩ := conjoined.readies platform
  obtain ⟨outcomeToo, names, comesToo, called⟩ :=
    Linker.call_comes readies.imaged (symbolIn unit.number name) arguments
  have counted := given.trans (conjoined.arityOf_eq live carries).symm
  have executes := Generator.execute_comes counted comesToo
  rcases conjoined.execute_meets live carries given fits platform with
    ⟨value, clear, ran, comes⟩ | ⟨hindrance, first, comes⟩
  · exact ⟨.ok value, outcomeToo, _, comes, executes,
      conjoined.outcomes_of_value foreign live carries readies given clear ran called⟩
  · refine ⟨.error (hindrance.error name), outcomeToo, _, comes, executes, ?_⟩
    cases hindrance with
    | nesting => exact .nested rfl (CallGraph.nests_of_first? first) outcomeToo
    | unresolved missing =>
      exact conjoined.outcomes_of_unresolved foreign live carries readies first called

end

end Conjoined

namespace Interface

/-- **Whatever two back ends are asked alike, their functions end alike.** If the same functions
are declared, recorded and defined, and the same units handed off and released, in any order and
grouping, both sides give corresponding handles. A function with a body whose unit is live gives
the same value on both sides, or errors of the same code, provided the calls that it comes to have
as many arguments as their live definitions have parameters, and no live definition has the name
of a host function. But the generator does not find a function while its unit leads to a name that
nobody answers, even if the function itself never comes to that name; and if calls nest deeper than
the evaluator allows, as they do on a cycle, it says so. -/
theorem executes_alike (platform : Platform) (level : Nat) {session : Session}
    (keyed : session.Keyed) {steps : List Step} (spelled : ∀ step ∈ steps, step.Spelled) :
    let left : Interface Evaluator := (fresh session .initial).takeAll steps
    let right : Interface Generator := (fresh session (.initial level none)).takeAll steps
    right.handles = left.handles.map Handle.counterpart ∧
    (Foreign platform left.backend →
      ∀ handle ∈ left.handles, ∀ unit ∈ left.backend.live, unit.number = handle.unit →
      ∀ arity body, unit.written? handle.symbol = some (arity, body) →
      ∀ arguments : List Float, arguments.length = arity →
      (∀ call, left.backend.callGraph.Reaches body.calls call → ∀ expected inner,
        left.backend.callGraph call.1 = some (expected, inner) → call.2 = expected) →
      ∃ outcome outcomeToo last,
        Comes (Backend.execute platform handle arguments) left.backend outcome left.backend ∧
        Comes (Backend.execute platform handle.counterpart arguments) right.backend outcomeToo
          last ∧
        Outcomes platform left.backend right.backend.linker.pending handle.counterpart.symbol
          body.calls outcome outcomeToo) := by
  intro left right
  have aligned := (Aligned.fresh keyed level).takeAll spelled
  refine ⟨aligned.handles, ?_⟩
  rintro foreign ⟨_, name⟩ _ unit live rfl arity body written arguments given fits
  obtain ⟨code, carries⟩ := CodeUnit.written?_eq_some_iff.mp written
  exact aligned.conjoined.outcomes foreign live carries given fits

/-- A function runs that calls one of another unit; a third unit has come and gone. -/
theorem executes_alike_call :
    let parameter : List String := ["x"]
    let callee : Definition := ⟨⟨"g", parameter, none⟩, .reference "x" none, none⟩
    let caller : Definition :=
      ⟨⟨"f", parameter, none⟩, .call "g" [.reference "x" none] none, none⟩
    let other : Definition := ⟨⟨"h", [], none⟩, .number 1 none, none⟩
    let steps : List Step :=
      [.declare callee.prototype, .record callee.prototype, .define caller, .handOff,
        .define other, .handOff, .define callee, .handOff, .release 2]
    let left : Interface Evaluator := (fresh .fresh .initial).takeAll steps
    let right : Interface Generator := (fresh .fresh (.initial 2 none)).takeAll steps
    (∀ step ∈ steps, step.Spelled) ∧ Foreign .doubles left.backend ∧
      (⟨1, "f"⟩ : Handle) ∈ left.handles ∧
      ∃ value last, Comes (Backend.execute .doubles ⟨1, "f"⟩ [1]) left.backend (.ok value)
          left.backend ∧
        Comes (Backend.execute .doubles ⟨1, "f"⟩ [1]) right.backend (.ok value) last := by
  intro parameter callee caller other steps left right
  have word {name : String} (nonempty : name ≠ "")
      (parts : name.toList.all isWordPart = true) : IsWord name :=
    ⟨nonempty, List.all_eq_true.mp parts⟩
  have f : IsWord "f" := word (by decide) (by decide +kernel)
  have g : IsWord "g" := word (by decide) (by decide +kernel)
  have h : IsWord "h" := word (by decide) (by decide +kernel)
  have passes : caller.body.Spelled :=
    .call none g (by simpa using .reference "x" none)
  have spelled : ∀ step ∈ steps, step.Spelled := by
    simpa [steps, Step.Spelled] using
      ⟨.inl g, ⟨.inl f, passes⟩, ⟨.inl h, .number 1 none⟩, .inl g, .reference "x" none⟩
  have foreign : Foreign .doubles left.backend := by
    unfold Foreign
    decide +kernel
  have handled : (⟨1, "f"⟩ : Handle) ∈ left.handles := by decide +kernel
  obtain ⟨unit, live, number, found⟩ : ∃ unit ∈ left.backend.live, unit.number = 1 ∧
      (unit.written? "f").map (fun found => (found.1, found.2.calls)) = some (1, [("g", 1)]) := by
    decide +kernel
  obtain ⟨⟨arity, body⟩, written, same⟩ := Option.map_eq_some_iff.mp found
  obtain ⟨rfl, calls⟩ : arity = 1 ∧ body.calls = [("g", 1)] := Prod.mk.inj same
  have graph : left.backend.callGraph "g" = some (1, []) := by decide +kernel
  have fits : ∀ call, left.backend.callGraph.Reaches body.calls call → ∀ expected inner,
      left.backend.callGraph call.1 = some (expected, inner) → call.2 = expected := by
    intro call reaches
    have among : call = ("g", 1) := by
      apply reaches.all
      · rw [calls]
        exact fun _ => List.mem_singleton.mp
      · rintro _ _ _ rfl inside _ deeper
        rw [graph] at inside
        cases inside
        cases deeper
    subst among
    intro expected inner inside
    rw [graph] at inside
    cases inside
    rfl
  obtain ⟨_, answers⟩ := executes_alike .doubles 2 Session.keyed_fresh spelled
  obtain ⟨outcome, outcomeToo, last, comes, comesToo, outcomes⟩ :=
    answers foreign _ handled unit live number _ body written [1] rfl fits
  have valued : (match Backend.execute .doubles ⟨1, "f"⟩ [1] left.backend with
      | .ok .. => true
      | .error .. => false) = true := by
    decide +kernel
  have valuedToo : (match Backend.execute .doubles ⟨1, "f"⟩ [1] right.backend with
      | .ok .. => true
      | .error .. => false) = true := by
    decide +kernel
  have same : Backend.execute .doubles ⟨1, "f"⟩ [1] left.backend = _ := comes
  have sameToo : Backend.execute .doubles ⟨1, "f"⟩ [1] right.backend = _ := comesToo
  rw [same] at valued
  rw [sameToo] at valuedToo
  cases outcomes with
  | alike alike =>
    cases alike with
    | value value => exact ⟨spelled, foreign, handled, value, last, comes, comesToo⟩
    | error => cases valued
  | held => cases valuedToo
  | nested => cases valued

/-- The two sides differ on a function that calls nothing, as its unit holds another one that calls
a name nobody answers; and on a bare declaration that the host answers. -/
theorem held_back_by_neighbour :
    let caller : Definition :=
      ⟨⟨"g", ["x"], none⟩, .call "missing" [.reference "x" none] none, none⟩
    let identity : Definition := ⟨⟨"f", ["x"], none⟩, .reference "x" none, none⟩
    let steps : List Step :=
      [.declare ⟨"missing", ["x"], none⟩, .define identity, .define caller, .handOff,
        .declare ⟨"sin", ["x"], none⟩, .handOff]
    let left : Interface Evaluator := (fresh .fresh .initial).takeAll steps
    let right : Interface Generator := (fresh .fresh (.initial 2 none)).takeAll steps
    Foreign .doubles left.backend ∧ left.backend.live.map (·.number) = [1, 2] ∧
      left.backend.callGraph "f" = some (1, []) ∧ Platform.doubles.provides "sin" = true ∧
      ∀ handle ∈ ([⟨1, "f"⟩, ⟨2, "sin"⟩] : List Handle), handle ∈ left.handles ∧
        ∃ value last fault lastToo,
          Backend.execute .doubles handle [1] left.backend = .ok value last ∧
          Backend.execute .doubles handle.counterpart [1] right.backend = .error fault lastToo ∧
          fault.diagnostic?.bind (·.code) = some "E001" := by
  intro caller identity steps left right
  have foreign : Foreign .doubles left.backend := by
    unfold Foreign
    decide +kernel
  refine ⟨foreign, by decide +kernel, by decide +kernel, by decide +kernel, ?_⟩
  have differ : ∀ handle ∈ ([⟨1, "f"⟩, ⟨2, "sin"⟩] : List Handle), handle ∈ left.handles ∧
      (match Backend.execute .doubles handle [1] left.backend with
        | .ok .. => true
        | .error .. => false) = true ∧
      (match Backend.execute .doubles handle.counterpart [1] right.backend with
        | .ok .. => false
        | .error fault _ => decide (fault.diagnostic?.bind (·.code) = some "E001")) = true := by
    decide +kernel
  intro handle member
  obtain ⟨handled, valued, failed⟩ := differ handle member
  refine ⟨handled, ?_⟩
  cases same : Backend.execute .doubles handle [1] left.backend with
  | error => simp only [same, Bool.false_eq_true] at valued
  | ok value last =>
    cases sameToo : Backend.execute .doubles handle.counterpart [1] right.backend with
    | ok => simp only [sameToo, Bool.false_eq_true] at failed
    | error fault lastToo =>
      simp only [sameToo] at failed
      exact ⟨value, last, fault, lastToo, rfl, rfl, of_decide_eq_true failed⟩

end Interface

end Reckon
