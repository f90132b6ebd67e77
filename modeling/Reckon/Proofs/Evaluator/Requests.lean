import Mathlib.Data.List.Nodup
import Reckon.Proofs.Backend.Lengthening
import Reckon.Proofs.Evaluator.Definition
import Reckon.Proofs.Evaluator.Keeping

/-!
# What can be asked of an evaluator

An evaluator is asked to declare and to define functions, to give a body to a function of
the open unit or of a live one, to hand its open unit off, to execute a function, and to
release a unit, in any order and whether or not it can do what it is asked. Which units
hold a body for which name then stays as it is, or one function has got a body, or one
live unit is gone.
-/

namespace Reckon

namespace Evaluator

open Reckon.Action

/-- The open unit and the live ones. -/
def units (evaluator : Evaluator) : List CodeUnit := evaluator.current :: evaluator.live

/-- The handle is of a function of the open unit or of a live one. -/
def offers (evaluator : Evaluator) (handle : Handle) : Bool :=
  evaluator.units.any fun unit =>
    decide (unit.number = handle.unit) && (unit.functions.get? handle.symbol).isSome

/-- What an evaluator can be asked. -/
inductive Request where
  | declare (session : Session) (prototype : Prototype)
  | define (session : Session) (definition : Definition)
  | defineBody (session : Session) (handle : Handle) (body : Node) (parameters : List String)
  | handOff
  | execute (handle : Handle) (arguments : List Float)
  | release (number : Nat)

/-- Does what is asked, as far as it can be done. A body is only taken for a function that the
evaluator offers. -/
def perform (platform : Platform) (evaluator : Evaluator) : Request → Evaluator
  | .declare session prototype => after (declare session prototype) evaluator
  | .define session definition => after (Reckon.define session definition) evaluator
  | .defineBody session handle body parameters =>
    if evaluator.offers handle then after (defineBody session handle body parameters) evaluator
    else evaluator
  | .handOff => after handOff evaluator
  | .execute handle arguments => after (execute platform handle arguments) evaluator
  | .release number => after (release number) evaluator

/-- Does what is asked, one request after the other. -/
def performAll (platform : Platform) (requests : List Request) (evaluator : Evaluator) :
    Evaluator :=
  requests.foldl (perform platform) evaluator

/-- The last request is met after all the others. -/
theorem performAll_append_singleton (platform : Platform) (requests : List Request)
    (request : Request) (evaluator : Evaluator) :
    performAll platform (requests ++ [request]) evaluator =
      perform platform (performAll platform requests evaluator) request := by
  simp only [performAll, List.foldl_append, List.foldl_cons, List.foldl_nil]

/-- The open unit or a live one, of this number, holds a body for the name. -/
def BearsIn (evaluator : Evaluator) (number : Nat) (name : String) : Prop :=
  ∃ unit ∈ evaluator.units, unit.number = number ∧ name ∈ unit.defined

/-- Live units have distinct numbers, which are smaller than that of the open unit. -/
structure Numbered (evaluator : Evaluator) : Prop where
  smaller (unit : CodeUnit) (member : unit ∈ evaluator.live) :
    unit.number < evaluator.current.number
  once : (evaluator.live.map (·.number)).Nodup

namespace Numbered

variable {evaluator : Evaluator}

/-- Nothing is live at the beginning, so all live units are numbered as they should be. -/
theorem initial : Numbered .initial := ⟨nofun, List.nodup_nil⟩

/-- The open unit has a number of its own, too. -/
theorem nodup (numbered : evaluator.Numbered) : (evaluator.units.map (·.number)).Nodup := by
  refine List.nodup_cons.mpr ⟨fun member => ?_, numbered.once⟩
  obtain ⟨unit, live, same⟩ := List.mem_map.mp member
  exact Nat.ne_of_lt (numbered.smaller unit live) same

/-- Units are told apart by their numbers. -/
theorem eq_of_number (numbered : evaluator.Numbered) {unit other : CodeUnit}
    (member : unit ∈ evaluator.units) (memberToo : other ∈ evaluator.units)
    (same : unit.number = other.number) : unit = other :=
  List.inj_on_of_nodup_map numbered.nodup member memberToo same

/-- Numbers alone count. -/
theorem congr (numbered : evaluator.Numbered) {other : Evaluator}
    (current : other.current.number = evaluator.current.number)
    (live : other.live.map (·.number) = evaluator.live.map (·.number)) : other.Numbered := by
  constructor
  · intro unit member
    have there : unit.number ∈ evaluator.live.map (·.number) := live ▸ List.mem_map_of_mem member
    obtain ⟨older, among, same⟩ := List.mem_map.mp there
    rw [current, ← same]
    exact numbered.smaller older among
  · rw [live]
    exact numbered.once

end Numbered

/-! ## Declarations -/

/-- Only declarations have come into the open unit. -/
structure Announces (before after : Evaluator) : Prop where
  same : after = { before with current := after.current }
  number : after.current.number = before.current.number
  kept (name : String) (function : Function)
    (found : before.current.functions.get? name = some function) :
    after.current.functions.get? name = some function
  bodies : after.current.defined = before.current.defined

namespace Announces

variable {before after : Evaluator}

/-- Nothing has come in if nothing has happened. -/
theorem refl (evaluator : Evaluator) : Announces evaluator evaluator :=
  ⟨rfl, rfl, fun _ _ found => found, rfl⟩

/-- Declarations on declarations are declarations. -/
theorem trans {middle : Evaluator} (start : Announces before middle)
    (rest : Announces middle after) : Announces before after := by
  constructor
  · rw [rest.same, start.same]
  · exact rest.number.trans start.number
  · exact fun name function found => rest.kept _ _ (start.kept _ _ found)
  · exact rest.bodies.trans start.bodies

/-- One more declaration has come in. -/
theorem put (announces : Announces before after) {name : String}
    (absent : after.current.functions.get? name = none) (prototype : Prototype) :
    Announces before { after with
      current := { after.current with
        functions := after.current.functions.put name ⟨prototype, none⟩ } } := by
  constructor
  · rw [announces.same]
  · exact announces.number
  · intro other function found
    have there := announces.kept other function found
    rw [Catalog.get?_put, if_neg]
    · exact there
    · rintro rfl
      rw [absent] at there
      cases there
  · rw [← announces.bodies, CodeUnit.defined, CodeUnit.defined,
      Catalog.entries_put_of_none absent]
    simp

/-- Declarations change no number of a unit. -/
theorem numbered (announces : Announces before after) (numbered : before.Numbered) :
    after.Numbered := by
  apply numbered.congr announces.number
  rw [announces.same]

/-- Declarations are no bodies. -/
theorem bearsIn_iff (announces : Announces before after) (number : Nat) (name : String) :
    after.BearsIn number name ↔ before.BearsIn number name := by
  have live : after.live = before.live := by
    rw [announces.same]
  simp only [BearsIn, units, List.exists_mem_cons_iff, announces.number, announces.bodies, live]

end Announces

/-- Whatever has been announced before, declaring one more prototype brings in declarations only. -/
theorem declare_announces (before : Evaluator) (session : Session) (prototype : Prototype) :
    Keeps (Announces before) (declare session prototype) := by
  apply keeps_of_ensures (declare_ensures session prototype)
  · rintro state handle after announces ⟨_, _, _, rfl | ⟨absent, rfl⟩⟩
    · exact announces
    · exact announces.put absent prototype
  · rintro state fault after announces ⟨rfl, _⟩
    exact announces

/-! ## Bodies -/

/-- A function of the offered handle has got a body that its name had not. -/
structure Gains (before : Evaluator) (handle : Handle) (after : Evaluator) : Prop where
  new : handle.symbol ∈ before.defined → handle.symbol = anonymousName
  defined : after.defined = before.defined.insert handle.symbol
  bearsIn (number : Nat) (name : String) : after.BearsIn number name ↔
    before.BearsIn number name ∨ number = handle.unit ∧ name = handle.symbol

/-- A name is defined by a unit if one of its functions of that name has a body. -/
theorem CodeUnit.mem_defined_iff (unit : CodeUnit) (name : String) :
    name ∈ unit.defined ↔
      ∃ function, (name, function) ∈ unit.functions.entries ∧ function.body.isSome = true := by
  simp [defined]

/-- A body given to a function of a unit adds its name to those with a body. -/
theorem CodeUnit.mem_defined_withBody {unit : CodeUnit} {name : String} {function : Function}
    (found : unit.functions.get? name = some function) (body : Node × Code) (sought : String) :
    sought ∈ (unit.withBody name body).defined ↔ sought ∈ unit.defined ∨ sought = name := by
  rw [mem_defined_iff, mem_defined_iff, withBody, found]
  by_cases same : sought = name
  · subst same
    have there := Catalog.mem_of_find?
      (Catalog.get?_put_self unit.functions sought { function with body := some body })
    exact ⟨fun _ => .inr rfl, fun _ => ⟨_, there, rfl⟩⟩
  · simp only [Catalog.mem_entries_put_of_ne _ (show (sought, _).1 ≠ name from same), same,
      or_false]

/-- A body changes no number of a unit. -/
@[simp] theorem CodeUnit.number_withBody (unit : CodeUnit) (name : String) (body : Node × Code) :
    (unit.withBody name body).number = unit.number := by
  unfold withBody
  cases unit.functions.get? name <;> rfl

/-- A handle is on offer if its unit is open or live and has a function of its symbol. -/
theorem offers_iff (evaluator : Evaluator) (handle : Handle) :
    evaluator.offers handle = true ↔ ∃ unit ∈ evaluator.units, unit.number = handle.unit ∧
      ∃ function, unit.functions.get? handle.symbol = some function := by
  simp [offers, Option.isSome_iff_exists]

/-- A body for a function that is offered comes into the one unit of the handle. -/
theorem Numbered.bearsIn_withBody {evaluator : Evaluator} (numbered : evaluator.Numbered)
    {handle : Handle} (offered : evaluator.offers handle = true) (body : Node × Code) (number : Nat)
    (name : String) :
    (evaluator.withBody handle body).BearsIn number name ↔
      evaluator.BearsIn number name ∨ number = handle.unit ∧ name = handle.symbol := by
  obtain ⟨unit, member, own, function, found⟩ := (offers_iff ..).mp offered
  let change (other : CodeUnit) : CodeUnit :=
    if other.number = handle.unit then other.withBody handle.symbol body else other
  have units : (evaluator.withBody handle body).units = evaluator.units.map change := rfl
  have numbers (other : CodeUnit) : (change other).number = other.number := by
    simp only [change]
    split <;> simp
  have bodies (other : CodeUnit) (among : other ∈ evaluator.units) :
      name ∈ (change other).defined ↔
        name ∈ other.defined ∨ other.number = handle.unit ∧ name = handle.symbol := by
    simp only [change]
    split
    · rename_i here
      obtain rfl := numbered.eq_of_number member among (own.trans here.symm)
      rw [CodeUnit.mem_defined_withBody found]
      simp [here]
    · rename_i elsewhere
      simp [elsewhere]
  constructor
  · rintro ⟨_, there, rfl, bears⟩
    rw [units] at there
    obtain ⟨other, among, rfl⟩ := List.mem_map.mp there
    rw [numbers]
    exact ((bodies other among).mp bears).imp (fun old => ⟨other, among, rfl, old⟩) id
  · rintro (⟨other, among, rfl, bears⟩ | ⟨rfl, same⟩)
    · exact ⟨change other, units ▸ List.mem_map_of_mem among, numbers other,
        (bodies other among).mpr (.inl bears)⟩
    · exact ⟨change unit, units ▸ List.mem_map_of_mem member, (numbers unit).trans own,
        (bodies unit member).mpr (.inr ⟨own, same⟩)⟩

/-- A body that a function gets changes no number of a unit. -/
theorem Numbered.withBody {evaluator : Evaluator} (numbered : evaluator.Numbered) (handle : Handle)
    (body : Node × Code) : (evaluator.withBody handle body).Numbered := by
  have numbers (unit : CodeUnit) : (if unit.number = handle.unit then
      unit.withBody handle.symbol body else unit).number = unit.number := by
    split <;> simp
  apply numbered.congr
  · exact numbers evaluator.current
  · simp [Evaluator.withBody, Function.comp_def, numbers]

/-- Declarations before the body do not matter. -/
theorem Gains.of_announces {before middle after : Evaluator} {handle : Handle}
    (gains : Gains middle handle after) (announces : Announces before middle) :
    Gains before handle after := by
  have defined : middle.defined = before.defined := by
    rw [announces.same]
  constructor
  · exact defined ▸ gains.new
  · exact defined ▸ gains.defined
  · intro number name
    rw [gains.bearsIn, announces.bearsIn_iff]

/-- What compiling promises: a function has got a body, or there are declarations at most. -/
def Compiles (before : Evaluator) {α : Type} : EStateM.Result Fault Evaluator α → Prop
  | .ok _ after => (∃ handle, Gains before handle after) ∧ after.Numbered
  | .error _ after => Announces before after

/-- A body is compiled for a function that is offered, or is refused. -/
theorem defineBody_compiles {evaluator : Evaluator} (numbered : evaluator.Numbered)
    {handle : Handle} (offered : evaluator.offers handle = true) (session : Session) (body : Node)
    (parameters : List String) :
    Ensures (defineBody session handle body parameters) evaluator (Compiles evaluator) := by
  unfold defineBody
  refine ensures_get (ensures_check (fun fresh => ?_) fun _ _ => .refl evaluator)
  have compiles := compile_keeps (declare_announces evaluator session) parameters body evaluator
    (.refl evaluator)
  apply compiles.bind
  · exact fun _ _ announces => announces
  · intro code compiled announces
    have numberedToo := announces.numbered numbered
    have offeredToo : compiled.offers handle = true := by
      obtain ⟨unit, member, own, function, found⟩ := (offers_iff ..).mp offered
      rw [offers_iff]
      rcases List.mem_cons.mp member with rfl | live
      · exact ⟨compiled.current, List.mem_cons_self, announces.number.trans own, function,
          announces.kept _ _ found⟩
      · refine ⟨unit, List.mem_cons_of_mem _ ?_, own, function, found⟩
        rw [announces.same]
        exact live
    have kept := numberedToo.withBody handle (body, code)
    refine ⟨⟨handle, ?_, ?_, ?_⟩, kept.smaller, kept.once⟩
    · intro member
      by_contra ordinary
      simp [redefinitionFault?, member, ordinary] at fresh
    · rw [announces.same]
    · intro number name
      rw [← announces.bearsIn_iff]
      exact numberedToo.bearsIn_withBody offeredToo (body, code) number name

/-- A definition gives a function a body, or is refused. -/
theorem define_compiles {evaluator : Evaluator} (numbered : evaluator.Numbered) (session : Session)
    (definition : Definition) :
    Ensures (Reckon.define session definition) evaluator (Compiles evaluator) := by
  have spec := declare_ensures session definition.prototype evaluator
  have announces := declare_announces evaluator session definition.prototype evaluator
    (.refl evaluator)
  change Ensures (declare session definition.prototype >>= fun handle =>
    defineBody session handle definition.body definition.prototype.parameters >>= fun _ =>
      pure handle) evaluator _
  apply (spec.and announces).bind
  · exact fun fault middle failed => failed.2
  · rintro handle middle ⟨⟨rfl, _, ⟨function, found, _⟩, _⟩, announces⟩
    have offered : middle.offers ⟨evaluator.current.number, definition.prototype.name⟩ = true :=
      (offers_iff ..).mpr ⟨_, List.mem_cons_self, announces.number, function, found⟩
    have compiles := defineBody_compiles (announces.numbered numbered) offered session
      definition.body definition.prototype.parameters
    apply compiles.bind
    · exact fun fault after refused => announces.trans refused
    · rintro _ after ⟨⟨handle, gains⟩, numberedToo⟩
      exact ensures_pure ⟨⟨handle, gains.of_announces announces⟩, numberedToo⟩

/-! ## Requests -/

/-- What a request can come to: the same bodies count as defined and stand in the same units, or a
function has got a body, or one live unit has been given up. -/
inductive Fulfils (before : Evaluator) : Request → Evaluator → Prop
  | quiet {request : Request} {after : Evaluator} (defined : after.defined = before.defined)
      (bearsIn : ∀ number name, after.BearsIn number name ↔ before.BearsIn number name) :
      Fulfils before request after
  | gains {request : Request} {handle : Handle} {after : Evaluator}
      (gains : Gains before handle after) : Fulfils before request after
  | gone {number : Nat} {unit : CodeUnit} {after : Evaluator} (live : unit ∈ before.live)
      (own : unit.number = number) (defined : after.defined = before.defined.without unit.defined)
      (bearsIn : ∀ other name, after.BearsIn other name ↔
        other ≠ number ∧ before.BearsIn other name) : Fulfils before (.release number) after

/-- A request that has brought declarations in has come to something it may come to. -/
theorem Fulfils.announced {before after : Evaluator} {request : Request}
    (announces : Announces before after) : Fulfils before request after := by
  have defined : after.defined = before.defined := by
    rw [announces.same]
  exact .quiet defined announces.bearsIn_iff

/-- A compilation comes to a body or to declarations. -/
theorem fulfils_of_compiles {α : Type} {action : Action Evaluator α} {evaluator : Evaluator}
    (numbered : evaluator.Numbered) (request : Request)
    (compiles : Ensures action evaluator (Compiles evaluator)) :
    Fulfils evaluator request (after action evaluator) ∧ (after action evaluator).Numbered := by
  unfold Ensures at compiles
  unfold after
  cases ended : action evaluator with
  | ok value last =>
    rw [ended] at compiles
    obtain ⟨⟨handle, gains⟩, numberedToo⟩ := compiles
    exact ⟨.gains gains, numberedToo⟩
  | error fault last =>
    rw [ended] at compiles
    exact ⟨.announced compiles, Announces.numbered compiles numbered⟩

/-- The open unit becomes live, and an empty one is opened. -/
theorem handOff_fulfils {evaluator : Evaluator} (numbered : evaluator.Numbered) :
    Fulfils evaluator .handOff (after handOff evaluator) ∧
      (after handOff evaluator).Numbered := by
  have live : (after handOff evaluator).live = evaluator.live ++ [evaluator.current] := rfl
  have number : (after handOff evaluator).current.number = evaluator.current.number + 1 := rfl
  have perm : (evaluator.live ++ [evaluator.current]).Perm evaluator.units :=
    List.perm_append_singleton ..
  refine ⟨.quiet rfl fun number name => ?_, ?_, ?_⟩
  · constructor
    · rintro ⟨unit, member, own, bears⟩
      rcases List.mem_cons.mp member with rfl | there
      · cases bears
      · exact ⟨unit, perm.mem_iff.mp there, own, bears⟩
    · rintro ⟨unit, member, own, bears⟩
      exact ⟨unit, List.mem_cons_of_mem _ (perm.mem_iff.mpr member), own, bears⟩
  · intro unit member
    rw [live] at member
    rw [number]
    rcases List.mem_append.mp member with older | last
    · exact Nat.lt_succ_of_lt (numbered.smaller unit older)
    · rw [List.mem_singleton.mp last]
      exact Nat.lt_succ_self _
  · rw [live]
    exact (perm.map _).nodup_iff.mpr numbered.nodup

/-- A live unit is given up, or there is none of the number. -/
theorem release_fulfils {evaluator : Evaluator} (numbered : evaluator.Numbered) (number : Nat) :
    Fulfils evaluator (.release number) (after (release number) evaluator) ∧
      (after (release number) evaluator).Numbered := by
  unfold after release
  rw [get_bind]
  cases found : evaluator.live.find? (·.number = number) with
  | none => exact ⟨.announced (.refl evaluator), numbered⟩
  | some unit =>
    have live := List.mem_of_find?_eq_some found
    have own : unit.number = number := by simpa using List.find?_some found
    have opened : evaluator.current.number ≠ number :=
      own ▸ Nat.ne_of_gt (numbered.smaller unit live)
    refine ⟨.gone live own rfl fun other name => ?_, ?_, ?_⟩
    · constructor
      · rintro ⟨unit, member, rfl, bears⟩
        rcases List.mem_cons.mp member with rfl | there
        · exact ⟨opened, _, List.mem_cons_self, rfl, bears⟩
        · obtain ⟨older, apart⟩ := List.mem_filter.mp there
          exact ⟨of_decide_eq_true apart, unit, List.mem_cons_of_mem _ older, rfl, bears⟩
      · rintro ⟨apart, unit, member, rfl, bears⟩
        rcases List.mem_cons.mp member with rfl | older
        · exact ⟨_, List.mem_cons_self, rfl, bears⟩
        · have stays : unit ∈ evaluator.live.filter (·.number ≠ number) :=
            List.mem_filter.mpr ⟨older, decide_eq_true apart⟩
          exact ⟨unit, List.mem_cons_of_mem _ stays, rfl, bears⟩
    · exact fun unit member => numbered.smaller unit (List.mem_filter.mp member).1
    · exact numbered.once.sublist (List.filter_sublist.map _)

/-- **Every request comes to one of these**, and the units stay numbered. -/
theorem perform_fulfils {evaluator : Evaluator} (numbered : evaluator.Numbered)
    (platform : Platform) (request : Request) :
    Fulfils evaluator request (perform platform evaluator request) ∧
      (perform platform evaluator request).Numbered := by
  cases request with
  | declare session prototype =>
    have announces := (declare_announces evaluator session prototype).holds_after (.refl evaluator)
    exact ⟨.announced announces, announces.numbered numbered⟩
  | define session definition =>
    exact fulfils_of_compiles numbered _ (define_compiles numbered session definition)
  | defineBody session handle body parameters =>
    rw [perform]
    split
    · rename_i offered
      exact fulfils_of_compiles numbered _
        (defineBody_compiles numbered offered session body parameters)
    · exact ⟨.announced (.refl evaluator), numbered⟩
  | handOff => exact handOff_fulfils numbered
  | execute handle arguments =>
    have keeps : Keeps (· = evaluator) (execute platform handle arguments) :=
      execute_keeps platform handle arguments
    have same : perform platform evaluator (.execute handle arguments) = evaluator :=
      keeps.holds_after rfl
    rw [same]
    exact ⟨.announced (.refl evaluator), numbered⟩
  | release number => exact release_fulfils numbered number

end Evaluator

end Reckon
