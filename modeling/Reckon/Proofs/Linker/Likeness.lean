import Mathlib.Data.List.Forall2
import Reckon.Linker.Execution
import Reckon.Proofs.Backend.Contract
import Reckon.Proofs.Instruction.Likeness
import Reckon.Proofs.Likeness.Actions
import Reckon.Proofs.Linker.Loading

/-!
# Linkers that do the same

Which units are materialized, what calls are bound to and what is reported as unresolved can be
told from the names that units define and require. The bodies matter only when a function runs.
So if the units of two linkers differ in bodies only, and these do the same, then calling a
function gives the same value or the same fault, and leaves linkers that are alike again.
-/

namespace Reckon

open Reckon.Action Instruction

/-- The units differ in their bodies only, and these do the same. -/
structure CompiledUnit.Alike (unit other : CompiledUnit) : Prop where
  same : other = { unit with routines := other.routines }
  blocks (symbol : String) : Option.Rel BodiesAlike (unit.block? symbol) (other.block? symbol)

namespace CompiledUnit

/-- A unit is like itself. -/
theorem Alike.refl (unit : CompiledUnit) : unit.Alike unit := by
  refine ⟨rfl, fun symbol => ?_⟩
  cases unit.block? symbol with
  | none => exact .none
  | some body => exact .some (.refl body)

/-- A unit without its bodies. -/
def bare (unit : CompiledUnit) : CompiledUnit := { unit with routines := [] }

/-- Without their bodies, units that are alike are the same. -/
theorem Alike.bare {unit other : CompiledUnit} (alike : unit.Alike other) :
    unit.bare = other.bare := by
  rw [CompiledUnit.bare, CompiledUnit.bare, alike.same]

/-- Reaching another state does not matter. -/
theorem Alike.withState {unit other : CompiledUnit} (alike : unit.Alike other)
    (state : UnitState) : Alike { unit with state } { other with state } := by
  refine ⟨?_, alike.blocks⟩
  rw [alike.same]

end CompiledUnit

/-- A unit of the image without its bodies. -/
def Loaded.bare (loaded : Loaded) : Loaded := { loaded with unit := loaded.unit.bare }

/-- Units that are alike were loaded in the same batch. -/
structure Loaded.Alike (loaded other : Loaded) : Prop where
  unit : loaded.unit.Alike other.unit
  batch : other.batch = loaded.batch

/-- The same goes for units of an image. -/
theorem Loaded.Alike.bare {loaded other : Loaded} (alike : loaded.Alike other) :
    loaded.bare = other.bare := by
  rw [Loaded.bare, Loaded.bare, alike.unit.bare, alike.batch]

/-- Lists of related elements look the same if related elements do. -/
theorem map_eq_of_forall₂ {α β γ : Type} {related : α → β → Prop} {list : List α} {other : List β}
    (all : List.Forall₂ related list other) {look : α → γ} {lookToo : β → γ}
    (same : ∀ element elementToo, related element elementToo →
      look element = lookToo elementToo) : list.map look = other.map lookToo := by
  induction all with
  | nil => rfl
  | cons first _ inductionHypothesis =>
    rw [List.map_cons, List.map_cons, same _ _ first, inductionHypothesis]

/-- The units are alike, each with its counterpart. -/
abbrev UnitsAlike : List CompiledUnit → List CompiledUnit → Prop :=
  List.Forall₂ CompiledUnit.Alike

namespace UnitsAlike

variable {units others : List CompiledUnit}

/-- Every unit has itself as its counterpart. -/
theorem refl (units : List CompiledUnit) : UnitsAlike units units :=
  List.forall₂_same.mpr fun unit _ => .refl unit

/-- Without their bodies, rows of units that are alike are the same. -/
theorem bare (alike : UnitsAlike units others) :
    units.map CompiledUnit.bare = others.map CompiledUnit.bare :=
  map_eq_of_forall₂ alike fun _ _ => CompiledUnit.Alike.bare

/-- What is told from units without their bodies is the same. -/
theorem map_eq (alike : UnitsAlike units others) {γ : Type} (look : CompiledUnit → γ)
    (told : ∀ unit : CompiledUnit, look unit.bare = look unit) :
    units.map look = others.map look := by
  refine map_eq_of_forall₂ alike fun unit other alike => ?_
  rw [← told unit, alike.bare, told]

/-- What is gathered from units without a look at their bodies is the same on both sides. -/
theorem flatMap_eq (alike : UnitsAlike units others) {γ : Type} (look : CompiledUnit → List γ)
    (told : ∀ unit : CompiledUnit, look unit.bare = look unit) :
    units.flatMap look = others.flatMap look := by
  rw [List.flatMap_def, List.flatMap_def, alike.map_eq look told]

/-- A test that sees no bodies leaves units that are alike. -/
theorem filter (alike : UnitsAlike units others) (test : CompiledUnit → Bool)
    (told : ∀ unit : CompiledUnit, test unit.bare = test unit) :
    UnitsAlike (units.filter test) (others.filter test) := by
  apply List.rel_filter _ alike
  intro unit other alike
  change test unit = true ↔ test other = true
  rw [← told unit, alike.bare, told]

/-- Neither row of units is empty, or both are. -/
theorem isEmpty_eq (alike : UnitsAlike units others) : units.isEmpty = others.isEmpty := by
  cases alike <;> rfl

end UnitsAlike

/-- Nothing tells the linkers apart but the names of registers. -/
structure Linker.Resembles (linker other : Linker) : Prop where
  pending : UnitsAlike linker.pending other.pending
  materialized : UnitsAlike linker.materialized other.materialized
  released : UnitsAlike linker.released other.released
  image : List.Forall₂ Loaded.Alike linker.image other.image
  batches : other.batches = linker.batches
  hostSymbols : other.hostSymbols = linker.hostSymbols

namespace Linker

variable {platform : Platform} {linker other : Linker}

/-- A linker resembles itself. -/
theorem Resembles.refl (linker : Linker) : Resembles linker linker := by
  constructor
  case pending => exact .refl _
  case materialized => exact .refl _
  case released => exact .refl _
  case image => exact List.forall₂_same.mpr fun loaded _ => ⟨.refl _, rfl⟩
  case batches => rfl
  case hostSymbols => rfl

/-- Units that are alike come in. -/
theorem Resembles.add (alike : Resembles linker other) {unit unitToo : CompiledUnit}
    (alikeToo : unit.Alike unitToo) : Resembles (linker.add unit) (other.add unitToo) :=
  { alike with pending := List.rel_append alike.pending (.cons alikeToo .nil) }

/-- The host functions that were found are remembered on both sides. -/
theorem Resembles.withHostSymbols (alike : Resembles linker other) (names : List String) :
    Resembles (linker.withHostSymbols names) (other.withHostSymbols names) :=
  { alike with hostSymbols := congrArg (NameSet.union · names) alike.hostSymbols }

/-- The same functions are live. -/
theorem Resembles.liveDefinitions (alike : Resembles linker other) :
    linker.liveDefinitions = other.liveDefinitions :=
  alike.materialized.flatMap_eq _ fun _ => rfl

/-! ## Materialization -/

/-- Candidates that are alike are dropped in the same rounds. -/
theorem settle_alike (platform : Platform) (live : List String) (limit : Nat)
    {candidates others : List CompiledUnit} (alike : UnitsAlike candidates others)
    (found : NameSet) :
    UnitsAlike (settle platform live limit candidates found).1
        (settle platform live limit others found).1 ∧
      (settle platform live limit candidates found).2 =
        (settle platform live limit others found).2 := by
  induction limit generalizing candidates others found with
  | zero => exact ⟨alike, rfl⟩
  | succ limit inductionHypothesis =>
    have provided : candidates.flatMap (·.defined) = others.flatMap (·.defined) :=
      alike.flatMap_eq _ fun _ => rfl
    have required : candidates.flatMap (·.required) = others.flatMap (·.required) :=
      alike.flatMap_eq _ fun _ => rfl
    have ready := alike.filter (fun unit =>
      (missing platform (live ++ others.flatMap (·.defined)) unit).isEmpty) fun _ => rfl
    simp only [settle, answeredByHost, provided, required, ready.length_eq, alike.length_eq]
    split
    · exact ⟨alike, rfl⟩
    · exact inductionHypothesis ready _

/-- The units that are ready, and the host functions found on the way. -/
def chosen (platform : Platform) (linker : Linker) : List CompiledUnit × NameSet :=
  settle platform linker.liveDefinitions (linker.pending.length + 1) linker.pending []

/-- To materialize is to load the units that are chosen, if there are any, and to remember the host
functions. -/
theorem materialize_chosen (platform : Platform) (linker : Linker) :
    (linker.materialize platform).2 =
      if (linker.chosen platform).1.isEmpty then
        linker.withHostSymbols (linker.chosen platform).2
      else (linker.load (linker.chosen platform).1).withHostSymbols (linker.chosen platform).2 := by
  unfold materialize
  change (if (linker.chosen platform).1.isEmpty then _ else _ : List Nat × Linker).2 = _
  split <;> rfl

/-- What resembled each other does so after loading counterparts. -/
theorem Resembles.load (alike : Resembles linker other) {ready readyToo : List CompiledUnit}
    (chosen : UnitsAlike ready readyToo) : Resembles (linker.load ready) (other.load readyToo) := by
  have numbers : ready.map (·.number) = readyToo.map (·.number) := chosen.map_eq _ fun _ => rfl
  have loaded : UnitsAlike (ready.map loadedUnit) (readyToo.map loadedUnit) :=
    List.rel_map (fun _ _ alike => alike.withState _) chosen
  constructor
  case pending =>
    change UnitsAlike (linker.pending.filter _) (other.pending.filter _)
    rw [numbers]
    exact alike.pending.filter _ fun _ => rfl
  case materialized => exact List.rel_append alike.materialized loaded
  case released => exact alike.released
  case image =>
    refine List.rel_append alike.image (List.rel_map ?_ loaded)
    exact fun _ _ alikeUnit => ⟨alikeUnit, alike.batches⟩
  case batches => exact congrArg (· + 1) alike.batches
  case hostSymbols => exact alike.hostSymbols

/-- Materializing leaves linkers alike. -/
theorem Resembles.materialize (alike : Resembles linker other) (platform : Platform) :
    Resembles (linker.materialize platform).2 (other.materialize platform).2 := by
  have settled := settle_alike platform linker.liveDefinitions (linker.pending.length + 1)
    alike.pending []
  rw [materialize_chosen, materialize_chosen]
  unfold chosen
  rw [← alike.liveDefinitions, ← alike.pending.length_eq, ← settled.2, ← settled.1.isEmpty_eq]
  split
  · exact alike.withHostSymbols _
  · exact (alike.load settled.1).withHostSymbols _

/-! ## Looking up -/

/-- The newest pending units for a name are alike. -/
theorem Resembles.pendingUnit? (alike : Resembles linker other) (name : String) :
    (linker.pendingUnit? name).map CompiledUnit.bare =
      (other.pendingUnit? name).map CompiledUnit.bare := by
  have view (units : List CompiledUnit) :
      (units.reverse.find? (name ∈ ·.defined)).map CompiledUnit.bare =
        (units.map CompiledUnit.bare).reverse.find? (name ∈ ·.defined) := by
    rw [← List.map_reverse, List.find?_map]
    rfl
  rw [Linker.pendingUnit?, Linker.pendingUnit?, view, view, alike.pending.bare]

/-- What the newest pending units for a name require is the same. -/
theorem Resembles.required (alike : Resembles linker other) (name : String) :
    (linker.pendingUnit? name).map (·.required) = (other.pendingUnit? name).map (·.required) := by
  have same := congrArg (Option.map CompiledUnit.required) (alike.pendingUnit? name)
  rw [Option.map_map, Option.map_map] at same
  exact same

/-- The same names are needed. -/
theorem Resembles.needs (alike : Resembles linker other) (platform : Platform) :
    linker.needs platform = other.needs platform := by
  funext name
  unfold Linker.needs
  rcases both_of_map_eq (alike.required name) with
    ⟨missing, missingToo⟩ | ⟨unit, unitToo, found, foundToo, same⟩
  · rw [missing, missingToo]
  · rw [found, foundToo, alike.liveDefinitions]
    exact congrArg (List.filter _) same

/-- The same host functions are needed. -/
theorem Resembles.hostNeeds (alike : Resembles linker other) (platform : Platform) :
    linker.hostNeeds platform = other.hostNeeds platform := by
  funext name
  unfold Linker.hostNeeds
  rcases both_of_map_eq (alike.required name) with
    ⟨missing, missingToo⟩ | ⟨unit, unitToo, found, foundToo, same⟩
  · rw [missing, missingToo]
  · rw [found, foundToo, alike.liveDefinitions]
    exact congrArg (List.filter _) same

/-- The same names can be reached. -/
theorem Resembles.reachable (alike : Resembles linker other) (platform : Platform) :
    linker.reachable platform = other.reachable platform := by
  funext name
  unfold Linker.reachable
  rw [alike.needs, alike.pending.flatMap_eq _ fun _ => rfl]

/-- The same names are unresolved. -/
theorem Resembles.unresolved (alike : Resembles linker other) (platform : Platform) :
    linker.unresolved platform = other.unresolved platform := by
  have pending (name : String) :
      (linker.pendingUnit? name).isNone = (other.pendingUnit? name).isNone := by
    have same := congrArg Option.isNone (alike.pendingUnit? name)
    rwa [Option.isNone_map, Option.isNone_map] at same
  funext name
  unfold Linker.unresolved
  simp only [alike.reachable, pending]

/-- Units of the image are found at the same positions. -/
theorem position?_bare (image : List Loaded) (name : String) :
    position? (image.map Loaded.bare) name = position? image name := by
  unfold position?
  rw [List.zipIdx_map, ← List.map_reverse, List.find?_map, Option.map_map]
  rfl

/-- What a call is bound to does not depend on the bodies in the image. -/
theorem bound?_bare (image : List Loaded) (caller : Nat) (name : String) :
    bound? (image.map Loaded.bare) caller name = bound? image caller name := by
  unfold bound?
  rw [List.getElem?_map, ← List.map_take, position?_bare]
  cases image[caller]? with
  | none => rfl
  | some loaded =>
    dsimp only [Option.map_some]
    rw [List.zipIdx_map, List.find?_map, Option.map_map]
    rfl

/-! ## Running -/

section

variable {image imageToo : List Loaded}

/-- In images that are alike a function has the same place. -/
theorem position?_alike (alike : List.Forall₂ Loaded.Alike image imageToo) :
    position? image = position? imageToo := by
  funext name
  rw [← position?_bare, map_eq_of_forall₂ alike fun _ _ => Loaded.Alike.bare, position?_bare]

/-- In images that are alike a call is bound to the same place. -/
theorem bound?_alike (alike : List.Forall₂ Loaded.Alike image imageToo) :
    bound? image = bound? imageToo := by
  funext caller name
  rw [← bound?_bare, map_eq_of_forall₂ alike fun _ _ => Loaded.Alike.bare, bound?_bare]

/-- The bodies at a position do the same. -/
theorem bodiesAlike (alike : List.Forall₂ Loaded.Alike image imageToo) (position : Nat)
    (symbol : String) :
    Option.Rel BodiesAlike (image[position]?.bind (·.unit.block? symbol))
      (imageToo[position]?.bind (·.unit.block? symbol)) := by
  induction alike generalizing position with
  | nil => exact .none
  | cons first _ inductionHypothesis =>
    cases position with
    | zero => exact first.unit.blocks symbol
    | succ position => exact inductionHypothesis position

/-- Functions of images that are alike do the same. -/
theorem run_alike (alike : List.Forall₂ Loaded.Alike image imageToo) (platform : Platform)
    (depth : Nat) : run platform image depth = run platform imageToo depth := by
  induction depth with
  | zero => rfl
  | succ depth inductionHypothesis =>
    funext position symbol arguments
    have bodies := bodiesAlike alike position symbol
    rw [run, run, bound?_alike alike, inductionHypothesis]
    cases found : image[position]?.bind (·.unit.block? symbol) with
    | none =>
      rw [found] at bodies
      cases foundToo : imageToo[position]?.bind (·.unit.block? symbol) with
      | none => rfl
      | some body =>
        rw [foundToo] at bodies
        cases bodies
    | some body =>
      rw [found] at bodies
      cases foundToo : imageToo[position]?.bind (·.unit.block? symbol) with
      | none =>
        rw [foundToo] at bodies
        cases bodies
      | some bodyToo =>
        rw [foundToo] at bodies
        cases bodies with
        | some same => exact same.runs (Except Fault) platform _ arguments

end

/-- A function is looked up with the same result. -/
theorem address_alike (alike : Resembles linker other) (platform : Platform) (name : String) :
    Agree (address platform name) (address platform name) linker other
      (fun position after positionToo afterToo => position = positionToo ∧ Resembles after afterToo)
      Resembles := by
  have materializes : Agree
      (modify fun linker : Linker => (linker.materialize platform).2 : Action Linker PUnit)
      (modify fun linker => (linker.materialize platform).2) linker other
      (fun _ after _ afterToo => Resembles after afterToo) Resembles := alike.materialize platform
  apply materializes.bind
  rintro _ after _ afterToo alike
  apply agree_get
  dsimp only
  rw [alike.liveDefinitions, position?_alike alike.image]
  split
  · cases position? afterToo.image name with
    | some position => exact agree_pure ⟨rfl, alike⟩
    | none => exact agree_throw _ alike
  · rw [alike.unresolved, alike.reachable, alike.hostNeeds]
    exact ⟨rfl, alike.withHostSymbols _⟩

/-- **Calling a function gives the same value or the same fault**, and leaves linkers alike. -/
theorem call_alike (alike : Resembles linker other) (platform : Platform) (name : String)
    (arguments : List Float) :
    Agree (call platform name arguments) (call platform name arguments) linker other
      (fun value after valueToo afterToo => value = valueToo ∧ Resembles after afterToo)
      Resembles := by
  apply (address_alike alike platform name).bind
  rintro position after _ afterToo ⟨rfl, alike⟩
  apply agree_get
  rw [run_alike alike.image]
  cases run platform afterToo.image (platform.depth + 1) position name arguments with
  | ok value => exact agree_pure ⟨rfl, alike⟩
  | error fault => cases fault <;> exact agree_throw _ alike

end Linker

end Reckon
