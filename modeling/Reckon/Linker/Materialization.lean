import Reckon.Linker.State

/-!
# Materialization

All pending units are candidates at first. A candidate with a call that no materialized
unit, no candidate and no host function answers is dropped; as this may leave others
without an answer, the candidates are gone over until none is dropped. What remains is
the largest set of pending units in which every call has an answer.

When a function is wanted that is still not live, the blame falls on every name that
can be reached from it through pending units and that nobody defines.
-/

namespace Reckon

namespace Linker

/-- The calls of a unit that neither the provided functions nor the host answers. -/
def missing (platform : Platform) (provided : List String) (unit : CompiledUnit) : List String :=
  unit.required.filter fun name => name ∉ provided && !platform.provides name

/-- The calls of units that the host answers because nobody else does. -/
def answeredByHost (platform : Platform) (provided : List String) (units : List CompiledUnit) :
    List String :=
  (units.flatMap (·.required)).filter fun name => name ∉ provided && platform.provides name

/-- Goes over the candidates until none is dropped, at most `limit` times. Also gives the
host functions found on the way. -/
def settle (platform : Platform) (live : List String) :
    Nat → List CompiledUnit → NameSet → List CompiledUnit × NameSet
  | 0, candidates, found => (candidates, found)
  | limit + 1, candidates, found =>
    let provided := live ++ candidates.flatMap (·.defined)
    let ready := candidates.filter fun unit => (missing platform provided unit).isEmpty
    let found := found.union (answeredByHost platform provided candidates)
    if ready.length = candidates.length then (candidates, found)
    else settle platform live limit ready found

/-- Materializes every pending unit whose calls can be answered; gives their numbers. -/
def materialize (platform : Platform) (linker : Linker) : List Nat × Linker :=
  let (ready, found) :=
    settle platform linker.liveDefinitions (linker.pending.length + 1) linker.pending []
  let linker := linker.withHostSymbols found
  if ready.isEmpty then ([], linker)
  else
    let numbers := ready.map (·.number)
    let loaded := ready.map fun unit => { unit with state := .materialized }
    (numbers,
      { linker with
        pending := linker.pending.filter (·.number ∉ numbers)
        materialized := linker.materialized ++ loaded
        image := linker.image ++ loaded.map ({ unit := ·, batch := linker.batches })
        batches := linker.batches + 1 })

/-- The newest pending unit that defines a function. -/
def pendingUnit? (linker : Linker) (name : String) : Option CompiledUnit :=
  linker.pending.reverse.find? (name ∈ ·.defined)

/-- The functions that a pending function needs and that are neither live nor the host's. -/
def needs (platform : Platform) (linker : Linker) (name : String) : List String :=
  match linker.pendingUnit? name with
  | some unit =>
    unit.required.filter fun required =>
      required ∉ linker.liveDefinitions && !platform.provides required
  | none => []

/-- The host functions that a pending function needs. -/
def hostNeeds (platform : Platform) (linker : Linker) (name : String) : List String :=
  match linker.pendingUnit? name with
  | some unit =>
    unit.required.filter fun required =>
      required ∉ linker.liveDefinitions && platform.provides required
  | none => []

/-- The names that can be reached in a number of rounds. -/
def reach (needs : String → List String) : Nat → NameSet → NameSet
  | 0, names => names
  | rounds + 1, names => reach needs rounds (names.union (names.flatMap needs))

/-- The names that can be reached from a function. A round that reaches nothing new is the
last that matters, and only required names can be new. -/
def reachable (platform : Platform) (linker : Linker) (name : String) : NameSet :=
  reach (linker.needs platform) (linker.pending.flatMap (·.required)).length [name]

/-- The reachable names that no pending unit defines. -/
def unresolved (platform : Platform) (linker : Linker) (name : String) : List String :=
  (linker.reachable platform name).filter fun reached => (linker.pendingUnit? reached).isNone

/-- The newest unit in the image that defines a function, by its position. -/
def position? (image : List Loaded) (name : String) : Option Nat :=
  (image.zipIdx.reverse.find? (name ∈ ·.1.unit.defined)).map (·.2)

/-- The position of a function in the image, after materializing what can be. -/
def address (platform : Platform) (name : String) : Action Linker Nat := do
  modify fun linker => (linker.materialize platform).2
  let linker ← get
  if name ∈ linker.liveDefinitions then
    match position? linker.image name with
    | some position => return position
    | none => throw (.run (.unresolved [name] ""))
  else
    let names := linker.unresolved platform name
    set (linker.withHostSymbols
      ((linker.reachable platform name).flatMap (linker.hostNeeds platform)))
    throw (.run (.unresolved names name))

/-- Whether there is a host function of this name, remembered if so. -/
def hostSymbol (platform : Platform) (name : String) (linker : Linker) : Bool × Linker :=
  let (function, hostSymbols) := platform.lookUp name linker.hostSymbols
  (function.isSome, { linker with hostSymbols })

/-- Takes a unit out; gives the functions that it defined. -/
def release (number : Nat) : Action Linker NameSet := do
  let linker ← get
  match linker.materialized.find? (·.number = number) with
  | some unit =>
    set { linker with
      materialized := linker.materialized.filter (·.number ≠ number)
      released := linker.released ++ [{ unit with state := .released }] }
    return unit.defined
  | none =>
    match linker.pending.find? (·.number = number) with
    | some unit =>
      set { linker with
        pending := linker.pending.filter (·.number ≠ number)
        released := linker.released ++ [{ unit with state := .released }] }
      return unit.defined
    | none => throw (.run (.alreadyReleased (unitName number)))

end Linker

end Reckon
