import Reckon.Fault
import Reckon.Platform
import Reckon.Session

/-!
# Back ends

A back end compiles functions into its open unit, hands units off, runs the functions
of the units that were handed off, and gives units up again. Whoever drives it sees
functions by handles and units by numbers.

What every back end must agree on stands here: which prototypes and which new bodies
are refused, and how the name in a call finds a function. The open unit is asked
first; a function that lives elsewhere is declared again from its latest prototype.
-/

namespace Reckon

/-- A function by the unit it was declared in and its symbol there. -/
structure Handle where
  unit : Nat
  symbol : String
  deriving DecidableEq, Repr

/-- The name of a unit, which is its number among the units opened so far. -/
def unitName (number : Nat) : String := "tylang_unit" ++ toString number

/-- What a step of a back end computes: a result or a fault, and the state after it. -/
abbrev Action (β α : Type) := EStateM Fault β α

/-- Stops with a fault if there is one. -/
def check {β : Type} (fault? : Option Fault) : Action β Unit :=
  match fault? with
  | some fault => throw fault
  | none => pure ()

/-- The first name that occurs among those before it. -/
def firstRepeated? : List String → List String → Option String
  | _, [] => none
  | before, name :: rest =>
    if name ∈ before then some name else firstRepeated? (name :: before) rest

/-- Why a prototype is refused: a parameter is repeated, or a recorded prototype of the
name has another arity. -/
def Session.prototypeFault? (session : Session) (prototype : Prototype) : Option Fault :=
  match firstRepeated? [] prototype.parameters with
  | some parameter =>
    some (.compile (.duplicateParameter prototype.name parameter) prototype.location)
  | none =>
    match session.find? prototype.name with
    | some known =>
      if known.arity = prototype.arity then none
      else some (.compile (.conflictingDeclaration prototype.name known.arity prototype.arity)
        prototype.location)
    | none => none

/-- Why a declaration in the open unit is refused: the unit has one of another arity. -/
def declarationFault? (prototype : Prototype) (arity : Nat) : Option Fault :=
  if arity = prototype.arity then none
  else some (.compile (.conflictingDeclaration prototype.name arity prototype.arity)
    prototype.location)

/-- Why a body is refused: its function has one here, or is defined in some unit. Every
unit may have an anonymous function of its own. -/
def redefinitionFault? (defined : NameSet) (name : String) (hasBody : Bool)
    (location : Option Location) : Option Fault :=
  if hasBody || (name ∈ defined && name ≠ anonymousName) then
    some (.compile (.redefinition name) location)
  else none

/-- A repetition is found exactly if the names, or the names and those before, repeat. -/
theorem firstRepeated?_eq_none_iff (before names : List String) :
    firstRepeated? before names = none ↔
      names.Nodup ∧ ∀ name ∈ names, name ∉ before := by
  induction names generalizing before with
  | nil => simp [firstRepeated?]
  | cons name rest inductionHypothesis =>
    rw [firstRepeated?]
    split
    · rename_i present
      simp [present]
    · rename_i absent
      rw [inductionHypothesis]
      simp only [List.nodup_cons, List.mem_cons, not_or, forall_eq_or_imp]
      constructor
      · rintro ⟨unique, apart⟩
        exact ⟨⟨fun member => (apart name member).1 rfl, unique⟩, absent,
          fun other member => (apart other member).2⟩
      · rintro ⟨⟨new, unique⟩, _, apart⟩
        exact ⟨unique, fun other member =>
          ⟨fun same => new (same ▸ member), apart other member⟩⟩

/-- The part of a back end that finds and declares functions. -/
class Declarations (β : Type) where
  /-- The function of the open unit with this name. -/
  lookup : β → String → Option Handle
  /-- Declares a function in the open unit, or finds it declared with the same arity. -/
  declare : Session → Prototype → Action β Handle
  /-- The number of parameters that a function was declared with. -/
  arity : β → Handle → Nat

/-- Finds the function that a name in a call means. -/
def resolve {β : Type} [Declarations β] (session : Session) (name : String) :
    Action β (Option Handle) := do
  match Declarations.lookup (← get) name with
  | some handle => return some handle
  | none =>
    match session.find? name with
    | some prototype => return some (← Declarations.declare session prototype)
    | none => return none

/-- The operations of a back end. -/
class Backend (β : Type) extends Declarations β where
  /-- Compiles a body for a declared function. -/
  defineBody : Session → Handle → Node → List String → Action β Unit
  /-- Hands the open unit off and opens the next; gives the number of the unit. -/
  handOff : Action β Nat
  /-- Runs a function. -/
  execute : Platform → Handle → List Float → Action β Float
  /-- Gives a unit up and forgets the functions that it defined. -/
  release : Nat → Action β Unit
  /-- Whether a function has a body. -/
  hasBody : β → Handle → Bool
  /-- The text of a function. -/
  dump : β → Handle → String
  /-- The names of the functions with a live body. -/
  defined : β → NameSet
  /-- What the back end notes about units handed off and given up: the name it signs
  with, or nothing if it keeps no notes. -/
  signature : Option String

/-- Declares a function and compiles its body. -/
def define {β : Type} [Backend β] (session : Session) (definition : Definition) :
    Action β Handle := do
  let handle ← Declarations.declare session definition.prototype
  Backend.defineBody session handle definition.body definition.prototype.parameters
  return handle

end Reckon
