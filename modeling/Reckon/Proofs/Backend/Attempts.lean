import Reckon.Proofs.Backend.Keeping
import Reckon.Proofs.Backend.Lengthening
import Reckon.Proofs.Backend.Stock
import Reckon.Proofs.Calls
import Reckon.Proofs.Evaluator.Compilation

/-!
# Attempts to compile

A back end may be asked to declare a function, to define one, or to compile a body for one that
is declared, and may refuse. Whatever part of a body it has gone through by then, what it leaves
behind should be declarations only: of the prototype itself, and of recorded functions that the
body calls. Then the function can be defined after all, and does what it would have done if the
attempt had never been made.
-/

namespace Reckon

open Reckon.Action

/-- What a back end may be asked to compile. -/
inductive Attempt where
  | declare (prototype : Prototype)
  | define (definition : Definition)
  | defineBody (handle : Handle) (body : Node) (parameters : List String)

/-- A prototype that is declared in the open unit, as it looks from outside. -/
def Prototype.announced {γ : Type} (symbol : String → String) (prototype : Prototype) : Held γ :=
  { name := symbol prototype.name, arity := prototype.arity, body := none }

namespace Attempt

/-- Compiles what is asked for. -/
def run {β : Type} [Backend β] (session : Session) : Attempt → Action β Unit
  | declare prototype => do
    let _ ← Declarations.declare session prototype
  | define definition => do
    let _ ← Reckon.define session definition
  | defineBody handle body parameters => Backend.defineBody session handle body parameters

/-- The prototype that it declares itself, if there is one. -/
def header? : Attempt → Option Prototype
  | declare prototype => some prototype
  | define definition => some definition.prototype
  | defineBody .. => none

/-- The names of the functions that its body calls. -/
def callees : Attempt → List String
  | declare _ => []
  | define definition => definition.body.calls.map Prod.fst
  | defineBody _ body _ => body.calls.map Prod.fst

/-- A handle that it is about is one of this unit. -/
def IsWithin (number : Nat) : Attempt → Prop
  | defineBody handle _ _ => handle.unit = number
  | _ => True

/-- The prototype is its own, or the recorded one of a function that its body calls. -/
def Declares (session : Session) (attempt : Attempt) (prototype : Prototype) : Prop :=
  attempt.header? = some prototype ∨
    ∃ name ∈ attempt.callees, session.find? name = some prototype

/-- The prototype is that of the function which is to be compiled. -/
def IsOf {β : Type} [Backend β] (backend : β) (prototype : Prototype) : Attempt → Prop
  | declare own => prototype = own
  | define definition => prototype = definition.prototype
  | defineBody handle _ _ => Declarations.lookup backend prototype.name = some handle

end Attempt

/-- What an action comes to, whatever state it leaves. -/
def Action.answer {σ α : Type} (action : EStateM Fault σ α) (state : σ) : Except Fault α :=
  match action state with
  | .ok value _ => .ok value
  | .error fault _ => .error fault

section

variable {β : Type} [Backend β]

/-- What a function answers when the open unit has been handed off, unless the unit is rejected. -/
def answer? (platform : Platform) (handle : Handle) (arguments : List Float) (backend : β) :
    Option (Except Fault Float) :=
  match Backend.handOff backend with
  | .ok _ closed => some (Action.answer (Backend.execute platform handle arguments) closed)
  | .error _ _ => none

/-- Nothing is left of an attempt but declarations that it makes, behind the functions that were in
the open unit before. -/
structure LeavesDeclarations [Stocked β] (session : Session) (attempt : Attempt)
    (symbol : String → String) (before after : β) : Prop where
  defined : Backend.defined after = Backend.defined before
  stock : Stocked.stock after = Stocked.stock before
  number : (Stocked.opened after).number = (Stocked.opened before).number
  opened : Extended
    (fun function => ∃ prototype, attempt.Declares session prototype ∧
      function = prototype.announced symbol)
    (Stocked.opened before).functions (Stocked.opened after).functions

/-- Any definition of the function that would have been accepted before the attempt is accepted
after it, and the function answers the same. -/
def MayBeRetried (session : Session) (attempt : Attempt) (before after : β) : Prop :=
  ∀ (again : Definition) (handle : Handle) (defined : β), attempt.IsOf before again.prototype →
    define session again before = .ok handle defined →
    ∃ definedToo, define session again after = .ok handle definedToo ∧
      ∀ platform arguments,
        answer? platform handle arguments definedToo = answer? platform handle arguments defined

end

/-! ## Prototypes that may come -/

/-- The prototypes that a definition may declare: its own, and the recorded ones. -/
def Session.Offers (session : Session) (own prototype : Prototype) : Prop :=
  prototype = own ∨ session.find? prototype.name = some prototype

section

variable {session : Session} {attempt : Attempt}

/-- What an attempt has declared agrees with all that defining its function may declare. -/
theorem Attempt.Declares.arity_eq (keyed : session.Keyed) {own : Prototype}
    (itself : ∀ header, attempt.header? = some header → header = own)
    (accepted : session.prototypeFault? own = none) {declared prototype : Prototype}
    (declares : attempt.Declares session declared) (offers : session.Offers own prototype)
    (same : prototype.name = declared.name) : declared.arity = prototype.arity := by
  have recordedArity (known : Prototype) (recorded : session.find? own.name = some known) :
      known.arity = own.arity :=
    ((session.prototypeFault?_eq_none_iff own).mp accepted).2 known recorded
  rcases declares with header | ⟨name, _, recorded⟩
  · obtain rfl := itself declared header
    rcases offers with rfl | recordedToo
    · rfl
    · rw [same] at recordedToo
      exact (recordedArity prototype recordedToo).symm
  · obtain rfl := keyed name declared recorded
    rcases offers with rfl | recordedToo
    · rw [← same] at recorded
      exact recordedArity declared recorded
    · rw [same, recorded] at recordedToo
      exact congrArg Prototype.arity (Option.some.inj recordedToo)

/-- An attempt keeps what the operations of the back end keep. -/
theorem Attempt.run_keeps {β : Type} [Backend β] {good : β → Prop} (kept : Kept good)
    (attempt : Attempt) : Keeps good (attempt.run session : Action β Unit) := by
  cases attempt with
  | declare prototype => exact (kept.declares session prototype).bind fun _ => keeps_pure _
  | define definition => exact (kept.define session definition).bind fun _ => keeps_pure _
  | defineBody handle body parameters => exact kept.defines session handle body parameters

/-- An attempt declares no other prototype than that of its function. -/
theorem Attempt.IsOf.header_eq {β : Type} [Backend β] {backend : β} {own : Prototype}
    (isOf : attempt.IsOf backend own) {header : Prototype}
    (declares : attempt.header? = some header) : header = own := by
  cases attempt with
  | declare prototype =>
    cases declares
    exact isOf.symm
  | define definition =>
    cases declares
    exact isOf.symm
  | defineBody handle body parameters => cases declares

end

end Reckon
