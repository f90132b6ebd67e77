import Reckon.Proofs.Backend.Lengthening
import Reckon.Proofs.Evaluator.Keeping

/-!
# What a refused body leaves in the open unit

While a body is resolved the open unit gets declarations: of the function itself, and of
recorded functions that the body calls. They stand behind what was there before, and
nothing else in the evaluator changes. So this is all that a refused body can leave.
-/

namespace Reckon

namespace Evaluator

open Reckon.Action

/-- The functions of the open unit, in the order in which they came in. -/
abbrev declarations (evaluator : Evaluator) : List (String × Function) :=
  evaluator.current.functions.entries

/-- The entry of a prototype that is declared. -/
def declared (prototype : Prototype) : String × Function := (prototype.name, ⟨prototype, none⟩)

/-- The declaration of a function that is recorded under one of the names. -/
def Recalled (session : Session) (names : List String) (entry : String × Function) : Prop :=
  ∃ name ∈ names, ∃ known, session.find? name = some known ∧ entry = declared known

/-- The open unit has got entries of one kind, and all else is as before. -/
structure Adds (kind : String × Function → Prop) (before after : Evaluator) : Prop where
  same : after = { before with current := after.current }
  number : after.current.number = before.current.number
  extended : Extended kind before.declarations after.declarations

namespace Adds

variable {kind : String × Function → Prop} {first second third : Evaluator}

/-- Nothing has been added where nothing has happened. -/
theorem refl (kind : String × Function → Prop) (evaluator : Evaluator) :
    Adds kind evaluator evaluator := ⟨rfl, rfl, .refl ..⟩

/-- What was added in two rounds was added. -/
theorem trans (start : Adds kind first second) (rest : Adds kind second third) :
    Adds kind first third := by
  refine ⟨?_, rest.number.trans start.number, start.extended.trans rest.extended⟩
  rw [rest.same, start.same]

/-- Entries of one kind are entries of any wider kind. -/
theorem imp {weaker : String × Function → Prop} (implies : ∀ entry, kind entry → weaker entry)
    (adds : Adds kind first second) : Adds weaker first second :=
  { adds with extended := adds.extended.imp implies }

end Adds

variable {session : Session}

/-- Declaring adds the prototype at most, and nothing if it is refused. -/
theorem declare_adds (session : Session) (prototype : Prototype) (evaluator : Evaluator) :
    Ensures (declare session prototype) evaluator fun
      | .ok _ after => Adds (· = declared prototype) evaluator after
      | .error _ after => after = evaluator := by
  have spec := declare_ensures session prototype evaluator
  unfold Ensures at spec ⊢
  cases ended : declare session prototype evaluator with
  | error fault after =>
    rw [ended] at spec
    exact spec.1
  | ok handle after =>
    rw [ended] at spec
    obtain ⟨_, _, _, rfl | ⟨absent, rfl⟩⟩ := spec
    · exact .refl ..
    · refine ⟨rfl, rfl, ?_⟩
      change Extended _ _ (evaluator.current.functions.put _ _).entries
      rw [Catalog.entries_put_of_none absent]
      exact @Extended.snoc _ (· = declared prototype) _ rfl _

/-- Resolving a body only adds declarations of recorded functions that it calls. -/
theorem compile_adds (session : Session) (parameters : List String) (node : Node)
    (start : Evaluator) :
    Keeps (Adds (Recalled session (node.calls.map Prod.fst)) start)
      (compile session parameters node) := by
  refine compile_keeps_of fun call made => resolve_keeps fun known recorded => ?_
  apply keeps_of_ensures (declare_adds session known)
  · intro evaluator handle after adds more
    refine adds.trans (more.imp ?_)
    rintro entry rfl
    exact ⟨call.1, List.mem_map_of_mem made, known, recorded, rfl⟩
  · rintro evaluator fault after adds rfl
    exact adds

variable {handle : Handle} {body : Node} {parameters : List String} {function : Definition}
  {evaluator after : Evaluator} {fault : Fault}

/-- A body that is refused leaves such declarations. -/
theorem defineBody_adds
    (refused : defineBody session handle body parameters evaluator = .error fault after) :
    Adds (Recalled session (body.calls.map Prod.fst)) evaluator after := by
  unfold defineBody at refused
  rw [get_bind] at refused
  rcases bind_eq_error_iff.mp refused with checked | ⟨_, _, passed, later⟩
  · obtain ⟨_, rfl⟩ := check_error checked
    exact .refl ..
  · cases check_ok passed
    rcases bind_eq_error_iff.mp later with unresolved | ⟨_, _, _, impossible⟩
    · exact (compile_adds session parameters body evaluator).of_error unresolved (.refl ..)
    · cases impossible

/-- A definition that is refused leaves such declarations and its own. -/
theorem define_adds (refused : define session function evaluator = .error fault after) :
    Adds (fun entry => entry = declared function.prototype ∨
      Recalled session (function.body.calls.map Prod.fst) entry) evaluator after := by
  have declares := declare_adds session function.prototype evaluator
  rcases bind_eq_error_iff.mp refused with undeclared | ⟨handle, middle, accepted, later⟩
  · change Evaluator.declare _ _ _ = _ at undeclared
    rw [Ensures, undeclared] at declares
    rw [declares]
    exact .refl ..
  · change Evaluator.declare _ _ _ = _ at accepted
    rw [Ensures, accepted] at declares
    rcases bind_eq_error_iff.mp later with bodies | ⟨_, _, _, impossible⟩
    · exact (declares.imp fun _ => .inl).trans ((defineBody_adds bodies).imp fun _ => .inr)
    · cases impossible

end Evaluator

end Reckon
