import Reckon.Proofs.Evaluator.Retrial
import Reckon.Proofs.Generator.Retrial

/-!
# Refused attempts

Neither side loses anything when it refuses to compile: what it leaves behind is declarations, and
the session is only read. The function can be defined after all. One thing can go wrong then in the
generator, and only for names that no program can spell: if the session records a function of the
reserved name and one whose name is the symbol that anonymous functions have in the open module, a
declaration of one may be left where the other is called.
-/

namespace Reckon

open Reckon.Action

variable {session : Session}

/-- **A refused attempt leaves only declarations behind**, and after it a definition of the function
is accepted if it would have been accepted before, and answers the same. -/
theorem refused_attempt_leaves_declarations (keyed : session.Keyed) (attempt : Attempt)
    {fault : Fault} (refused : fault.IsCompile) :
    (∀ before after : Evaluator, attempt.run session before = .error fault after →
      after = { before with current := after.current } ∧
        LeavesDeclarations session attempt id before after ∧
        MayBeRetried session attempt before after) ∧
    ∀ before after : Generator, before.Reachable → attempt.IsWithin before.current.number →
      attempt.run session before = .error fault after →
      after = { before with current := after.current } ∧
        LeavesDeclarations session attempt before.current.symbol before after ∧
        (session.Unambiguous before.current → MayBeRetried session attempt before after) := by
  constructor
  · intro before after failed
    exact ⟨(Evaluator.run_adds failed).same, Evaluator.leavesDeclarations failed,
      Evaluator.mayBeRetried keyed failed⟩
  · intro before after reached within failed
    exact ⟨(Generator.run_adds reached.sound reached.earlier within refused failed).same,
      Generator.leavesDeclarations reached.sound reached.earlier within refused failed,
      fun unambiguous => Generator.mayBeRetried keyed unambiguous reached.sound reached.earlier
        within refused failed⟩

/-- A body that calls a recorded function is refused for a variable that is unknown. Then the
function is defined with another body. -/
theorem misspelt_variable_is_put_right :
    let session := Session.fresh.record ⟨"g", ["a"], none⟩
    let header : Prototype := ⟨"f", ["x"], none⟩
    let misspelt : Node :=
      .binary "+" (.call "g" [.reference "x" none] none) (.reference "y" none) none
    let doubled : Node := .binary "*" (.reference "x" none) (.number 2 none) none
    let attempt : Attempt := .define ⟨header, misspelt, none⟩
    let again : Definition := ⟨header, doubled, none⟩
    let fault : Fault := .compile (.unknownVariable "y") none
    session.Keyed ∧ fault.IsCompile ∧
      (∃ (left plain corrected : Evaluator),
        attempt.run session Evaluator.initial = .error fault left ∧
        left.current.functions.keys = ["f", "g"] ∧
        define session again Evaluator.initial = .ok ⟨1, "f"⟩ plain ∧
        define session again left = .ok ⟨1, "f"⟩ corrected ∧
        ∀ platform arguments, answer? platform ⟨1, "f"⟩ arguments corrected =
          answer? platform ⟨1, "f"⟩ arguments plain) ∧
      ∃ (left plain corrected : Generator),
        attempt.run session (Generator.initial 2 none) = .error fault left ∧
        left.current.routines.keys = ["f", "g"] ∧
        define session again (Generator.initial 2 none) = .ok ⟨1, "f"⟩ plain ∧
        define session again left = .ok ⟨1, "f"⟩ corrected ∧
        ∀ platform arguments, answer? platform ⟨1, "f"⟩ arguments corrected =
          answer? platform ⟨1, "f"⟩ arguments plain := by
  intro session header misspelt doubled attempt again fault
  have keyed : session.Keyed := Session.keyed_fresh.record _
  have refused : fault.IsCompile := ⟨_, _, rfl⟩
  obtain ⟨evaluators, generators⟩ := refused_attempt_leaves_declarations keyed attempt refused
  refine ⟨keyed, refused, ?_, ?_⟩
  · have failed : attempt.run session Evaluator.initial =
        .error fault (after (attempt.run session) Evaluator.initial) := rfl
    have done : define session again Evaluator.initial =
        .ok ⟨1, "f"⟩ (after (define session again) Evaluator.initial) := rfl
    obtain ⟨_, _, retried⟩ := evaluators _ _ failed
    obtain ⟨corrected, doneToo, answers⟩ := retried again _ _ rfl done
    exact ⟨_, _, corrected, failed, rfl, done, doneToo, answers⟩
  · have failed : attempt.run session (Generator.initial 2 none) =
        .error fault (after (attempt.run session) (Generator.initial 2 none)) := rfl
    have done : define session again (Generator.initial 2 none) =
        .ok ⟨1, "f"⟩ (after (define session again) (Generator.initial 2 none)) := rfl
    obtain ⟨_, _, retried⟩ := generators _ _ (.initial 2 none) trivial failed
    obtain ⟨corrected, doneToo, answers⟩ := retried (.inl rfl) again _ _ rfl done
    exact ⟨_, _, corrected, failed, rfl, done, doneToo, answers⟩

/-- The generator refuses a definition that it would have accepted: the declaration that is left
of a function of two parameters has the symbol of one of a single parameter. -/
theorem left_declaration_prevents_definition :
    let session := (Session.fresh.record ⟨anonymousName, ["a"], none⟩).record
      ⟨anonymousName ++ ".1", ["a", "b"], none⟩
    let header : Prototype := ⟨"g", [], none⟩
    let misspelt : Node := .binary "+"
      (.call (anonymousName ++ ".1") [.number 1 none, .number 2 none] none) (.reference "y" none)
      none
    let attempt : Attempt := .define ⟨header, misspelt, none⟩
    let again : Definition := ⟨header, .call anonymousName [.number 1 none] none, none⟩
    let before : Generator := .initial 2 none
    before.Reachable ∧ attempt.IsOf before again.prototype ∧
      ∃ fault left, attempt.run session before = .error fault left ∧ fault.IsCompile ∧
        (∃ handle defined, define session again before = .ok handle defined) ∧
        ∃ faultToo last, define session again left = .error faultToo last := by
  intro session header misspelt attempt again before
  have failed : attempt.run session before = .error (.compile (.unknownVariable "y") none)
      (after (attempt.run session) before) := rfl
  exact ⟨.initial 2 none, rfl, _, _, failed, ⟨_, _, rfl⟩, exists_ok (by decide +kernel),
    exists_error (by decide +kernel)⟩

end Reckon
