import Reckon.Proofs.Evaluator.Semantics
import Reckon.Proofs.Generator.Semantics

/-!
# Both back ends compile a body to its meaning

The evaluator resolves a body to code, and the generator writes it out as a block. Running either
with some arguments is evaluating the tree of the body with the parameters bound to the arguments.
This holds in any monad that calls may run in, so the calls are the same, with the same arguments
and in the same order, and so is the value.
-/

namespace Reckon

open Reckon.Action Instruction

/-- **Both back ends compile a body to its meaning.** Whatever the state of the evaluator, and
wherever the generator has come to, if both accept a body for a function of theirs, the evaluator
keeps code with its function, and the generator a well-formed block with its routine. With any
interpretation of the operations and of the calls, and any arguments for the parameters, running
the block is running the code, and evaluating the tree directly does not fail and is running the
code, too. The block calls functions by their symbols, which are their names unless the name is the
reserved one. -/
theorem compiled_bodies_agree {session sessionToo : Session} (keyed : session.Keyed)
    (keyedToo : sessionToo.Keyed) {evaluator evaluatorAfter : Evaluator}
    {generator generatorAfter : Generator} (reached : generator.Reachable)
    {handle handleToo : Handle} {function : Evaluator.Function} {routine : Routine}
    (found : evaluator.function? handle = some function)
    (foundToo : generator.routine? handleToo = some routine) {body : Node}
    {parameters : List String} (fits : parameters.length = routine.arity)
    (resolved : Evaluator.defineBody session handle body parameters evaluator =
      .ok () evaluatorAfter)
    (written : Generator.defineBody sessionToo handleToo body parameters generator =
      .ok () generatorAfter) :
    ∃ code block names,
      evaluatorAfter.function? handle = some { function with body := some (body, code) } ∧
      generatorAfter.routine? handleToo = some { routine with names, block := some block } ∧
      block.WellFormed generatorAfter.current.Declares routine.parameters ∧
      ∀ (m : Type → Type) [Monad m] [LawfulMonad m] (platform : Platform)
        (call : String → List Float → m Float) (arguments : List Float) (argument : Nat → m Float),
        arguments.length = parameters.length → Supplies arguments argument →
        let named (callee : String) : List Float → m Float :=
          call (generator.current.symbol callee)
        block.run platform call (routine.parameters.zip (arguments.map .double)) =
            code.run platform argument named ∧
          (body.evaluate platform (.ofArguments parameters arguments) named).run =
            some <$> code.run platform argument named := by
  obtain ⟨code, kept, denotes⟩ := Evaluator.defineBody_denotes keyed found resolved
  obtain ⟨names, block, other, keptToo, wellFormed, denotesToo, runs⟩ :=
    Generator.defineBody_denotes keyedToo reached.sound foundToo fits written
  refine ⟨code, block, names, kept, keptToo, wellFormed, ?_⟩
  intro m _ _ platform call arguments argument lengths supplies named
  have evaluated := denotes m platform named arguments argument lengths supplies
  have evaluatedToo := denotesToo m platform call arguments argument lengths supplies
  refine ⟨?_, evaluated⟩
  rw [runs m platform call arguments argument (lengths.trans fits) supplies]
  exact eq_of_map_some (evaluatedToo.symm.trans evaluated)

/-- A function calls itself. The calls are kept in a list. -/
theorem compiled_bodies_agree_recursive :
    let header : Prototype := ⟨"f", ["x", "y"], none⟩
    let body : Node := .binary "+"
      (.call "f" [.binary "-" (.reference "x" none) (.number 1.0 none) none, .reference "y" none]
        none)
      (.reference "x" none) none
    let evaluator := after (Evaluator.declare .fresh header) .initial
    let generator := after (Generator.declare .fresh header) (.initial 2 none)
    let routine : Routine := .declared "f" ["x", "y"]
    let recording (callee : String) (arguments : List Float) :
        StateM (List (String × List Float)) Float :=
      modifyGet fun calls => (0.0, calls ++ [(callee, arguments)])
    let argument (position : Nat) : StateM (List (String × List Float)) Float :=
      pure ([3.0, 4.0].getD position 0.0)
    Session.fresh.Keyed ∧ generator.Reachable ∧
      evaluator.function? ⟨1, "f"⟩ = some ⟨header, none⟩ ∧
      generator.routine? ⟨1, "f"⟩ = some routine ∧ ["x", "y"].length = routine.arity ∧
      ∃ evaluatorAfter generatorAfter,
        Evaluator.defineBody .fresh ⟨1, "f"⟩ body ["x", "y"] evaluator = .ok () evaluatorAfter ∧
        Generator.defineBody .fresh ⟨1, "f"⟩ body ["x", "y"] generator = .ok () generatorAfter ∧
        ∃ code block names,
          evaluatorAfter.function? ⟨1, "f"⟩ = some ⟨header, some (body, code)⟩ ∧
          generatorAfter.routine? ⟨1, "f"⟩ = some { routine with names, block := some block } ∧
          block.WellFormed generatorAfter.current.Declares routine.parameters ∧
          ∀ platform : Platform,
            let named (callee : String) := recording (generator.current.symbol callee)
            let evaluated :=
              (body.evaluate platform (.ofArguments ["x", "y"] [3.0, 4.0]) named).run
            block.run platform recording (routine.parameters.zip [.double 3.0, .double 4.0]) =
                code.run platform argument named ∧
              evaluated = some <$> code.run platform argument named ∧
              evaluated.run [] = (some (platform.arithmetic .add 0.0 3.0),
                [("f", [platform.arithmetic .subtract 3.0 1.0, 4.0])]) := by
  intro header body evaluator generator routine recording argument
  have reached : generator.Reachable := .declares (.initial 2 none) .fresh header
  have found : evaluator.function? ⟨1, "f"⟩ = some ⟨header, none⟩ := rfl
  have foundToo : generator.routine? ⟨1, "f"⟩ = some routine := rfl
  have fits : ["x", "y"].length = routine.arity := (Routine.arity_declared ..).symm
  obtain ⟨_, evaluatorAfter, resolved⟩ :
      ∃ value last, Evaluator.defineBody .fresh ⟨1, "f"⟩ body ["x", "y"] evaluator =
        .ok value last := exists_ok (by decide +kernel)
  obtain ⟨_, generatorAfter, written⟩ :
      ∃ value last, Generator.defineBody .fresh ⟨1, "f"⟩ body ["x", "y"] generator =
        .ok value last := exists_ok (by decide +kernel)
  refine ⟨Session.keyed_fresh, reached, found, foundToo, fits, evaluatorAfter, generatorAfter,
    resolved, written, ?_⟩
  obtain ⟨code, block, names, kept, keptToo, wellFormed, agree⟩ :=
    compiled_bodies_agree Session.keyed_fresh Session.keyed_fresh reached found foundToo fits
      resolved written
  refine ⟨code, block, names, kept, keptToo, wellFormed, fun platform => ?_⟩
  have supplies : Supplies [3.0, 4.0] argument := by
    intro position value there
    simp only [argument, List.getD_eq_getElem?_getD, there, Option.getD_some]
  obtain ⟨ran, evaluated⟩ := agree _ platform recording [3.0, 4.0] argument rfl supplies
  exact ⟨ran, evaluated, rfl⟩

end Reckon
