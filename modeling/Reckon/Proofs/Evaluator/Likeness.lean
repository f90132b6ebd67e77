import Reckon.Evaluator.Execution
import Reckon.Proofs.Likeness.Actions

/-!
# The evaluator does not depend on places

A function counts for its arity and its code. The places in its prototype and in the tree that
it was written as are kept for those who ask for its text. Evaluators whose units agree in
this way compile, hand off, run and give up alike.
-/

namespace Reckon

namespace Evaluator

open Reckon.Action

/-- The arity and the code of a function. -/
def Function.bare (function : Function) : Nat × Option Code :=
  (function.prototype.arity, function.body.map Prod.snd)

/-- The number of a unit and what its functions count for. -/
def CodeUnit.bare (unit : CodeUnit) : Nat × Catalog String (Nat × Option Code) :=
  (unit.number, unit.functions.map Function.bare)

/-- The same units but for the places in them. -/
structure Alike (left right : Evaluator) : Prop where
  current : left.current.bare = right.current.bare
  live : left.live.map CodeUnit.bare = right.live.map CodeUnit.bare
  released : left.released.map CodeUnit.bare = right.released.map CodeUnit.bare
  defined : left.defined = right.defined

/-! ## Units -/

namespace CodeUnit

variable {left right : CodeUnit}

/-- Units that count for the same have the same number. -/
theorem number_of_bare (same : left.bare = right.bare) : left.number = right.number :=
  congrArg Prod.fst same

/-- Units that count for the same have functions that do so, under the same names. -/
theorem functions_of_bare (same : left.bare = right.bare) :
    left.functions.map Function.bare = right.functions.map Function.bare := congrArg Prod.snd same

/-- What is found under a name counts for the same on both sides. -/
theorem map_get?_of_bare (same : left.bare = right.bare) (name : String) :
    (left.functions.get? name).map Function.bare =
      (right.functions.get? name).map Function.bare := by
  rw [← Catalog.get?_map, ← Catalog.get?_map, functions_of_bare same]

/-- A name has functions in both units or in neither. -/
theorem get?_of_bare (same : left.bare = right.bare) (name : String) :
    left.functions.get? name = none ∧ right.functions.get? name = none ∨
      ∃ function functionToo, left.functions.get? name = some function ∧
        right.functions.get? name = some functionToo ∧
        function.prototype.arity = functionToo.prototype.arity := by
  obtain none | ⟨function, functionToo, found, foundToo, same⟩ :=
    both_of_map_eq (map_get?_of_bare same name)
  · exact .inl none
  · exact .inr ⟨function, functionToo, found, foundToo, congrArg Prod.fst same⟩

/-- The code under a name is in what the unit counts for. -/
theorem code?_eq (unit : CodeUnit) (name : String) :
    unit.code? name =
      (unit.bare.2.get? name).bind fun function =>
        function.2.map fun code => (function.1, code) := by
  rw [bare, Catalog.get?_map]
  cases found : unit.functions.get? name with
  | none => simp [code?, found]
  | some function => cases body : function.body <;> simp [code?, found, body, Function.bare]

/-- So are the names with a body. -/
theorem defined_eq (unit : CodeUnit) :
    unit.defined = (unit.bare.2.entries.filter fun entry => entry.2.2.isSome).map Prod.fst := by
  simp [defined, bare, Catalog.map, List.filter_map, Function.bare, Function.comp_def]

/-- The tree that a body was written as makes no difference to what a unit with that body counts
for. -/
theorem bare_withBody (same : left.bare = right.bare) (name : String) (node nodeToo : Node)
    (code : Code) :
    (left.withBody name (node, code)).bare = (right.withBody name (nodeToo, code)).bare := by
  unfold withBody
  obtain ⟨found, foundToo⟩ | ⟨function, functionToo, found, foundToo, arity⟩ :=
    get?_of_bare same name
  · rwa [found, foundToo]
  · rw [found, foundToo]
    simp only [bare, Catalog.map_put, functions_of_bare same, number_of_bare same]
    simp only [Function.bare, arity, Option.map_some]

end CodeUnit

/-! ## Observations -/

namespace Alike

variable {left right : Evaluator}

/-- An evaluator is like itself. -/
theorem refl (evaluator : Evaluator) : Alike evaluator evaluator := ⟨rfl, rfl, rfl, rfl⟩

/-- The same units are found by their numbers. -/
theorem find? {units unitsToo : List CodeUnit}
    (same : units.map CodeUnit.bare = unitsToo.map CodeUnit.bare) (number : Nat) :
    units.find? (·.number = number) = none ∧ unitsToo.find? (·.number = number) = none ∨
      ∃ unit unitToo, units.find? (·.number = number) = some unit ∧
        unitsToo.find? (·.number = number) = some unitToo ∧ unit.bare = unitToo.bare := by
  have views (units : List CodeUnit) : (units.find? (·.number = number)).map CodeUnit.bare =
      (units.map CodeUnit.bare).find? (·.1 = number) := by
    rw [List.find?_map]
    rfl
  exact both_of_map_eq (by rw [views, views, same])

/-- A handle leads to functions that count for the same. -/
theorem function? (alike : Alike left right) (handle : Handle) :
    (left.function? handle).map Function.bare = (right.function? handle).map Function.bare := by
  have all : (left.current :: left.live ++ left.released).map CodeUnit.bare =
      (right.current :: right.live ++ right.released).map CodeUnit.bare := by
    simp [alike.current, alike.live, alike.released]
  unfold Evaluator.function? Evaluator.unit?
  obtain ⟨found, foundToo⟩ | ⟨unit, unitToo, found, foundToo, same⟩ := find? all handle.unit
  · rw [found, foundToo]
  · rw [found, foundToo]
    exact CodeUnit.map_get?_of_bare same handle.symbol

/-- A handle leads to functions of one arity. -/
theorem arityOf (alike : Alike left right) (handle : Handle) :
    left.arityOf handle = right.arityOf handle := by
  have view (evaluator : Evaluator) : evaluator.arityOf handle =
      ((evaluator.function? handle).map Function.bare).elim 0 Prod.fst := by
    unfold Evaluator.arityOf
    cases evaluator.function? handle <;> rfl
  rw [view, view, alike.function?]

/-- A handle leads to the same code, or to none on both sides. -/
theorem code? (alike : Alike left right) (handle : Handle) :
    ((left.function? handle).bind (·.body)).map Prod.snd =
      ((right.function? handle).bind (·.body)).map Prod.snd := by
  have view (evaluator : Evaluator) : ((evaluator.function? handle).bind (·.body)).map Prod.snd =
      ((evaluator.function? handle).map Function.bare).bind Prod.snd := by
    cases evaluator.function? handle <;> rfl
  rw [view, view, alike.function?]

/-- Both know a body of the function, or neither. -/
theorem hasBody (alike : Alike left right) (handle : Handle) :
    left.hasBody handle = right.hasBody handle := by
  have view (evaluator : Evaluator) : evaluator.hasBody handle =
      (((evaluator.function? handle).bind (·.body)).map Prod.snd).isSome := by
    unfold Evaluator.hasBody
    cases evaluator.function? handle <;> simp
  rw [view, view, alike.code?]

/-- A name is found under one handle. -/
theorem lookup (alike : Alike left right) (name : String) :
    left.lookup name = right.lookup name := by
  unfold Evaluator.lookup
  rw [CodeUnit.number_of_bare alike.current]
  obtain ⟨found, foundToo⟩ | ⟨_, _, found, foundToo, _⟩ := CodeUnit.get?_of_bare alike.current name
  · rw [found, foundToo]
  · rw [found, foundToo]
    rfl

/-- A call by name finds one arity and one code. -/
theorem definition? (alike : Alike left right) (name : String) :
    left.definition? name = right.definition? name := by
  have view (evaluator : Evaluator) : evaluator.definition? name =
      (evaluator.live.map CodeUnit.bare).reverse.findSome? fun bare =>
        (bare.2.get? name).bind fun function => function.2.map fun code => (function.1, code) := by
    rw [Evaluator.definition?, ← List.map_reverse, List.findSome?_map]
    exact congrArg (List.findSome? · _) (funext fun unit => unit.code?_eq name)
  rw [view, view, alike.live]

end Alike

/-! ## Compiling -/

variable {session sessionToo : Session}

/-- Prototypes at different places are declared alike. -/
theorem declare_alike (sessions : session.Alike sessionToo) {prototype prototypeToo : Prototype}
    (alike : prototype.Alike prototypeToo) :
    Respects Alike Eq (declare session prototype) (declare sessionToo prototypeToo) := by
  unfold declare
  apply (respects_check (sessions.prototypeFault? alike)).bind
  rintro _ _ _
  apply respects_get.bind
  intro evaluator evaluatorToo states
  rw [alike.name, CodeUnit.number_of_bare states.current]
  obtain ⟨found, foundToo⟩ | ⟨function, functionToo, found, foundToo, arity⟩ :=
    CodeUnit.get?_of_bare states.current prototypeToo.name
  · rw [found, foundToo]
    refine Respects.bind (respects_set ⟨?_, states.live, states.released, states.defined⟩) ?_
    · simp only [CodeUnit.bare, Catalog.map_put, CodeUnit.functions_of_bare states.current,
        CodeUnit.number_of_bare states.current]
      simp only [Function.bare, alike.arity, Option.map_none]
    · rintro _ _ _
      exact respects_pure rfl
  · rw [found, foundToo]
    dsimp only
    rw [arity]
    apply (respects_check (declarationFault?_alike alike _)).bind
    rintro _ _ _
    exact respects_pure rfl

/-- Declaring and looking functions up do not depend on places. -/
theorem declaresAlike : DeclaresAlike Alike where
  lookup := Alike.lookup
  arity := Alike.arityOf
  declare := declare_alike

/-- Expressions one after the other are resolved alike if each is. -/
theorem compileAll_alike {parameters : List String} {nodes nodesToo : List Node}
    (alike : List.Forall₂ (fun node nodeToo => Respects Alike Eq (compile session parameters node)
      (compile sessionToo parameters nodeToo)) nodes nodesToo) :
    Respects Alike Eq (compileAll session parameters nodes)
      (compileAll sessionToo parameters nodesToo) := by
  induction alike with
  | nil => exact respects_pure rfl
  | cons first _ inductionHypothesis =>
    rw [compileAll, compileAll]
    apply first.bind
    rintro code _ rfl
    apply inductionHypothesis.bind
    rintro codes _ rfl
    exact respects_pure rfl

/-- Trees that are alike are resolved to the same code. -/
theorem compile_alike (sessions : session.Alike sessionToo) (parameters : List String)
    {node nodeToo : Node} (alike : node.Alike nodeToo) :
    Respects Alike Eq (compile session parameters node)
      (compile sessionToo parameters nodeToo) := by
  induction alike with
  | number value => exact respects_pure rfl
  | reference name =>
    rw [compile, compile]
    cases position? name parameters with
    | some position => exact respects_pure rfl
    | none => exact respects_throw rfl
  | binary operator _ _ _ _ left right =>
    rw [compile, compile]
    apply left.bind
    rintro leftCode _ rfl
    apply right.bind
    rintro rightCode _ rfl
    cases Operation.ofOperator? operator with
    | some kind => exact respects_pure rfl
    | none => exact respects_throw rfl
  | @call callee arguments argumentsToo _ _ length _ inductionHypothesis =>
    have each := List.forall₂_iff_zip.mpr ⟨length, fun member => inductionHypothesis _ member⟩
    rw [compile, compile]
    apply (declaresAlike.resolve sessions callee).bind
    rintro handle? _ rfl
    cases handle? with
    | none => exact respects_throw rfl
    | some handle =>
      apply respects_get.bind
      intro evaluator evaluatorToo states
      rw [states.arityOf, length]
      dsimp only
      by_cases fits : evaluatorToo.arityOf handle = argumentsToo.length
      · rw [if_pos fits, if_pos fits]
        apply (compileAll_alike each).bind
        rintro codes _ rfl
        exact respects_pure rfl
      · rw [if_neg fits, if_neg fits]
        exact respects_throw rfl

/-- A body goes into the same function. -/
theorem Alike.withBody {left right : Evaluator} (alike : Alike left right) (handle : Handle)
    (node nodeToo : Node) (code : Code) :
    Alike (left.withBody handle (node, code)) (right.withBody handle (nodeToo, code)) := by
  let change (node : Node) (unit : CodeUnit) : CodeUnit :=
    if unit.number = handle.unit then unit.withBody handle.symbol (node, code) else unit
  have changed {unit unitToo : CodeUnit} (same : unit.bare = unitToo.bare) :
      (change node unit).bare = (change nodeToo unitToo).bare := by
    simp only [change, CodeUnit.number_of_bare same]
    split
    · exact CodeUnit.bare_withBody same _ _ _ _
    · exact same
  have all {units unitsToo : List CodeUnit}
      (same : units.map CodeUnit.bare = unitsToo.map CodeUnit.bare) :
      (units.map (change node)).map CodeUnit.bare =
        (unitsToo.map (change nodeToo)).map CodeUnit.bare := by
    induction units generalizing unitsToo with
    | nil => cases unitsToo <;> simp_all
    | cons unit rest inductionHypothesis =>
      cases unitsToo with
      | nil => cases same
      | cons unitToo restToo =>
        obtain ⟨first, later⟩ := List.cons.inj same
        exact List.cons_eq_cons.mpr ⟨changed first, inductionHypothesis later⟩
  exact ⟨changed alike.current, all alike.live, all alike.released, alike.defined⟩

/-- Bodies at different places are compiled alike for the same handle. -/
theorem defineBody_alike (sessions : session.Alike sessionToo) {body bodyToo : Node}
    (alike : body.Alike bodyToo) (handle : Handle) (parameters : List String) :
    Respects Alike Eq (defineBody session handle body parameters)
      (defineBody sessionToo handle bodyToo parameters) := by
  unfold defineBody
  apply respects_get.bind
  intro before beforeToo states
  rw [states.defined, states.hasBody]
  apply (respects_check (redefinitionFault?_alike _ _ _ _ _)).bind
  rintro _ _ _
  apply (compile_alike sessions parameters alike).bind
  rintro code _ rfl
  apply respects_modify
  intro state stateToo states
  have changed := states.withBody handle body bodyToo code
  exact ⟨changed.current, changed.live, changed.released, by rw [states.defined]⟩

/-! ## Units handed off and given up -/

/-- Handing off does not depend on places. -/
theorem handOff_alike : Respects Alike Eq handOff handOff := by
  unfold handOff
  apply respects_get.bind
  intro evaluator evaluatorToo states
  rw [CodeUnit.number_of_bare states.current]
  refine Respects.bind (respects_set ⟨rfl, ?_, states.released, states.defined⟩) ?_
  · simp [states.live, states.current]
  · rintro _ _ _
    exact respects_pure rfl

/-- Giving a unit up does not depend on places. -/
theorem release_alike (number : Nat) : Respects Alike Eq (release number) (release number) := by
  unfold release
  apply respects_get.bind
  intro evaluator evaluatorToo states
  obtain ⟨found, foundToo⟩ | ⟨unit, unitToo, found, foundToo, same⟩ :=
    Alike.find? states.live number
  · rw [found, foundToo]
    exact respects_throw rfl
  · rw [found, foundToo]
    have view (units : List CodeUnit) : (units.filter (·.number ≠ number)).map CodeUnit.bare =
        (units.map CodeUnit.bare).filter (·.1 ≠ number) := by
      rw [List.filter_map]
      rfl
    apply respects_set
    constructor
    · exact states.current
    · rw [view, view, states.live]
    · simp [states.released, same]
    · rw [states.defined, unit.defined_eq, unitToo.defined_eq, same]

/-! ## Execution -/

/-- A call is settled by the definitions that calls find. -/
theorem call_congr {evaluator evaluatorToo : Evaluator}
    (same : evaluator.definition? = evaluatorToo.definition?) (platform : Platform) (depth : Nat) :
    call platform evaluator depth = call platform evaluatorToo depth := by
  induction depth with
  | zero => rfl
  | succ depth inductionHypothesis =>
    funext name arguments
    rw [call, call, same, inductionHypothesis]

/-- Calls that are answered by evaluators that are alike give the same, at any depth. -/
theorem call_alike {evaluator evaluatorToo : Evaluator} (alike : Alike evaluator evaluatorToo)
    (platform : Platform) (depth : Nat) :
    call platform evaluator depth = call platform evaluatorToo depth :=
  call_congr (funext alike.definition?) platform depth

/-- What a handle is run to does not depend on places. -/
theorem outcome_alike {evaluator evaluatorToo : Evaluator} (alike : Alike evaluator evaluatorToo)
    (platform : Platform) (handle : Handle) (arguments : List Float) :
    evaluator.outcome platform handle arguments =
      evaluatorToo.outcome platform handle arguments := by
  have view (evaluator : Evaluator) : evaluator.outcome platform handle arguments =
      match ((evaluator.function? handle).bind (·.body)).map Prod.snd with
      | some code => code.run platform (argument arguments) (call platform evaluator platform.depth)
      | none => call platform evaluator platform.depth handle.symbol arguments := by
    unfold outcome
    cases (evaluator.function? handle).bind (·.body) <;> rfl
  rw [view, view, alike.code?, call_alike alike]

/-- Executing a function does not depend on places. -/
theorem execute_alike (platform : Platform) (handle : Handle) (arguments : List Float) :
    Respects Alike Eq (execute platform handle arguments) (execute platform handle arguments) := by
  unfold execute
  apply respects_get.bind
  intro evaluator evaluatorToo states
  rw [states.arityOf, outcome_alike states]
  dsimp only
  split
  · split
    · exact respects_pure rfl
    · exact respects_throw rfl
    · exact respects_throw rfl
  · exact respects_throw rfl

instance : Placeless Evaluator where
  Alike := Alike
  refl := Alike.refl
  declares := declaresAlike
  defineBody := defineBody_alike
  handOff := handOff_alike
  execute := execute_alike
  release := release_alike
  defined := Alike.defined

end Evaluator

end Reckon
