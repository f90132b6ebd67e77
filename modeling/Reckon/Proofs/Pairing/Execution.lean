import Reckon.Proofs.Evaluator.Obstacles
import Reckon.Proofs.Pairing.Loading

/-!
# Execution side by side

The evaluator finds the function of a call by its name when the call is made; in the
image the call was bound when its unit was loaded. If calls in an image are bound to the
bodies that the evaluator finds, unless nobody has one, or the host provides the name as
well, then what has a value in the evaluator has the same value in the image, and what
stands in the image misses no function in the evaluator.

The image of a linker that holds the definitions which the evaluator finds is like this,
as units embody them. What has a value in the evaluator is also materialized.
-/

namespace Reckon

namespace Linker

open Evaluator (argument Makes)

/-- The definitions that hold are those that the evaluator finds, and call words alone. -/
structure Reflects (holds : String → Nat → Code → Prop) (evaluator : Evaluator) : Prop where
  finds (name : String) (word : IsWord name) (arity : Nat) (code : Code) :
    holds name arity code ↔ evaluator.definition? name = some (arity, code)
  words (symbol : String) (arity : Nat) (code : Code) (held : holds symbol arity code) :
    ∀ call ∈ code.calls, IsWord call.1

/-- The host provides no function that code can reach and that has a live definition. -/
def Apart (platform : Platform) (evaluator : Evaluator) (code : Code) : Prop :=
  ∀ call, Makes evaluator code call → evaluator.definition? call.1 ≠ none →
    platform.provides call.1 = false

/-- What code cannot reach, the definitions that it calls cannot reach either. -/
theorem Apart.through {platform : Platform} {evaluator : Evaluator} {code inner : Code}
    {name : String} {given arity : Nat} (apart : Apart platform evaluator code)
    (member : (name, given) ∈ code.calls)
    (live : evaluator.definition? name = some (arity, inner)) : Apart platform evaluator inner :=
  fun call makes => apart call (.through member live makes)

/-- Bodies stand in an image, each at a position and under a symbol. The unit at the position holds
a routine that renders the body, and a call in it is bound to a body that the evaluator finds by
the name, or left to the host. -/
structure Binds (platform : Platform) (image : List Loaded) (evaluator : Evaluator)
    (stands : Nat → String → Nat → Code → Prop) : Prop where
  rendered {position : Nat} {symbol : String} {arity : Nat} {code : Code}
    (there : stands position symbol arity code) : ∃ routine block,
      image[position]?.bind (·.unit.block? symbol) = some (routine.parameters, block) ∧
        routine.block = some block ∧ Renders routine arity code
  answered {position : Nat} {symbol : String} {arity : Nat} {code : Code}
    (there : stands position symbol arity code) {name : String} {given : Nat}
    (member : (name, given) ∈ code.calls) :
    (∃ target, bound? image position name = some target) ∨ platform.provides name = true
  found {position : Nat} {symbol : String} {arity : Nat} {code : Code}
    (there : stands position symbol arity code) {name : String} {given : Nat}
    (member : (name, given) ∈ code.calls) {target : Nat}
    (bound : bound? image position name = some target) : ∃ expected inner,
      stands target name expected inner ∧ evaluator.definition? name = some (expected, inner)

namespace Binds

variable {platform : Platform} {image : List Loaded} {evaluator : Evaluator}
  {stands : Nat → String → Nat → Code → Prop} {position : Nat} {symbol : String} {arity : Nat}
  {code : Code}

/-- A body in the image runs as its code does, its calls going where they are bound. -/
theorem run_eq (binds : Binds platform image evaluator stands)
    (there : stands position symbol arity code) {depth : Nat} {arguments : List Float}
    (given : arguments.length = arity) :
    run platform image (depth + 1) position symbol arguments =
      code.run platform (argument arguments) fun callee values =>
        match bound? image position callee with
        | some target => run platform image depth target callee values
        | none =>
          match platform.hostFunction? callee with
          | some function => .ok (function values)
          | none => .error (.run (.unresolved [callee] "")) := by
  obtain ⟨routine, block, found, held, renders⟩ := binds.rendered there
  rw [run, found]
  exact renders.run_eq held platform given _

/-- A call of a name with a live definition is bound to it, if the host does not provide it. -/
theorem bound_of_definition? (binds : Binds platform image evaluator stands)
    (there : stands position symbol arity code) {name : String} {given expected : Nat}
    {inner : Code} (member : (name, given) ∈ code.calls)
    (live : evaluator.definition? name = some (expected, inner))
    (foreign : platform.provides name = false) :
    ∃ target, bound? image position name = some target ∧ stands target name expected inner := by
  rcases binds.answered there member with ⟨target, bound⟩ | provided
  · obtain ⟨_, _, standing, found⟩ := binds.found there member bound
    rw [live] at found
    cases found
    exact ⟨target, bound, standing⟩
  · rw [foreign] at provided
    cases provided

/-- A call of a name that nobody defines is not bound. -/
theorem not_bound (binds : Binds platform image evaluator stands)
    (there : stands position symbol arity code) {name : String} {given : Nat}
    (member : (name, given) ∈ code.calls) (dead : evaluator.definition? name = none) :
    bound? image position name = none := by
  cases bound : bound? image position name with
  | none => rfl
  | some target =>
    obtain ⟨_, _, _, found⟩ := binds.found there member bound
    rw [dead] at found
    cases found

/-- What has a value in the evaluator has the same value in the image. -/
theorem run_ok (binds : Binds platform image evaluator stands)
    (there : stands position symbol arity code) {depth : Nat} {arguments : List Float}
    {value : Float} (given : arguments.length = arity) (apart : Apart platform evaluator code)
    (succeeds : code.run platform (argument arguments) (Evaluator.call platform evaluator depth) =
      .ok value) :
    run platform image (depth + 1) position symbol arguments = .ok value := by
  induction depth generalizing position symbol arity code arguments value with
  | zero =>
    rw [binds.run_eq there given]
    apply Evaluator.run_ok_of_imp succeeds
    intro callee values result member performed
    cases performed
  | succ depth inductionHypothesis =>
    rw [binds.run_eq there given]
    apply Evaluator.run_ok_of_imp succeeds
    intro callee values result member performed
    rw [Evaluator.call] at performed
    cases live : evaluator.definition? callee with
    | some definition =>
      obtain ⟨expected, inner⟩ := definition
      have foreign := apart _ (.here member) (by rw [live]; simp)
      obtain ⟨target, bound, standing⟩ := binds.bound_of_definition? there member live foreign
      rw [live] at performed
      by_cases same : values.length = expected
      · simp only [same, if_true] at performed
        rw [bound]
        exact inductionHypothesis standing same (apart.through member live) performed
      · simp only [same, if_false] at performed
        cases performed
    | none =>
      rw [binds.not_bound there member live]
      rw [live] at performed
      cases provided : platform.hostFunction? callee with
      | some function =>
        rw [provided] at performed
        exact performed
      | none =>
        rw [provided] at performed
        cases performed

/-- Whatever code in the image can reach, somebody has. -/
theorem answered_of_makes (binds : Binds platform image evaluator stands)
    (there : stands position symbol arity code) (apart : Apart platform evaluator code)
    {call : String × Nat} (makes : Makes evaluator code call)
    (dead : evaluator.definition? call.1 = none) : platform.provides call.1 = true := by
  induction makes generalizing position symbol arity with
  | @here code call member =>
    rcases binds.answered there member with ⟨target, bound⟩ | provided
    · rw [binds.not_bound there member dead] at bound
      cases bound
    · exact provided
  | through member live _ inductionHypothesis =>
    have foreign := apart _ (.here member) (by rw [live]; simp)
    obtain ⟨target, _, standing⟩ := binds.bound_of_definition? there member live foreign
    exact inductionHypothesis standing (apart.through member live) dead

end Binds

/-- The unit at the position embodies a function, which calls words alone. -/
def EmbodiedAt (image : List Loaded) (position : Nat) (symbol : String) (arity : Nat)
    (code : Code) : Prop :=
  (∃ loaded, image[position]? = some loaded ∧ Embodies loaded.unit symbol arity code) ∧
    ∀ call ∈ code.calls, IsWord call.1

namespace Linking

variable {platform : Platform} {holds : String → Nat → Code → Prop} {next : Nat} {linker : Linker}
  {evaluator : Evaluator} {symbol : String} {arity : Nat} {code : Code}

/-- In the image only live definitions define words. -/
theorem embodied_of_definesAt (linking : Linking platform holds next linker)
    (reflects : Reflects holds evaluator) {position : Nat} {name : String} (word : IsWord name)
    (defines : DefinesAt linker.image position name) :
    ∃ loaded arity code, linker.image[position]? = some loaded ∧
      Embodies loaded.unit name arity code ∧ evaluator.definition? name = some (arity, code) := by
  obtain ⟨loaded, there, names⟩ := defines
  rcases linking.image loaded (List.mem_of_getElem? there) with
    live | ⟨number, code, _, embodies, _⟩
  · obtain ⟨symbol, arity, code, held, embodies⟩ :=
      linking.embodied loaded.unit (List.mem_append_right _ live)
    obtain rfl := (embodies.mem_defined_iff name).mp names
    exact ⟨loaded, arity, code, there, embodies, (reflects.finds name word arity code).mp held⟩
  · rw [embodies.mem_defined_iff] at names
    exact (word.ne_of_anonymous_append _ names).elim

/-- The image of a linker that holds what the evaluator finds binds calls to it. -/
theorem binds (linking : Linking platform holds next linker) (reflects : Reflects holds evaluator) :
    Binds platform linker.image evaluator (EmbodiedAt linker.image) := by
  constructor
  case rendered =>
    rintro position symbol arity code ⟨⟨loaded, there, embodies⟩, _⟩
    obtain ⟨routine, block, found, held, renders⟩ := embodies.block?
    exact ⟨routine, block, by rw [there]; exact found, held, renders⟩
  case answered =>
    rintro position symbol arity code ⟨⟨loaded, there, embodies⟩, _⟩ name given member
    by_cases own : name = symbol
    · have defines := (embodies.mem_defined_iff name).mpr own
      exact .inl (Option.isSome_iff_exists.mp
        (bound?_isSome there there defines (.inl (Nat.le_refl _))))
    · have required := (embodies.required name).mpr ⟨own, given, member⟩
      exact (linking.answered position loaded there name required).imp_left
        Option.isSome_iff_exists.mp
  case found =>
    rintro position symbol arity code ⟨_, words⟩ name given member target bound
    have word := words _ member
    obtain ⟨loaded, expected, inner, there, embodies, live⟩ :=
      linking.embodied_of_definesAt reflects word (definesAt_of_bound? bound)
    have held := (reflects.finds name word expected inner).mpr live
    exact ⟨expected, inner, ⟨⟨loaded, there, embodies⟩, reflects.words _ _ _ held⟩, live⟩

open Classical in
/-- If somebody has whatever a definition can reach, materializing makes it live. -/
theorem mem_liveDefinitions_materialize (linking : Linking platform holds next linker)
    (reflects : Reflects holds evaluator) (held : holds symbol arity code)
    (answers : ∀ call, Makes evaluator code call →
      (∃ expected inner, evaluator.definition? call.1 = some (expected, inner)) ∨
        platform.provides call.1 = true) :
    symbol ∈ (linker.materialize platform).2.liveDefinitions := by
  -- The pending units that the definition can reach answer one another.
  let Reached (unit : CompiledUnit) : Prop := ∃ name expected inner, holds name expected inner ∧
    Embodies unit name expected inner ∧
      ∀ call, Makes evaluator inner call → Makes evaluator code call
  let chosen := linker.pending.filter (fun unit => Reached unit)
  have chosen_iff (unit : CompiledUnit) : unit ∈ chosen ↔ unit ∈ linker.pending ∧ Reached unit := by
    simp [chosen]
  have offers (name : String) (expected : Nat) (inner : Code) (holdsToo : holds name expected inner)
      (reaches : ∀ call, Makes evaluator inner call → Makes evaluator code call) :
      name ∈ offered linker.liveDefinitions chosen := by
    obtain ⟨unit, member, embodies⟩ := linking.present name expected inner holdsToo
    have defines := (embodies.mem_defined_iff name).mpr rfl
    rcases List.mem_append.mp member with pending | materialized
    · have among := (chosen_iff unit).mpr
        ⟨pending, name, expected, inner, holdsToo, embodies, reaches⟩
      exact List.mem_append_right _ (List.mem_flatMap.mpr ⟨unit, among, defines⟩)
    · exact List.mem_append_left _ (List.mem_flatMap.mpr ⟨unit, materialized, defines⟩)
  have answered : ∀ unit ∈ chosen,
      Answered platform (offered linker.liveDefinitions chosen) unit := by
    intro unit member name required
    obtain ⟨_, owner, expected, inner, holdsToo, embodies, reaches⟩ := (chosen_iff unit).mp member
    obtain ⟨_, given, made⟩ := (embodies.required name).mp required
    have word := reflects.words _ _ _ holdsToo _ made
    refine (answers _ (reaches _ (.here made))).imp ?_ id
    rintro ⟨arityToo, further, live⟩
    apply offers name arityToo further ((reflects.finds name word _ _).mpr live)
    exact fun call makes => reaches call (.through made live makes)
  obtain ⟨ready, names, sublist, _, greatest, same⟩ := materialize_eq platform linker
  have loads := greatest chosen (fun unit member => ((chosen_iff unit).mp member).1) answered
  have offered := offers symbol arity code held fun _ makes => makes
  rw [same]
  rcases List.mem_append.mp offered with live | together
  · split
    · exact live
    · obtain ⟨unit, member, defines⟩ := List.mem_flatMap.mp live
      exact List.mem_flatMap.mpr ⟨unit, List.mem_append_left _ member, defines⟩
  · obtain ⟨unit, member, defines⟩ := List.mem_flatMap.mp together
    have loaded := loads member
    rw [if_neg (by simpa using List.ne_nil_of_mem loaded)]
    refine List.mem_flatMap.mpr ⟨loadedUnit unit, List.mem_append_right _ ?_, defines⟩
    exact List.mem_map_of_mem loaded

end Linking

end Linker

end Reckon
