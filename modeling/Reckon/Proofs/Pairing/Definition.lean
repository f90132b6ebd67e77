import Reckon.Proofs.Pairing.Compilation
import Reckon.Proofs.Semantics.Evaluation

/-!
# Definitions side by side

Defining a function succeeds on both sides or is refused on both with the same fault. If
it succeeds, the open module holds one routine with a block, and the block computes what
the code of the function does. Handing the module off gives a unit with that routine
alone, which calls what the code calls.
-/

namespace Reckon

open Reckon.Action Instruction

/-- The routine has a block that computes the code from as many arguments as the function has. -/
structure Renders (routine : Routine) (arity : Nat) (code : Code) : Prop where
  parameters : routine.parameters.length = arity
  distinct : routine.parameters.Nodup
  block : ∃ block operand taken, routine.block = some block ∧ block.returned = some operand ∧
    block.calls = code.calls ∧ Computes taken routine.parameters block.instructions code operand

/-- Arguments in the registers of the parameters are received. -/
theorem receives_zip {m : Type → Type} [Monad m] {registers : List String}
    (distinct : registers.Nodup) {arguments : List Float}
    (lengths : registers.length = arguments.length) {argument : Nat → m Float}
    (supplies : Supplies arguments argument) :
    Receives registers argument (registers.zip (arguments.map Value.double)) := by
  induction registers generalizing arguments argument with
  | nil =>
    intro position register found
    cases found
  | cons first rest inductionHypothesis =>
    cases arguments with
    | nil => cases lengths
    | cons value others =>
      intro position register found
      cases position with
      | zero =>
        obtain rfl := Option.some.inj found
        exact ⟨value, by simp, supplies 0 value rfl⟩
      | succ position =>
        obtain ⟨absent, distinctRest⟩ := List.nodup_cons.mp distinct
        obtain ⟨held, there, same⟩ := inductionHypothesis distinctRest (Nat.succ.inj lengths)
          (fun position => supplies (position + 1)) position register found
        have differs : (register == first) = false := by
          rw [beq_eq_false_iff_ne]
          rintro rfl
          exact absent (List.mem_of_getElem? found)
        refine ⟨held, ?_, same⟩
        rw [List.map_cons, List.zip_cons_cons, List.lookup_cons, differs]
        exact there

/-- The evaluator hands arguments over by their positions. -/
theorem supplies_argument (arguments : List Float) :
    Supplies arguments (Evaluator.argument arguments) := by
  intro position value found
  rw [Evaluator.argument, found]
  rfl

/-- Running the block of a rendered function is running its code. -/
theorem Renders.run_eq {routine : Routine} {arity : Nat} {code : Code}
    (renders : Renders routine arity code) {block : Block} (held : routine.block = some block)
    (platform : Platform) {arguments : List Float} (given : arguments.length = arity)
    (call : String → List Float → Except Fault Float) :
    block.run platform call (routine.parameters.zip (arguments.map .double)) =
      code.run platform (Evaluator.argument arguments) call := by
  obtain ⟨same, operand, taken, heldToo, returned, _, computes⟩ := renders.block
  rw [held] at heldToo
  cases heldToo
  exact computes.run_block returned platform call (receives_zip renders.distinct
    (renders.parameters.trans given.symm) (supplies_argument arguments))

namespace Generator

/-- Modules that were handed off have smaller numbers than the open one. -/
def Earlier (generator : Generator) : Prop :=
  ∀ module ∈ generator.closed, module.number < generator.current.number

/-- A routine for the open module changes no other module. -/
theorem Earlier.withRoutine {generator : Generator} (earlier : generator.Earlier)
    (routine : Routine) :
    generator.withRoutine generator.current.number routine =
      { generator with current := generator.current.withRoutine routine } := by
  have unchanged : generator.closed.map (fun module =>
      if module.number = generator.current.number then module.withRoutine routine else module) =
        generator.closed := by
    refine (List.map_congr_left (g := id) fun module member => ?_).trans (List.map_id _)
    have less := earlier module member
    rw [if_neg (by omega), id]
  simp only [Generator.withRoutine, if_true, unchanged]

/-- Declarations change no number of a module. -/
theorem Earlier.differs {before after : Generator} (earlier : before.Earlier)
    (differs : Differs before after) : after.Earlier := by
  intro module member
  rw [differs.number]
  rw [differs.same] at member
  exact earlier module member

/-- A function of the open unit has got its body, and the routine of the open module a block that
renders it. -/
structure Completes (bodied : String → Prop) (name : String) (body : Node) (evaluator : Evaluator)
    (generator : Generator) (after : Evaluator) (afterToo : Generator) : Prop where
  same : after = { evaluator with
    current := after.current, defined := evaluator.defined.insert name }
  sameToo : afterToo = { generator with
    current := afterToo.current
    defined := generator.defined.insert (generator.current.symbol name) }
  number : after.current.number = evaluator.current.number
  numberToo : afterToo.current.number = generator.current.number
  alongside : Alongside (fun symbol => bodied symbol ∨ symbol = generator.current.symbol name)
    after.current afterToo.current
  others (other : String) (apart : other ≠ name) (function : Evaluator.Function)
    (held : function.body ≠ none) : after.current.functions.get? other = some function ↔
      evaluator.current.functions.get? other = some function
  kept (symbol : String) (routine : Routine) (apart : symbol ≠ generator.current.symbol name)
    (found : generator.current.routines.get? symbol = some routine) (held : routine.block ≠ none) :
    afterToo.current.routines.get? symbol = some routine
  routine : ∃ (module : Module) (routine : Routine) (declared : Prototype) (code : Code),
    afterToo.current = module.withRoutine routine ∧
    (∀ entry ∈ module.routines.entries, entry.2.block = none ∨ bodied entry.1) ∧
    routine.symbol = generator.current.symbol name ∧
    after.current.functions.get? name = some ⟨declared, some (body, code)⟩ ∧
    code.calls = body.calls ∧ code.ReadsBelow declared.arity ∧
    Renders routine declared.arity code

/-- The open module holds one routine with a block, which renders the body of the open unit. -/
structure Rendered (name : String) (body : Node) (unit : Evaluator.CodeUnit)
    (before after : Generator) : Prop where
  same : after = { before with
    current := after.current, defined := before.defined.insert (before.current.symbol name) }
  number : after.current.number = before.current.number
  routine : ∃ routine declared code,
    after.current.routines.entries.filter (fun entry => entry.2.block.isSome) =
      [(before.current.symbol name, routine)] ∧
    after.current.routines.get? (before.current.symbol name) = some routine ∧
    routine.symbol = before.current.symbol name ∧
    unit.functions.get? name = some ⟨declared, some (body, code)⟩ ∧
    Renders routine declared.arity code

/-- If the open module had no block, the one that it has got is the only one. -/
theorem Completes.rendered {name : String} {body : Node} {evaluator after : Evaluator}
    {generator afterToo : Generator}
    (completes : Completes (fun _ => False) name body evaluator generator after afterToo) :
    Rendered name body after.current generator afterToo := by
  obtain ⟨module, routine, declared, code, current, blocks, symbol, found, _, _, renders⟩ :=
    completes.routine
  refine ⟨completes.sameToo, completes.numberToo, routine, declared, code, ?_, ?_, symbol, found,
    renders⟩
  · obtain ⟨block, _, _, held, _⟩ := renders.block
    rw [current, ← symbol]
    refine Catalog.filter_entries_put (fun routine : Routine => routine.block.isSome) _ _
      (show routine.block.isSome = true by rw [held]; rfl) ?_
    intro entry member
    rw [(blocks entry member).resolve_right id]
    rfl
  · rw [current, ← symbol]
    exact Catalog.get?_put_self module.routines routine.symbol routine

section

variable {session : Session} {evaluator : Evaluator} {generator : Generator} {body : Node}
  {name : String}

/-- The same bodies are refused because their function has one. -/
theorem redefinitionFault?_eq (matched : Matched evaluator.current generator.current)
    (opened : Evaluator.Open session evaluator) (nameable : Nameable name)
    (defined : generator.defined = evaluator.defined)
    (words : ∀ other ∈ evaluator.defined, IsWord other) (location : Option Location) :
    redefinitionFault? generator.defined (generator.current.symbol name)
        (generator.hasBody ⟨generator.current.number, generator.current.symbol name⟩) location =
      redefinitionFault? evaluator.defined name
        (evaluator.hasBody ⟨evaluator.current.number, name⟩) location := by
  have bodyless : generator.hasBody ⟨generator.current.number, generator.current.symbol name⟩ =
      false := by
    rw [hasBody, routine?_current]
    cases found : generator.current.routines.get? (generator.current.symbol name) with
    | none => rfl
    | some routine =>
      have blockless := matched.blockless _ (Catalog.mem_of_find? found)
      simp only at blockless
      simp [blockless]
  rw [bodyless, opened.hasBody_eq_false, defined]
  rcases nameable with word | rfl
  · rw [Module.symbol_of_isWord _ word]
  · have absent : generator.current.symbol anonymousName ∉ evaluator.defined := by
      intro member
      have word := words _ member
      rw [Module.symbol_anonymous] at word
      exact word.ne_of_anonymous_append _ rfl
    simp [redefinitionFault?, absent]

/-- A body that was resolved and written out gives a function of the open unit its code, and the
routine of the open module the block that renders it. -/
theorem completes {bodied : String → Prop} {after : Evaluator} {emission : Emission}
    {names : Names} {routine : Routine} {function : Evaluator.Function} {code : Code}
    {operand : Operand} {label : String} (nameable : Nameable name)
    (earlier : evaluator.Earlier) (earlierToo : generator.Earlier)
    (there : evaluator.current.functions.get? name = some function)
    (grows : Evaluator.Grows session evaluator after) (calls : code.calls = body.calls)
    (reads : code.ReadsBelow function.prototype.arity)
    (symbol : routine.symbol = generator.current.symbol name)
    (arity : routine.arity = function.prototype.arity) (sound : routine.Sound)
    (receiving : routine.parameters ⊆ names.taken)
    (writes : Writes bodied routine.parameters { generator, names, instructions := [] } code
      after.current operand emission) :
    let block : Block := { label, instructions := emission.instructions, returned := some operand }
    let complete := after.withBody ⟨evaluator.current.number, name⟩ (body, code)
    let rest := emission.generator.withRoutine generator.current.number
      { routine with names := emission.names, block := some block }
    Completes bodied name body evaluator generator
      { complete with defined := after.defined.insert name }
      { rest with defined := rest.defined.insert (generator.current.symbol name) } := by
  intro block complete rest
  let whole : Routine := { routine with names := emission.names, block := some block }
  have number := writes.differs.number
  have restSame : rest = { emission.generator with
      current := emission.generator.current.withRoutine whole } := by
    have same := (earlierToo.differs writes.differs).withRoutine whole
    rw [number] at same
    exact same
  have found := grows.kept name function there
  have completeSame : complete = { after with
      current := { after.current with
        functions :=
          after.current.functions.put name ⟨function.prototype, some (body, code)⟩ } } := by
    have afterEarlier : after.Earlier := by
      intro unit member
      rw [grows.number]
      rw [grows.same] at member
      exact earlier unit member
    change after.withBody _ _ = _
    rw [← grows.number, afterEarlier.withBody]
    simp only [Evaluator.CodeUnit.withBody, found]
  have symbolAfter : whole.symbol = emission.generator.current.symbol name := by
    rw [Module.symbol, number]
    exact symbol
  obtain ⟨added, instructions, computes, made⟩ := writes.added
  have written : emission.instructions = added := by simpa using instructions
  constructor
  case same => rw [completeSame, grows.same]
  case sameToo => rw [restSame, writes.differs.same]
  case number =>
    rw [completeSame]
    exact grows.number
  case numberToo =>
    rw [restSame]
    exact number
  case alongside =>
    rw [restSame, completeSame]
    refine (writes.alongside.weaken fun _ => .inl).put nameable symbolAfter arity
      (.inr (.inr symbol)) ⟨sound.distinct, ?_⟩
    exact List.Subset.trans receiving writes.taken
  case others =>
    intro other apart held bodied
    rw [completeSame, Catalog.get?_put, if_neg apart.symm]
    refine ⟨fun now => ?_, grows.kept other held⟩
    rcases grows.added other held now with before | ⟨_, _, rfl⟩
    · exact before
    · exact (bodied rfl).elim
  case kept =>
    intro other held apart before content
    rw [restSame, Module.withRoutine, Catalog.get?_put, if_neg]
    · exact writes.differs.kept other held before content
    · exact fun same => apart (same.symm.trans symbol)
  case routine =>
    refine ⟨emission.generator.current, whole, function.prototype, code, ?_,
      writes.alongside.blocks, symbol, ?_, calls, reads, arity, sound.distinct, ?_⟩
    · rw [restSame]
    · rw [completeSame]
      exact Catalog.get?_put_self _ _ _
    · refine ⟨block, operand, names.taken, rfl, rfl, ?_, ?_⟩
      · change emission.instructions.filterMap call? = code.calls
        rw [written, made]
      · rw [← written] at computes
        exact computes

/-- Compiling the body of a declared function does the same on both sides, if neither side or both
have a body already. -/
theorem defineBody_completes {bodied : String → Prop} (keyed : session.Keyed)
    (spelled : body.Spelled) (alongside : Alongside bodied evaluator.current generator.current)
    (earlier : evaluator.Earlier) (earlierToo : generator.Earlier) (nameable : Nameable name)
    (verdict : redefinitionFault? generator.defined (generator.current.symbol name)
        (generator.hasBody ⟨generator.current.number, generator.current.symbol name⟩)
        body.location =
      redefinitionFault? evaluator.defined name
        (evaluator.hasBody ⟨evaluator.current.number, name⟩) body.location)
    {function : Evaluator.Function} {parameters : List String}
    (there : evaluator.current.functions.get? name = some function)
    (arity : parameters.length = function.prototype.arity) :
    Agree (Evaluator.defineBody session ⟨evaluator.current.number, name⟩ body parameters)
      (defineBody session ⟨generator.current.number, generator.current.symbol name⟩ body parameters)
      evaluator generator
      (fun _ after _ afterToo => Completes bodied name body evaluator generator after afterToo)
      (fun after afterToo => Evaluator.Grows session evaluator after ∧
        Alongside bodied after.current afterToo.current ∧ Differs generator afterToo) := by
  obtain ⟨routine, thereToo, arityToo⟩ := alongside.of_some nameable there
  have member := Catalog.mem_of_find? thereToo
  have symbol : routine.symbol = generator.current.symbol name := alongside.filed.own _ member
  have sound : routine.Sound := alongside.sound _ member
  obtain ⟨label, names, entry, taken⟩ : ∃ label names, routine.names.take "entry" = (label, names) ∧
      names.taken = label :: routine.names.taken := ⟨_, _, rfl, Names.taken_take _ _⟩
  have receiving : routine.parameters ⊆ names.taken := by
    rw [taken]
    exact List.Subset.trans sound.used (List.subset_cons_self ..)
  have lengths : parameters.length = routine.parameters.length := arity.trans arityToo.symm
  have agrees := emit_agrees keyed (scopes_zip lengths) spelled evaluator
    { generator, names, instructions := [] } alongside receiving
  have compiles := Evaluator.compile_ensures keyed parameters body evaluator
  unfold Evaluator.defineBody defineBody
  apply agree_get
  rw [verdict]
  refine agree_check (fun fresh => ?_) ⟨.refl session evaluator, alongside, .refl generator⟩
  rw [← verdict] at fresh
  have bare : generator.current.block? routine.symbol = none := by
    rw [symbol, Module.block?, thereToo, Option.bind_some]
    cases held : routine.block with
    | none => rfl
    | some block =>
      simp [redefinitionFault?, hasBody, routine?_current, thereToo, held] at fresh
  simp only [routine?_current, thereToo, entry]
  unfold Agree at agrees ⊢
  unfold Ensures at compiles
  cases reached : Evaluator.compile session parameters body evaluator with
  | ok code after =>
    rw [reached] at agrees compiles
    obtain ⟨grows, calls, reads, _⟩ := compiles
    cases written : emit session (parameters.zip routine.parameters) body
        { generator, names, instructions := [] } with
    | error fault emission =>
      rw [written] at agrees
      exact agrees.elim
    | ok operand emission =>
      rw [written] at agrees
      rw [bind_ok reached]
      exact completes nameable earlier earlierToo there grows calls (arity ▸ reads) symbol arityToo
        sound receiving agrees
  | error fault after =>
    rw [reached] at agrees compiles
    cases written : emit session (parameters.zip routine.parameters) body
        { generator, names, instructions := [] } with
    | ok operand emission =>
      rw [written] at agrees
      exact agrees.elim
    | error otherFault emission =>
      rw [written] at agrees
      obtain ⟨rfl, spoils⟩ := agrees
      obtain ⟨grows, isCompile⟩ := compiles
      obtain ⟨error, location, rfl⟩ := isCompile spelled
      rw [bind_error reached]
      refine ⟨rfl, ?_⟩
      let incomplete : Routine := { routine with names := emission.names, block := none }
      have whole := (earlierToo.differs spoils.differs).withRoutine incomplete
      rw [spoils.differs.number] at whole
      change Evaluator.Grows session evaluator after ∧ Alongside bodied after.current
          (emission.generator.withRoutine generator.current.number incomplete).current ∧
        Differs generator (emission.generator.withRoutine generator.current.number incomplete)
      rw [whole]
      refine ⟨grows, ?_, spoils.differs.put incomplete bare⟩
      refine spoils.alongside.withRoutine nameable (grows.kept name function there) ?_ arityToo
        (.inl rfl) ⟨sound.distinct, List.Subset.trans receiving spoils.taken⟩
      rw [symbol, Module.symbol, Module.symbol, spoils.differs.number]

/-- Compiling the first body of the open unit does the same on both sides. -/
theorem defineBody_agrees (keyed : session.Keyed) (spelled : body.Spelled)
    (matched : Matched evaluator.current generator.current)
    (opened : Evaluator.Open session evaluator) (earlier : evaluator.Earlier)
    (earlierToo : generator.Earlier) (defined : generator.defined = evaluator.defined)
    (words : ∀ other ∈ evaluator.defined, IsWord other) (nameable : Nameable name)
    {function : Evaluator.Function} {parameters : List String}
    (there : evaluator.current.functions.get? name = some function)
    (arity : parameters.length = function.prototype.arity) :
    Agree (Evaluator.defineBody session ⟨evaluator.current.number, name⟩ body parameters)
      (defineBody session ⟨generator.current.number, generator.current.symbol name⟩ body parameters)
      evaluator generator
      (fun _ after _ afterToo => Rendered name body after.current generator afterToo)
      (fun after afterToo =>
        Matched after.current afterToo.current ∧ Differs generator afterToo) := by
  have verdict := redefinitionFault?_eq matched opened nameable defined words body.location
  have agrees := defineBody_completes keyed spelled matched earlier earlierToo nameable verdict
    there arity
  exact agrees.imp (fun _ _ _ _ completes => completes.rendered) fun _ _ left => left.2

/-- Declaring on the way to a definition changes nothing that the definition is compared with. -/
theorem Rendered.of_differs {unit : Evaluator.CodeUnit} {declared after : Generator}
    (rendered : Rendered name body unit declared after) (differs : Differs generator declared) :
    Rendered name body unit generator after := by
  have symbol : declared.current.symbol name = generator.current.symbol name := by
    rw [Module.symbol, Module.symbol, differs.number]
  obtain ⟨same, number, routine⟩ := rendered
  rw [symbol] at same routine
  refine ⟨?_, number.trans differs.number, routine⟩
  rw [same, differs.same]

/-- Defining a function does the same on both sides. -/
theorem define_agrees (keyed : session.Keyed) {function : Definition}
    (nameable : Nameable function.prototype.name) (spelled : function.body.Spelled)
    (matched : Matched evaluator.current generator.current)
    (opened : Evaluator.Open session evaluator) (earlier : evaluator.Earlier)
    (earlierToo : generator.Earlier) (defined : generator.defined = evaluator.defined)
    (words : ∀ other ∈ evaluator.defined, IsWord other) :
    Agree (define session function) (define session function) evaluator generator
      (fun _ after handle afterToo =>
        handle = ⟨generator.current.number, generator.current.symbol function.prototype.name⟩ ∧
          Rendered function.prototype.name function.body after.current generator afterToo)
      (fun after afterToo =>
        Matched after.current afterToo.current ∧ Differs generator afterToo) := by
  unfold define
  have declares := (declare_agrees session _ matched nameable).ensures
    (Evaluator.declare_ensures session function.prototype evaluator)
  refine Agree.bind (declares.imp (fun _ _ _ _ related => related) ?_) ?_
  · rintro after afterToo ⟨rfl, rfl⟩
    exact ⟨matched, .refl _⟩
  · rintro handle declared handleToo declaredToo
      ⟨⟨rfl, matchedDeclared, differs⟩, rfl, accepted, ⟨there, found, arity⟩, shape⟩
    have number : declared.current.number = evaluator.current.number := by
      rcases shape with rfl | ⟨_, rfl⟩ <;> rfl
    have declaredSame : declared = { evaluator with current := declared.current } := by
      rcases shape with rfl | ⟨_, rfl⟩ <;> rfl
    have declaredOpen : Evaluator.Open session declared := by
      rcases shape with rfl | ⟨_, rfl⟩
      · exact opened
      · exact opened.put accepted
    have declaredEarlier : declared.Earlier := by
      intro unit member
      rw [number]
      rw [declaredSame] at member
      exact earlier unit member
    have symbol : declaredToo.current.symbol function.prototype.name =
        generator.current.symbol function.prototype.name := by
      rw [Module.symbol, Module.symbol, differs.number]
    have definedSame : declaredToo.defined = declared.defined := by
      rw [differs.same, declaredSame]
      exact defined
    have wordsToo : ∀ other ∈ declared.defined, IsWord other := by
      rw [declaredSame]
      exact words
    have bodies := defineBody_agrees keyed spelled matchedDeclared declaredOpen declaredEarlier
      (earlierToo.differs differs) definedSame wordsToo nameable found arity.symm
    rw [number, differs.number, symbol] at bodies
    refine Agree.bind (bodies.imp (fun _ _ _ _ related => related) ?_) ?_
    · rintro after afterToo ⟨matchedAfter, differsMore⟩
      exact ⟨matchedAfter, differs.trans differsMore⟩
    · intro _ after _ afterToo rendered
      exact agree_pure ⟨rfl, rendered.of_differs differs⟩

end

end Generator

end Reckon
