import Reckon.Proofs.Pairing.Units

/-!
# Twins

A unit of the evaluator and a module of the generator are twins if they declare the same
functions and the same functions have bodies, however many: the block of each routine
computes the code of its function. Twins that are open stay twins whatever is declared and
defined in both, as long as the same names count as defined. Both sides then accept the same
declarations and definitions.
-/

namespace Reckon

open Reckon.Action Instruction

namespace Evaluator

/-- The unit holds this body for a function with so many parameters. -/
def CodeUnit.Carries (unit : CodeUnit) (name : String) (arity : Nat) (body : Node) (code : Code) :
    Prop :=
  ∃ prototype, unit.functions.get? name = some ⟨prototype, some (body, code)⟩ ∧
    prototype.arity = arity

/-- A function of the open unit has a body exactly if it is found with one. -/
theorem hasBody_iff (evaluator : Evaluator) (name : String) :
    evaluator.hasBody ⟨evaluator.current.number, name⟩ = true ↔ ∃ function : Function,
      function.body ≠ none ∧ evaluator.current.functions.get? name = some function := by
  rw [hasBody, function?_current]
  cases found : evaluator.current.functions.get? name <;> simp [Option.isSome_iff_ne_none]

/-- The open unit may have got declarations, and no body. -/
structure Spares (before after : Evaluator) : Prop where
  same : after = { before with current := after.current }
  number : after.current.number = before.current.number
  bodies (name : String) (function : Function) (held : function.body ≠ none) :
    after.current.functions.get? name = some function ↔
      before.current.functions.get? name = some function

namespace Spares

variable {before after : Evaluator}

/-- An evaluator that is left alone has got no body. -/
theorem refl (evaluator : Evaluator) : Spares evaluator evaluator := ⟨rfl, rfl, fun _ _ _ => .rfl⟩

/-- The open unit holds the same bodies as before. -/
theorem carries_iff (spares : Spares before after) {name : String} {arity : Nat} {body : Node}
    {code : Code} : after.current.Carries name arity body code ↔
      before.current.Carries name arity body code :=
  exists_congr fun _ => and_congr_left fun _ => spares.bodies _ _ (Option.some_ne_none _)

/-- A function has a body after declarations exactly if it had one before. -/
theorem hasBody_eq (spares : Spares before after) (name : String) :
    after.hasBody ⟨after.current.number, name⟩ = before.hasBody ⟨before.current.number, name⟩ := by
  rw [Bool.eq_iff_iff, hasBody_iff, hasBody_iff]
  exact exists_congr fun function => and_congr_right fun held => spares.bodies name function held

/-- A function may be declared that was not. -/
theorem put {name : String} (absent : before.current.functions.get? name = none)
    (prototype : Prototype) : Spares before { before with
      current := { before.current with
        functions := before.current.functions.put name ⟨prototype, none⟩ } } := by
  constructor
  case same => rfl
  case number => rfl
  case bodies =>
    intro other function held
    rw [Catalog.get?_put]
    split
    · rename_i same
      rw [← same, absent]
      constructor
      · intro found
        obtain rfl := Option.some.inj found
        exact (held rfl).elim
      · intro found
        cases found
    · exact .rfl

end Spares

/-- Declarations bring no body in. -/
theorem Grows.spares {session : Session} {before after : Evaluator}
    (grows : Grows session before after) : Spares before after := by
  constructor
  case same => exact grows.same
  case number => exact grows.number
  case bodies =>
    intro name function held
    refine ⟨fun found => ?_, grows.kept name function⟩
    rcases grows.added name function found with earlier | ⟨_, _, rfl⟩
    · exact earlier
    · exact (held rfl).elim

end Evaluator

open Evaluator (CodeUnit)

/-- The symbol of a function that has a body. -/
def Bodied (unit : CodeUnit) (module : Module) (symbol : String) : Prop :=
  ∃ name, Nameable name ∧ module.symbol name = symbol ∧
    ∃ arity body code, unit.Carries name arity body code

/-- The body was read, and the code is what it was resolved to. -/
structure Resolved (name : String) (arity : Nat) (body : Node) (code : Code) : Prop where
  nameable : Nameable name
  spelled : body.Spelled
  calls : code.calls = body.calls
  reads : code.ReadsBelow arity

/-- The routine of the function renders its code, too. -/
structure Rendition (module : Module) (name : String) (arity : Nat) (body : Node) (code : Code) :
    Prop extends Resolved name arity body code where
  routine : ∃ routine, module.routines.get? (module.symbol name) = some routine ∧
    Renders routine arity code

/-- A unit and a module that declare the same functions and hold the same bodies. -/
structure Twin (unit : CodeUnit) (module : Module) : Prop where
  alongside : Alongside (Bodied unit module) unit module
  rendition (name : String) (arity : Nat) (body : Node) (code : Code)
    (carries : unit.Carries name arity body code) : Rendition module name arity body code

namespace Twin

/-- A unit and a module of one number that have just been opened hold the same, namely nothing. -/
theorem opened (number : Nat) : Twin (.opened number) (.opened number) := by
  refine ⟨.opened _ number, ?_⟩
  rintro name arity body code ⟨prototype, found, _⟩
  cases found

/-- The routine of a function with a body has a block, and no other routine has. -/
theorem block_ne_none_iff {unit : CodeUnit} {module : Module} (twin : Twin unit module)
    {name : String} (nameable : Nameable name) {routine : Routine}
    (found : module.routines.get? (module.symbol name) = some routine) :
    routine.block ≠ none ↔ ∃ arity body code, unit.Carries name arity body code := by
  constructor
  · intro held
    have member := Catalog.mem_of_find? found
    obtain ⟨other, nameableToo, same, bodied⟩ :=
      (twin.alongside.blocks _ member).resolve_left held
    rwa [module.symbol_inj nameableToo nameable same] at bodied
  · rintro ⟨arity, body, code, carries⟩
    obtain ⟨other, foundToo, renders⟩ := (twin.rendition name arity body code carries).routine
    obtain ⟨block, _, _, held, _⟩ := renders.block
    rw [found] at foundToo
    cases foundToo
    simp [held]

variable {session : Session} {evaluator after : Evaluator} {generator afterToo : Generator}
  {name : String} {body : Node}

/-- Declarations leave twins. -/
theorem spares (twin : Twin evaluator.current generator.current)
    (spares : Evaluator.Spares evaluator after) (differs : Generator.Differs generator afterToo)
    (alongside : Alongside (Bodied evaluator.current generator.current) after.current
      afterToo.current) : Twin after.current afterToo.current := by
  have symbols (name : String) : afterToo.current.symbol name = generator.current.symbol name := by
    rw [Module.symbol, Module.symbol, differs.number]
  constructor
  case alongside =>
    refine alongside.weaken ?_
    rintro symbol ⟨name, nameable, own, arity, body, code, carries⟩
    exact ⟨name, nameable, (symbols name).trans own, arity, body, code,
      spares.carries_iff.mpr carries⟩
  case rendition =>
    intro name arity body code carries
    have rendition := twin.rendition name arity body code (spares.carries_iff.mp carries)
    obtain ⟨routine, found, renders⟩ := rendition.routine
    obtain ⟨block, _, _, held, _⟩ := renders.block
    refine { rendition with routine := ⟨routine, ?_, renders⟩ }
    rw [symbols]
    exact differs.kept _ routine found (by simp [held])

/-- So does a body that both sides get. -/
theorem completes (twin : Twin evaluator.current generator.current) (nameable : Nameable name)
    (spelled : body.Spelled) (completes : Generator.Completes
      (Bodied evaluator.current generator.current) name body evaluator generator after afterToo) :
    Twin after.current afterToo.current := by
  have symbols (name : String) : afterToo.current.symbol name = generator.current.symbol name := by
    rw [Module.symbol, Module.symbol, completes.numberToo]
  have others {other : String} (apart : other ≠ name) {arity : Nat} {body : Node} {code : Code} :
      after.current.Carries other arity body code ↔
        evaluator.current.Carries other arity body code :=
    exists_congr fun _ => and_congr_left fun _ =>
      completes.others other apart _ (Option.some_ne_none _)
  obtain ⟨module, routine, declared, code, current, _, symbol, found, calls, reads, renders⟩ :=
    completes.routine
  constructor
  case alongside =>
    refine completes.alongside.weaken ?_
    have itself : Bodied after.current afterToo.current (generator.current.symbol name) :=
      ⟨name, nameable, symbols name, declared.arity, body, code, declared, found, rfl⟩
    rintro _ (⟨other, nameableToo, rfl, arity, inner, codeToo, carries⟩ | rfl)
    · by_cases apart : other = name
      · exact apart ▸ itself
      · exact ⟨other, nameableToo, symbols other, arity, inner, codeToo, (others apart).mpr carries⟩
    · exact itself
  case rendition =>
    intro other arity inner codeToo carries
    by_cases apart : other = name
    · subst apart
      obtain ⟨prototype, foundToo, rfl⟩ := carries
      rw [found] at foundToo
      cases foundToo
      refine ⟨⟨nameable, spelled, calls, reads⟩, routine, ?_, renders⟩
      rw [symbols, current, ← symbol]
      exact Catalog.get?_put_self module.routines routine.symbol routine
    · have rendition := twin.rendition other arity inner codeToo ((others apart).mp carries)
      obtain ⟨older, there, rendersToo⟩ := rendition.routine
      obtain ⟨block, _, _, held, _⟩ := rendersToo.block
      refine { rendition with routine := ⟨older, ?_, rendersToo⟩ }
      rw [symbols]
      refine completes.kept _ older ?_ there (by simp [held])
      exact fun same => apart (generator.current.symbol_inj rendition.nameable nameable same)

/-- The same functions of open twins have bodies. -/
theorem hasBody_eq (twin : Twin evaluator.current generator.current) (nameable : Nameable name) :
    generator.hasBody ⟨generator.current.number, generator.current.symbol name⟩ =
      evaluator.hasBody ⟨evaluator.current.number, name⟩ := by
  rw [Generator.hasBody, Generator.routine?_current, Evaluator.hasBody,
    Evaluator.function?_current]
  cases found : evaluator.current.functions.get? name with
  | none => simp only [twin.alongside.of_none nameable found]
  | some function =>
    obtain ⟨routine, there, _⟩ := twin.alongside.of_some nameable found
    have same := twin.block_ne_none_iff nameable there
    dsimp only
    rw [there, Bool.eq_iff_iff, Option.isSome_iff_ne_none, Option.isSome_iff_ne_none, same]
    constructor
    · rintro ⟨arity, body, code, prototype, foundToo, _⟩
      rw [found] at foundToo
      cases foundToo
      exact Option.some_ne_none _
    · intro held
      obtain ⟨prototype, content⟩ := function
      cases content with
      | none => exact (held rfl).elim
      | some pair => exact ⟨prototype.arity, pair.1, pair.2, prototype, found, rfl⟩

end Twin

/-- A body that both sides get is the only new one. -/
theorem Generator.Completes.hasBody_iff {bodied : String → Prop} {name : String} {body : Node}
    {evaluator after : Evaluator} {generator afterToo : Generator}
    (completes : Completes bodied name body evaluator generator after afterToo) (other : String) :
    after.hasBody ⟨after.current.number, other⟩ = true ↔
      other = name ∨ evaluator.hasBody ⟨evaluator.current.number, other⟩ = true := by
  rw [Evaluator.hasBody_iff, Evaluator.hasBody_iff]
  by_cases itself : other = name
  · subst itself
    obtain ⟨_, _, declared, code, _, _, _, found, _⟩ := completes.routine
    exact ⟨fun _ => .inl rfl, fun _ => ⟨_, Option.some_ne_none _, found⟩⟩
  · simp only [itself, false_or]
    exact exists_congr fun function => and_congr_right fun held =>
      completes.others other itself function held

/-! ## What counts as defined -/

/-- The same words count as defined. The symbol of a wrapped expression only counts in the module
that it is of, or later. -/
structure Tally (evaluator : Evaluator) (generator : Generator) : Prop where
  words (name : String) (word : IsWord name) :
    name ∈ generator.defined ↔ name ∈ evaluator.defined
  wrapped (number : Nat) (member : anonymousSymbol number ∈ generator.defined) :
    number < generator.current.number ∨ number = generator.current.number ∧
      evaluator.hasBody ⟨evaluator.current.number, anonymousName⟩ = true

namespace Tally

variable {evaluator after : Evaluator} {generator afterToo : Generator} {name : String}

/-- Declarations on both sides leave the same words defined. -/
theorem spares (tally : Tally evaluator generator) (spares : Evaluator.Spares evaluator after)
    (differs : Generator.Differs generator afterToo) : Tally after afterToo := by
  have defined : after.defined = evaluator.defined := by rw [spares.same]
  have definedToo : afterToo.defined = generator.defined := by rw [differs.same]
  constructor
  case words =>
    rw [defined, definedToo]
    exact tally.words
  case wrapped =>
    rw [definedToo, differs.number, spares.hasBody_eq]
    exact tally.wrapped

/-- A body on both sides counts as defined on both. -/
theorem completes {bodied : String → Prop} {body : Node} (tally : Tally evaluator generator)
    (nameable : Nameable name) (completes : Generator.Completes bodied name body evaluator generator
      after afterToo) : Tally after afterToo := by
  have defined : after.defined = evaluator.defined.insert name := by rw [completes.same]
  have definedToo : afterToo.defined =
      generator.defined.insert (generator.current.symbol name) := by rw [completes.sameToo]
  constructor
  case words =>
    intro other word
    rw [defined, definedToo, NameSet.mem_insert, NameSet.mem_insert, tally.words other word]
    rcases nameable with itself | rfl
    · rw [Module.symbol_of_isWord _ itself]
    · rw [Module.symbol_anonymous]
      exact or_congr_right
        (iff_of_false (word.ne_of_anonymous_append _) word.ne_anonymousName)
  case wrapped =>
    intro number member
    rw [definedToo, NameSet.mem_insert] at member
    rw [completes.numberToo, completes.hasBody_iff]
    rcases member with earlier | itself
    · exact (tally.wrapped number earlier).imp_right (And.imp_right .inr)
    · rcases nameable with word | rfl
      · rw [Module.symbol_of_isWord _ word] at itself
        exact (word.ne_of_anonymous_append _ itself.symm).elim
      · rw [Module.symbol_anonymous] at itself
        exact .inr ⟨anonymousSymbol_inj itself, .inl rfl⟩

/-- A new body is refused on both sides, or on neither. -/
theorem redefinitionFault?_eq (tally : Tally evaluator generator)
    (twin : Twin evaluator.current generator.current) (nameable : Nameable name)
    (bodyless : evaluator.hasBody ⟨evaluator.current.number, name⟩ = false)
    (location : Option Location) :
    redefinitionFault? generator.defined (generator.current.symbol name)
        (generator.hasBody ⟨generator.current.number, generator.current.symbol name⟩) location =
      redefinitionFault? evaluator.defined name
        (evaluator.hasBody ⟨evaluator.current.number, name⟩) location := by
  rw [twin.hasBody_eq nameable, bodyless]
  rcases nameable with word | rfl
  · rw [Module.symbol_of_isWord _ word]
    simp only [redefinitionFault?, tally.words name word]
  · have absent : generator.current.symbol anonymousName ∉ generator.defined := by
      rw [Module.symbol_anonymous]
      intro member
      rcases tally.wrapped _ member with less | ⟨_, held⟩
      · exact Nat.lt_irrefl _ less
      · rw [bodyless] at held
        cases held
    simp [redefinitionFault?, absent]

end Tally

/-! ## Both at once -/

/-- Both sides have got declarations at most. -/
structure Rests (evaluator : Evaluator) (generator : Generator) (after : Evaluator)
    (afterToo : Generator) : Prop where
  spares : Evaluator.Spares evaluator after
  differs : Generator.Differs generator afterToo
  twin : Twin after.current afterToo.current
  tally : Tally after afterToo

/-- Both sides have changed nothing but their open units and what counts as defined. -/
structure Advances (evaluator : Evaluator) (generator : Generator) (after : Evaluator)
    (afterToo : Generator) : Prop where
  same : after = { evaluator with current := after.current, defined := after.defined }
  sameToo : afterToo = { generator with
    current := afterToo.current, defined := afterToo.defined }
  number : after.current.number = evaluator.current.number
  numberToo : afterToo.current.number = generator.current.number
  twin : Twin after.current afterToo.current
  tally : Tally after afterToo

section

variable {evaluator middle after : Evaluator} {generator middleToo afterToo : Generator}

/-- What rests has advanced by nothing but declarations. -/
theorem Rests.advances (rests : Rests evaluator generator after afterToo) :
    Advances evaluator generator after afterToo := by
  constructor
  case same => rw [rests.spares.same]
  case sameToo => rw [rests.differs.same]
  case number => exact rests.spares.number
  case numberToo => exact rests.differs.number
  case twin => exact rests.twin
  case tally => exact rests.tally

/-- What advanced in two rounds has advanced. -/
theorem Advances.trans (start : Advances evaluator generator middle middleToo)
    (rest : Advances middle middleToo after afterToo) :
    Advances evaluator generator after afterToo := by
  constructor
  case same => rw [rest.same, start.same]
  case sameToo => rw [rest.sameToo, start.sameToo]
  case number => exact rest.number.trans start.number
  case numberToo => exact rest.numberToo.trans start.numberToo
  case twin => exact rest.twin
  case tally => exact rest.tally

end

section

variable {session : Session} {evaluator : Evaluator} {generator : Generator}

/-- A function is declared on both sides, or refused on both. -/
theorem declare_twins (twin : Twin evaluator.current generator.current)
    (tally : Tally evaluator generator) (session : Session) {prototype : Prototype}
    (nameable : Nameable prototype.name) :
    (∃ after afterToo,
      Evaluator.declare session prototype evaluator =
        .ok ⟨evaluator.current.number, prototype.name⟩ after ∧
      Generator.declare session prototype generator =
        .ok ⟨generator.current.number, generator.current.symbol prototype.name⟩ afterToo ∧
      after.Holds (prototype.name, prototype.arity) ∧
      Rests evaluator generator after afterToo) ∨
    ∃ fault,
      Evaluator.declare session prototype evaluator = .error fault evaluator ∧
      Generator.declare session prototype generator = .error fault generator := by
  have agrees := Generator.declare_agrees session prototype twin.alongside nameable
  rcases agrees.ends (Evaluator.declare_ensures session prototype evaluator) with
    ⟨handle, after, handleToo, afterToo, reached, reachedToo, ⟨rfl, alongside, differs⟩, rfl, _,
      holds, shape⟩ | ⟨fault, after, afterToo, reached, reachedToo, ⟨rfl, rfl⟩, _⟩
  · left
    have spares : Evaluator.Spares evaluator after := by
      rcases shape with rfl | ⟨absent, rfl⟩
      · exact .refl _
      · exact .put absent prototype
    exact ⟨after, afterToo, reached, reachedToo, holds, spares, differs,
      twin.spares spares differs alongside, tally.spares spares differs⟩
  · exact .inr ⟨fault, reached, reachedToo⟩

/-- A declared function gets its body on both sides, or is refused on both. -/
theorem defineBody_twins (keyed : session.Keyed) (twin : Twin evaluator.current generator.current)
    (tally : Tally evaluator generator) (earlier : evaluator.Earlier)
    (earlierToo : generator.Earlier) {name : String} {body : Node} {parameters : List String}
    (nameable : Nameable name) (spelled : body.Spelled)
    (holds : evaluator.Holds (name, parameters.length)) :
    (∃ after afterToo,
      Evaluator.defineBody session ⟨evaluator.current.number, name⟩ body parameters evaluator =
        .ok () after ∧
      Generator.defineBody session ⟨generator.current.number, generator.current.symbol name⟩ body
        parameters generator = .ok () afterToo ∧
      Advances evaluator generator after afterToo) ∨
    ∃ fault faultToo after afterToo,
      Evaluator.defineBody session ⟨evaluator.current.number, name⟩ body parameters evaluator =
        .error fault after ∧
      Generator.defineBody session ⟨generator.current.number, generator.current.symbol name⟩ body
        parameters generator = .error faultToo afterToo ∧
      Advances evaluator generator after afterToo := by
  cases bodied : evaluator.hasBody ⟨evaluator.current.number, name⟩ with
  | true =>
    -- The two name the function differently, so the faults may differ.
    have bodiedToo := (twin.hasBody_eq nameable).trans bodied
    refine .inr ⟨.compile (.redefinition name) body.location,
      .compile (.redefinition (generator.current.symbol name)) body.location,
      evaluator, generator, ?_, ?_, rfl, rfl, rfl, rfl, twin, tally⟩
    · unfold Evaluator.defineBody
      rw [get_bind, bodied]
      simp only [redefinitionFault?, Bool.true_or, if_true]
      rfl
    · unfold Generator.defineBody
      rw [get_bind, bodiedToo]
      simp only [redefinitionFault?, Bool.true_or, if_true]
      rfl
  | false =>
    obtain ⟨function, there, arity⟩ := holds
    have verdict := tally.redefinitionFault?_eq twin nameable bodied body.location
    have agrees := Generator.defineBody_completes keyed spelled twin.alongside earlier earlierToo
      nameable verdict there arity.symm
    have ends : Ensures (Evaluator.defineBody session ⟨evaluator.current.number, name⟩ body
      parameters) evaluator fun _ => True := trivial
    rcases agrees.ends ends with
      ⟨_, after, _, afterToo, reached, reachedToo, completes, _⟩ |
      ⟨fault, after, afterToo, reached, reachedToo, ⟨grows, alongside, differs⟩, _⟩
    · refine .inl ⟨after, afterToo, reached, reachedToo, ?_, ?_, completes.number,
        completes.numberToo, twin.completes nameable spelled completes,
        tally.completes nameable completes⟩
      · rw [completes.same]
      · rw [completes.sameToo]
    · have rests : Rests evaluator generator after afterToo := ⟨grows.spares, differs,
        twin.spares grows.spares differs alongside, tally.spares grows.spares differs⟩
      exact .inr ⟨fault, fault, after, afterToo, reached, reachedToo, rests.advances⟩

/-- A function is defined on both sides, or refused on both. -/
theorem define_twins (keyed : session.Keyed) (twin : Twin evaluator.current generator.current)
    (tally : Tally evaluator generator) (earlier : evaluator.Earlier)
    (earlierToo : generator.Earlier) (definition : Definition)
    (nameable : Nameable definition.prototype.name) (spelled : definition.body.Spelled) :
    (∃ after afterToo,
      define session definition evaluator =
        .ok ⟨evaluator.current.number, definition.prototype.name⟩ after ∧
      define session definition generator = .ok ⟨generator.current.number,
        generator.current.symbol definition.prototype.name⟩ afterToo ∧
      Advances evaluator generator after afterToo) ∨
    ∃ fault faultToo after afterToo,
      define session definition evaluator = .error fault after ∧
      define session definition generator = .error faultToo afterToo ∧
      Advances evaluator generator after afterToo := by
  rcases declare_twins twin tally session nameable with
    ⟨declared, declaredToo, reached, reachedToo, holds, rests⟩ | ⟨fault, failed, failedToo⟩
  · have number := rests.spares.number
    have numberToo := rests.differs.number
    have symbol : declaredToo.current.symbol definition.prototype.name =
        generator.current.symbol definition.prototype.name := by
      rw [Module.symbol, Module.symbol, numberToo]
    have declaredEarlier : declared.Earlier := by
      intro unit member
      rw [number]
      rw [rests.spares.same] at member
      exact earlier unit member
    have bodies := defineBody_twins keyed rests.twin rests.tally declaredEarlier
      (earlierToo.differs rests.differs) nameable spelled holds
    rw [number, numberToo, symbol] at bodies
    rcases bodies with ⟨after, afterToo, done, doneToo, advances⟩ |
      ⟨fault, faultToo, after, afterToo, failed, failedToo, left⟩
    · exact .inl ⟨after, afterToo, (bind_ok reached).trans (bind_ok done),
        (bind_ok reachedToo).trans (bind_ok doneToo), rests.advances.trans advances⟩
    · exact .inr ⟨fault, faultToo, after, afterToo, (bind_ok reached).trans (bind_error failed),
        (bind_ok reachedToo).trans (bind_error failedToo), rests.advances.trans left⟩
  · exact .inr ⟨fault, fault, evaluator, generator, bind_error failed, bind_error failedToo,
      rfl, rfl, rfl, rfl, twin, tally⟩

end

end Reckon
