import Reckon.Proofs.Generator.Rendering
import Reckon.Proofs.Pairing.Declaration

/-!
# Resolved and written out side by side

Compiling the same body on both sides finds the same faults in the same order and
declares the same functions on the way. What the generator writes computes what the
evaluator resolved, and makes the same calls.
-/

namespace Reckon

open Reckon.Action Instruction

/-- An operation of the generator agrees with one of the evaluator while a block is written, too. -/
theorem Generator.generating_agrees {α β : Type} {left : Action Evaluator α}
    {right : Action Generator β} {evaluator : Evaluator} {emission : Generator.Emission}
    {good : α → Evaluator → β → Generator → Prop} {bad : Evaluator → Generator → Prop}
    (agrees : Agree left right evaluator emission.generator good bad) :
    Agree left (Generator.generating right) evaluator emission
      (fun value after other written => good value after other written.generator ∧
        written = { emission with generator := written.generator })
      (fun after written => bad after written.generator ∧
        written = { emission with generator := written.generator }) := by
  unfold Agree at agrees ⊢
  unfold Generator.generating
  cases reached : left evaluator with
  | ok value after =>
    cases other : right emission.generator with
    | ok otherValue generator =>
      rw [reached, other] at agrees
      exact ⟨agrees, rfl⟩
    | error fault generator =>
      rw [reached, other] at agrees
      exact agrees.elim
  | error fault after =>
    cases other : right emission.generator with
    | ok otherValue generator =>
      rw [reached, other] at agrees
      exact agrees.elim
    | error otherFault generator =>
      rw [reached, other] at agrees
      exact ⟨agrees.1, agrees.2, rfl⟩

namespace Generator

/-- Looking a name up finds the function of the open module under its symbol. -/
theorem lookup_eq (generator : Generator) (name : String) :
    Declarations.lookup generator name =
      (generator.current.routines.get? (generator.current.symbol name)).map fun _ =>
        ⟨generator.current.number, generator.current.symbol name⟩ := rfl

/-- A name in a call means the same function on both sides, or none. -/
theorem resolve_agrees {session : Session} (keyed : session.Keyed) {bodied : String → Prop}
    {name : String} (word : IsWord name) {evaluator : Evaluator} {generator : Generator}
    (alongside : Alongside bodied evaluator.current generator.current) :
    Agree (resolve session name) (resolve session name) evaluator generator
      (fun found after foundToo generatorAfter =>
        foundToo = found.map (fun _ => ⟨generator.current.number, name⟩) ∧
          Alongside bodied after.current generatorAfter.current ∧ Differs generator generatorAfter)
      (fun after generatorAfter =>
        Alongside bodied after.current generatorAfter.current ∧
          Differs generator generatorAfter) := by
  have symbol := generator.current.symbol_of_isWord word
  unfold resolve
  apply agree_get
  simp only [Evaluator.lookup_eq, lookup_eq, symbol]
  cases there : evaluator.current.functions.get? name with
  | some function =>
    obtain ⟨routine, thereToo, _⟩ := alongside.of_some (.inl word) there
    rw [symbol] at thereToo
    simp only [thereToo, Option.map_some]
    exact agree_pure ⟨rfl, alongside, .refl generator⟩
  | none =>
    have missingThere := alongside.of_none (.inl word) there
    rw [symbol] at missingThere
    simp only [missingThere, Option.map_none]
    cases recorded : session.find? name with
    | none => exact agree_pure ⟨rfl, alongside, .refl generator⟩
    | some prototype =>
      have named := keyed name prototype recorded
      subst named
      have declares := declare_agrees session prototype alongside (.inl word)
      refine Agree.bind (declares.imp (fun _ _ _ _ related => related) ?_) ?_
      · rintro after generatorAfter ⟨rfl, rfl⟩
        exact ⟨alongside, .refl _⟩
      · rintro handle after otherHandle generatorAfter ⟨rfl, alongsideAfter, differs⟩
        refine agree_pure ⟨?_, alongsideAfter, differs⟩
        rw [Option.map_some, symbol]

/-- The scope pairs the position of each parameter with its register. -/
def Scopes (parameters registers : List String) (scope : List (String × String)) : Prop :=
  ∀ name, match Evaluator.position? name parameters with
    | some position => ∃ register, registers[position]? = some register ∧
        scope.reverse.lookup name = some register
    | none => scope.reverse.lookup name = none

/-- Parameters with their registers, one by one, are a scope. -/
theorem scopes_zip {parameters registers : List String}
    (lengths : parameters.length = registers.length) :
    Scopes parameters registers (parameters.zip registers) := by
  induction parameters generalizing registers with
  | nil =>
    intro name
    rfl
  | cons parameter rest inductionHypothesis =>
    cases registers with
    | nil => cases lengths
    | cons register others =>
      intro name
      have later := inductionHypothesis (Nat.succ.inj lengths) name
      rw [Evaluator.position?, List.zip_cons_cons, List.reverse_cons, List.lookup_append]
      cases found : Evaluator.position? name rest with
      | some position =>
        rw [found] at later
        obtain ⟨there, at_, finds⟩ := later
        exact ⟨there, at_, by rw [finds]; rfl⟩
      | none =>
        rw [found] at later
        dsimp only at later ⊢
        rw [later]
        by_cases same : parameter = name
        · subst same
          rw [if_pos rfl]
          exact ⟨register, rfl, by simp⟩
        · rw [if_neg same]
          have apart : (name == parameter) = false := beq_eq_false_iff_ne.mpr (Ne.symm same)
          simp [List.lookup_cons, apart]

/-- What writing a body out has done, beside the code that the evaluator resolved it to. -/
structure Writes (bodied : String → Prop) (registers : List String) (before : Emission)
    (code : Code) (unit : Evaluator.CodeUnit) (operand : Operand) (after : Emission) : Prop where
  alongside : Alongside bodied unit after.generator.current
  differs : Differs before.generator after.generator
  taken : before.names.taken ⊆ after.names.taken
  among : operand.Among after.names.taken
  added : ∃ added, after.instructions = before.instructions ++ added ∧
    Computes before.names.taken registers added code operand ∧ added.filterMap call? = code.calls

/-- The same for several bodies. -/
structure WritesAll (bodied : String → Prop) (registers : List String) (before : Emission)
    (codes : List Code) (unit : Evaluator.CodeUnit) (operands : List Operand)
    (after : Emission) : Prop where
  alongside : Alongside bodied unit after.generator.current
  differs : Differs before.generator after.generator
  taken : before.names.taken ⊆ after.names.taken
  length : operands.length = codes.length
  added : ∃ added, after.instructions = before.instructions ++ added ∧
    ComputesAll before.names.taken registers added codes operands ∧
    added.filterMap call? = callsOfCodes codes

/-- A refusal leaves matching declarations. -/
structure Spoils (bodied : String → Prop) (before : Emission) (unit : Evaluator.CodeUnit)
    (after : Emission) : Prop where
  alongside : Alongside bodied unit after.generator.current
  differs : Differs before.generator after.generator
  taken : before.names.taken ⊆ after.names.taken

/-- Appending an instruction takes a new name. -/
theorem append_ok (wanted : String) (instruction : String → Instruction) (emission : Emission) :
    ∃ fresh names, append wanted instruction emission = .ok fresh { emission with
        names, instructions := emission.instructions ++ [instruction fresh] } ∧
      fresh ∉ emission.names.taken ∧ names.taken = fresh :: emission.names.taken :=
  ⟨_, _, rfl, Names.take_fresh _ _, Names.taken_take _ _⟩

/-- The instructions of an operation compute it from its operands. -/
theorem emitOperation_ok {taken middle registers : List String} {front back : List Instruction}
    {left right : Code} {leftOperand rightOperand : Operand}
    (first : Computes taken registers front left leftOperand)
    (second : Computes middle registers back right rightOperand) (within : taken ⊆ middle)
    (receiving : registers ⊆ taken) (among : leftOperand.Among middle) (emission : Emission)
    (inUse : taken ⊆ emission.names.taken) (operation : Operation) :
    ∃ operand after added, emitOperation operation leftOperand rightOperand emission =
        .ok operand after ∧ after.generator = emission.generator ∧
      emission.names.taken ⊆ after.names.taken ∧ operand.Among after.names.taken ∧
      after.instructions = emission.instructions ++ added ∧
      Computes taken registers (front ++ back ++ added) (.operation operation left right) operand ∧
      added.filterMap call? = [] := by
  cases operation with
  | arithmetic kind =>
    obtain ⟨fresh, names, appended, absent, taken⟩ := append_ok (resultName kind)
      (fun name => .arithmetic name kind leftOperand rightOperand) emission
    have done : emitOperation (.arithmetic kind) leftOperand rightOperand emission =
        .ok (.register fresh) { emission with
          names
          instructions := emission.instructions ++
            [.arithmetic fresh kind leftOperand rightOperand] } := by
      change (append (resultName kind) _ >>= fun register => pure (Operand.register register)) _ = _
      rw [bind_ok appended]
      rfl
    refine ⟨_, _, _, done, rfl, ?_, ?_, rfl, ?_, rfl⟩
    · rw [taken]
      exact List.subset_cons_self ..
    · rw [Operand.Among, taken]
      exact List.mem_cons_self
    · exact first.arithmetic second within receiving among
        (fun member => absent (inUse member)) kind
  | below =>
    obtain ⟨bit, names, appended, absent, taken⟩ := append_ok "cmptmp"
      (fun name => .compare name leftOperand rightOperand) emission
    obtain ⟨fresh, namesMore, appendedMore, absentMore, takenMore⟩ := append_ok "booltmp"
      (fun name => .widen name bit) { emission with
        names, instructions := emission.instructions ++ [.compare bit leftOperand rightOperand] }
    have absentToo : fresh ∉ emission.names.taken := by
      intro member
      apply absentMore
      change fresh ∈ names.taken
      rw [taken]
      exact List.mem_cons_of_mem _ member
    have done : emitOperation .below leftOperand rightOperand emission =
        .ok (.register fresh) { emission with
          names := namesMore
          instructions := emission.instructions ++ [.compare bit leftOperand rightOperand] ++
            [.widen fresh bit] } := by
      change (append "cmptmp" _ >>= fun bit => append "booltmp" _ >>= fun register =>
        pure (Operand.register register)) _ = _
      rw [bind_ok appended, bind_ok appendedMore]
      rfl
    refine ⟨_, _, [.compare bit leftOperand rightOperand, .widen fresh bit], done, rfl, ?_, ?_,
      List.append_assoc .., ?_, rfl⟩
    · rw [takenMore]
      change emission.names.taken ⊆ fresh :: names.taken
      rw [taken]
      exact List.Subset.trans (List.subset_cons_self ..) (List.subset_cons_self ..)
    · rw [Operand.Among, takenMore]
      exact List.mem_cons_self
    · exact first.below second within receiving among (fun member => absent (inUse member))
        (fun member => absentToo (inUse member))

variable {bodied : String → Prop}

/-- A refusal later on leaves matching declarations all the same. -/
theorem Spoils.since {before middle after : Emission} {unit : Evaluator.CodeUnit}
    (spoils : Spoils bodied middle unit after) (differs : Differs before.generator middle.generator)
    (taken : before.names.taken ⊆ middle.names.taken) : Spoils bodied before unit after :=
  ⟨spoils.alongside, differs.trans spoils.differs, List.Subset.trans taken spoils.taken⟩

/-- Two operands that were written out one after the other are combined. -/
theorem Writes.operation {registers : List String} {before middle after : Emission}
    {left right : Code} {unit unitAfter : Evaluator.CodeUnit} {leftOperand rightOperand : Operand}
    (first : Writes bodied registers before left unit leftOperand middle)
    (second : Writes bodied registers middle right unitAfter rightOperand after)
    (receiving : registers ⊆ before.names.taken) (operation : Operation) :
    ∃ operand last, emitOperation operation leftOperand rightOperand after = .ok operand last ∧
      Writes bodied registers before (.operation operation left right) unitAfter operand last := by
  obtain ⟨front, instructions, computes, calls⟩ := first.added
  obtain ⟨back, instructionsMore, computesMore, callsMore⟩ := second.added
  have takenBoth := List.Subset.trans first.taken second.taken
  obtain ⟨operand, last, added, done, same, taken, among, instructionsLast, computesLast,
    callsLast⟩ := emitOperation_ok computes computesMore first.taken receiving first.among after
      takenBoth operation
  refine ⟨operand, last, done, ?_, ?_, ?_, among, front ++ back ++ added, ?_, computesLast, ?_⟩
  · rw [same]
    exact second.alongside
  · rw [same]
    exact first.differs.trans second.differs
  · exact List.Subset.trans takenBoth taken
  · rw [instructionsLast, instructionsMore, instructions]
    simp
  · rw [List.filterMap_append, List.filterMap_append, calls, callsMore, callsLast,
      List.append_nil, Code.calls]

/-- Arguments that were written out after the callee was resolved are passed to it. -/
theorem WritesAll.call {registers : List String} {before resolved after : Emission}
    {codes : List Code} {unit : Evaluator.CodeUnit} {operands : List Operand}
    (writes : WritesAll bodied registers resolved codes unit operands after)
    (differs : Differs before.generator resolved.generator)
    (names : resolved.names = before.names)
    (instructions : resolved.instructions = before.instructions) (callee : String) :
    ∃ fresh last, append "calltmp" (fun name => .call name callee operands) after =
        .ok fresh last ∧
      Writes bodied registers before (.call callee codes) unit (.register fresh) last := by
  obtain ⟨added, instructionsMore, computes, calls⟩ := writes.added
  obtain ⟨fresh, namesLast, appended, absent, taken⟩ := append_ok "calltmp"
    (fun name => .call name callee operands) after
  have within : before.names.taken ⊆ after.names.taken := by
    rw [← names]
    exact writes.taken
  refine ⟨_, _, appended, writes.alongside, differs.trans writes.differs, ?_, ?_,
    added ++ [.call fresh callee operands], ?_, ?_, ?_⟩
  · rw [taken]
    exact List.Subset.trans within (List.subset_cons_self ..)
  · rw [Operand.Among, taken]
    exact List.mem_cons_self
  · rw [instructionsMore, instructions, List.append_assoc]
  · rw [names] at computes
    exact computes.call (fun member => absent (within member)) callee
  · rw [List.filterMap_append, calls, Code.calls, ← writes.length]
    rfl

variable {session : Session} {parameters registers : List String} {scope : List (String × String)}

/-- If each body is compiled on both sides with the same end, so is a row of bodies. -/
theorem emitAll_agrees (nodes : List Node)
    (each : ∀ node ∈ nodes, ∀ (evaluator : Evaluator) (emission : Emission),
      Alongside bodied evaluator.current emission.generator.current →
      registers ⊆ emission.names.taken →
      Agree (Evaluator.compile session parameters node) (emit session scope node) evaluator emission
        (fun code after => Writes bodied registers emission code after.current)
        (fun after => Spoils bodied emission after.current))
    (evaluator : Evaluator) (emission : Emission)
    (alongside : Alongside bodied evaluator.current emission.generator.current)
    (receiving : registers ⊆ emission.names.taken) :
    Agree (Evaluator.compileAll session parameters nodes) (emitAll session scope nodes) evaluator
      emission (fun codes after => WritesAll bodied registers emission codes after.current)
      (fun after => Spoils bodied emission after.current) := by
  induction nodes generalizing evaluator emission with
  | nil =>
    rw [Evaluator.compileAll, emitAll]
    refine agree_pure ⟨alongside, .refl _, List.Subset.refl _, rfl, [], by simp, ?_, rfl⟩
    exact computesAll_nil _ _
  | cons node rest inductionHypothesis =>
    rw [Evaluator.compileAll, emitAll]
    have first := each node List.mem_cons_self evaluator emission alongside receiving
    apply first.bind
    intro code middle operand written writes
    have others := inductionHypothesis
      (fun node member => each node (List.mem_cons_of_mem _ member))
      middle written writes.alongside (List.Subset.trans receiving writes.taken)
    refine Agree.bind (others.imp (fun _ _ _ _ related => related) ?_) ?_
    · intro after spoilt spoils
      exact spoils.since writes.differs writes.taken
    · intro codes after operands writtenAll writesAll
      obtain ⟨added, instructions, computes, calls⟩ := writes.added
      obtain ⟨more, instructionsMore, computesAll, callsMore⟩ := writesAll.added
      refine agree_pure ⟨writesAll.alongside, writes.differs.trans writesAll.differs,
        List.Subset.trans writes.taken writesAll.taken, by simp [writesAll.length], added ++ more,
        ?_, ?_, ?_⟩
      · rw [instructionsMore, instructions, List.append_assoc]
      · exact ComputesAll.cons computes computesAll writes.taken receiving writes.among
      · rw [List.filterMap_append, calls, callsMore, callsOfCodes]

/-- Writing a body out agrees with resolving it. -/
theorem emit_agrees (keyed : session.Keyed) (scopes : Scopes parameters registers scope)
    {node : Node} (spelled : node.Spelled) (evaluator : Evaluator) (emission : Emission)
    (alongside : Alongside bodied evaluator.current emission.generator.current)
    (receiving : registers ⊆ emission.names.taken) :
    Agree (Evaluator.compile session parameters node) (emit session scope node) evaluator emission
      (fun code after => Writes bodied registers emission code after.current)
      (fun after => Spoils bodied emission after.current) := by
  induction spelled generalizing evaluator emission with
  | number value location =>
    rw [Evaluator.compile, emit]
    refine agree_pure ⟨alongside, .refl _, List.Subset.refl _, trivial, [], by simp, ?_, rfl⟩
    exact computes_constant _ _ _
  | reference name location =>
    rw [Evaluator.compile, emit]
    have paired := scopes name
    cases found : Evaluator.position? name parameters with
    | none =>
      rw [found] at paired
      simp only [paired]
      exact agree_throw _ ⟨alongside, .refl _, List.Subset.refl _⟩
    | some position =>
      rw [found] at paired
      obtain ⟨register, held, finds⟩ := paired
      simp only [finds]
      have among : register ∈ emission.names.taken := receiving (List.mem_of_getElem? held)
      refine agree_pure ⟨alongside, .refl _, List.Subset.refl _, among, [], by simp, ?_, rfl⟩
      exact computes_parameter held
  | binary operator location _ _ inLeft inRight =>
    rw [Evaluator.compile, emit]
    apply (inLeft evaluator emission alongside receiving).bind
    intro leftCode middle leftOperand written writes
    have second := inRight middle written writes.alongside
      (List.Subset.trans receiving writes.taken)
    refine Agree.bind (second.imp (fun _ _ _ _ related => related) ?_) ?_
    · intro after spoilt spoils
      exact spoils.since writes.differs writes.taken
    · intro rightCode after rightOperand writtenBoth writesBoth
      cases Operation.ofOperator? operator with
      | none =>
        have spoils : Spoils bodied written after.current writtenBoth :=
          ⟨writesBoth.alongside, writesBoth.differs, writesBoth.taken⟩
        exact agree_throw _ (spoils.since writes.differs writes.taken)
      | some operation =>
        obtain ⟨operand, last, done, combined⟩ := writes.operation writesBoth receiving operation
        exact agree_right_last done combined
  | @call callee arguments location word _ each =>
    rw [Evaluator.compile, emit]
    have resolves := (generating_agrees (resolve_agrees keyed word alongside)).ensures
      (Evaluator.resolve_ensures keyed callee evaluator)
    refine Agree.bind (resolves.imp (fun _ _ _ _ related => related)
      fun after spoilt related => ⟨related.1.1, related.1.2, ?_⟩) ?_
    · rw [related.2]
      exact List.Subset.refl _
    rintro found middle foundToo written ⟨⟨⟨rfl, alongsideMiddle, differs⟩, same⟩, resolved⟩
    have names : written.names = emission.names := by rw [same]
    have instructions : written.instructions = emission.instructions := by rw [same]
    cases found with
    | none =>
      exact agree_throw _ ⟨alongsideMiddle, differs, by rw [names]; exact List.Subset.refl _⟩
    | some handle =>
      obtain ⟨grows, rfl, function, there⟩ := resolved
      obtain ⟨routine, thereToo, arity⟩ := alongsideMiddle.of_some (.inl word) there
      rw [Module.symbol_of_isWord _ word] at thereToo
      have arityToo : written.generator.arityOf ⟨emission.generator.current.number, callee⟩ =
          function.prototype.arity := by
        rw [← differs.number, arityOf, routine?_current, thereToo]
        exact arity
      apply agree_get
      rw [← grows.number, Evaluator.arityOf_current there]
      simp only [arityToo]
      by_cases fits : function.prototype.arity = arguments.length
      · rw [if_pos fits, if_pos fits]
        have others := emitAll_agrees arguments
          (fun node member evaluator emission => each node member evaluator emission) middle written
          alongsideMiddle (by rw [names]; exact receiving)
        refine Agree.bind (others.imp (fun _ _ _ _ related => related) ?_) ?_
        · intro after spoilt spoils
          exact spoils.since differs (by rw [names]; exact List.Subset.refl _)
        · intro codes after operands writtenAll writes
          obtain ⟨fresh, last, appended, called⟩ := writes.call differs names instructions callee
          exact agree_right appended (agree_pure called)
      · rw [if_neg fits, if_neg fits]
        exact agree_throw _ ⟨alongsideMiddle, differs, by rw [names]; exact List.Subset.refl _⟩

end Generator

end Reckon
