import Reckon.Proofs.Backend.Headers
import Reckon.Proofs.Generator.Blocks
import Reckon.Proofs.Generator.Stock
import Reckon.Proofs.Instruction.WellFormed
import Reckon.Proofs.Pairing.Definition

/-!
# What the generator writes denotes the body

While a body is written out the instructions stay in order, and their calls fit functions that the
open module declares. What is written for a part of the body computes code that denotes the part.
A block that is completed is well-formed, and is kept with the routine of the handle, in whichever
module that is.
-/

namespace Reckon

open Reckon.Action Instruction

/-- The module declares a function with the symbol and the number of parameters. -/
def Module.Declares (module : Module) (symbol : String) (count : Nat) : Prop :=
  ∃ routine, module.routines.get? symbol = some routine ∧ routine.arity = count

/-- What is declared stays declared. -/
theorem Module.Declares.longer {module after : Module} {symbol : String} {count : Nat}
    (declares : module.Declares symbol count)
    (routines : module.routines.entries <+: after.routines.entries) :
    after.Declares symbol count := by
  obtain ⟨routine, found, arity⟩ := declares
  exact ⟨routine, Catalog.get?_of_prefix routines found, arity⟩

/-- Symbols depend on the number of a module only. -/
theorem Module.symbol_congr {module other : Module} (same : module.number = other.number) :
    module.symbol = other.symbol := by
  funext name
  rw [Module.symbol, Module.symbol, same]

namespace Generator

variable {session : Session} {parameters registers : List String}
  {before middle after : Emission}

/-- The block that is being written is in order, its names are in use, and its calls fit. -/
structure Emission.Sound (registers : List String) (emission : Emission) : Prop where
  ordered : InOrder registers emission.instructions
  used : registers ++ emission.instructions.map result ⊆ emission.names.taken
  fits {result callee : String} {arguments : List Operand}
    (member : .call result callee arguments ∈ emission.instructions) :
    emission.generator.current.Declares callee arguments.length

/-- More is written, more names are in use, and more functions are declared. -/
structure Emission.Extends (before after : Emission) : Prop where
  number : after.generator.current.number = before.generator.current.number
  routines : before.generator.routines <+: after.generator.routines
  taken : before.names.taken ⊆ after.names.taken
  written : before.instructions <+: after.instructions

namespace Emission.Extends

/-- A block that is left alone extends itself. -/
theorem refl (emission : Emission) : Extends emission emission :=
  ⟨rfl, List.prefix_rfl, List.Subset.refl _, List.prefix_rfl⟩

/-- What was written in two rounds was written. -/
theorem trans (start : Extends before middle) (rest : Extends middle after) :
    Extends before after :=
  ⟨rest.number.trans start.number, start.routines.trans rest.routines,
    List.Subset.trans start.taken rest.taken, start.written.trans rest.written⟩

/-- Writing on changes no symbol of the open module. -/
theorem symbol (longer : Extends before after) :
    after.generator.current.symbol = before.generator.current.symbol :=
  Module.symbol_congr longer.number

end Emission.Extends

/-- The instruction was appended, and wrote a new register. -/
structure Appends (registers : List String) (before : Emission) (instruction : Instruction)
    (after : Emission) : Prop where
  longer : before.Extends after
  sound : after.Sound registers
  absent : instruction.result ∉ before.names.taken
  written : after.instructions = before.instructions ++ [instruction]

/-- An instruction that was appended is among the instructions. -/
theorem Appends.member {instruction : Instruction}
    (appends : Appends registers before instruction after) : instruction ∈ after.instructions := by
  rw [appends.written]
  exact List.mem_append_right _ List.mem_cons_self

/-- The result of the instruction is there if it is a double. -/
theorem Appends.available {instruction : Instruction}
    (appends : Appends registers before instruction after)
    (double : instruction.givesBit = false) :
    (Operand.register instruction.result).Available registers after.instructions :=
  .inr ⟨instruction, appends.member, rfl, double⟩

/-- An instruction that is ready may be appended if it fits. -/
theorem append_appends (sound : before.Sound registers) (wanted : String)
    (instruction : String → Instruction) (own : ∀ name, (instruction name).result = name)
    (ready : ∀ name, (instruction name).Ready registers before.instructions)
    (fits : ∀ name result callee arguments, instruction name = .call result callee arguments →
      before.generator.current.Declares callee arguments.length)
    {fresh : String} (done : append wanted instruction before = .ok fresh after) :
    Appends registers before (instruction fresh) after := by
  obtain ⟨name, names, appended, absent, taken⟩ := append_ok wanted instruction before
  rw [appended] at done
  cases done
  refine ⟨⟨rfl, List.prefix_rfl, ?_, List.prefix_append _ _⟩, ⟨?_, ?_, ?_⟩, ?_, rfl⟩
  · rw [taken]
    exact List.subset_cons_self ..
  · apply sound.ordered.snoc (ready fresh)
    rw [own]
    exact fun member => absent (sound.used member)
  · dsimp only
    rw [taken, List.map_append, ← List.append_assoc]
    refine List.append_subset.mpr ⟨List.subset_cons_of_subset _ sound.used, ?_⟩
    simp [own]
  · intro result callee arguments member
    rcases List.mem_append.mp member with earlier | itself
    · exact sound.fits earlier
    · exact fits fresh _ _ _ (List.mem_singleton.mp itself).symm
  · rw [own]
    exact absent

/-- The instructions of an operation on operands that are there keep the block in order. -/
theorem emitOperation_sound (sound : before.Sound registers) {operation : Operation}
    {left right operand : Operand} (there : left.Available registers before.instructions)
    (thereToo : right.Available registers before.instructions)
    (done : emitOperation operation left right before = .ok operand after) :
    before.Extends after ∧ after.Sound registers ∧
      operand.Available registers after.instructions := by
  cases operation with
  | arithmetic kind =>
    obtain ⟨fresh, last, appended, done⟩ := bind_eq_ok_iff.mp done
    cases done
    have appends := append_appends sound (resultName kind) (.arithmetic · kind left right)
      (fun _ => rfl) (fun _ => ⟨there, thereToo⟩) (fun _ _ _ _ => nofun) appended
    exact ⟨appends.longer, appends.sound, appends.available rfl⟩
  | below =>
    obtain ⟨bit, middle, appended, done⟩ := bind_eq_ok_iff.mp done
    obtain ⟨fresh, last, appendedToo, done⟩ := bind_eq_ok_iff.mp done
    cases done
    have compares := append_appends sound "cmptmp" (.compare · left right) (fun _ => rfl)
      (fun _ => ⟨there, thereToo⟩) (fun _ _ _ _ => nofun) appended
    have widens := append_appends compares.sound "booltmp" (.widen · bit) (fun _ => rfl)
      (fun _ => ⟨_, compares.member, rfl, rfl⟩) (fun _ _ _ _ => nofun) appendedToo
    exact ⟨compares.longer.trans widens.longer, widens.sound, widens.available rfl⟩

/-! ## Functions -/

/-- What a part of the generator does while a block is written leaves the block alone. -/
theorem generating_ok {α : Type} {action : Action Generator α} {value : α}
    (done : generating action before = .ok value after) :
    ∃ generator, action before.generator = .ok value generator ∧
      after = { before with generator } := by
  unfold generating at done
  cases ended : action before.generator with
  | ok other generator =>
    rw [ended] at done
    cases done
    exact ⟨generator, rfl, rfl⟩
  | error fault generator =>
    rw [ended] at done
    cases done

/-- A function that was found stands in the open module under the symbol of its name. -/
theorem resolve_finds (keyed : session.Keyed) {name : String} {generator last : Generator}
    {handle : Handle} (done : resolve session name generator = .ok (some handle) last) :
    handle = ⟨generator.current.number, generator.current.symbol name⟩ ∧
      last.current.number = generator.current.number ∧ generator.routines <+: last.routines ∧
      ∃ routine, last.current.routines.get? (generator.current.symbol name) = some routine := by
  rw [resolve, get_bind, lookup_eq] at done
  cases there : generator.current.routines.get? (generator.current.symbol name) with
  | some routine =>
    rw [there] at done
    cases done
    exact ⟨rfl, rfl, List.prefix_rfl, routine, there⟩
  | none =>
    rw [there] at done
    cases recorded : session.find? name with
    | none =>
      rw [recorded] at done
      cases done
    | some prototype =>
      rw [recorded] at done
      obtain ⟨found, _, declared, done⟩ := bind_eq_ok_iff.mp done
      cases done
      have finds := declare_handle session prototype generator
      change declare session prototype generator = _ at declared
      rw [Ensures, declared, keyed name prototype recorded] at finds
      obtain ⟨handle, number, there⟩ := finds
      exact ⟨handle, number, (declare_lengthens session prototype).of_ok declared, there⟩

/-! ## Bodies -/

/-- What writing a body out has done. -/
structure Emits (parameters registers : List String) (before : Emission) (node : Node)
    (operand : Operand) (after : Emission) : Prop where
  longer : before.Extends after
  sound : after.Sound registers
  available : operand.Available registers after.instructions
  added : ∃ added code, after.instructions = before.instructions ++ added ∧
    Computes before.names.taken registers added code operand ∧
    Denotes before.generator.current.symbol parameters node code

/-- The same for several bodies. -/
structure EmitsAll (parameters registers : List String) (before : Emission) (nodes : List Node)
    (operands : List Operand) (after : Emission) : Prop where
  longer : before.Extends after
  sound : after.Sound registers
  available : ∀ operand ∈ operands, operand.Available registers after.instructions
  length : operands.length = nodes.length
  added : ∃ added codes, after.instructions = before.instructions ++ added ∧
    ComputesAll before.names.taken registers added codes operands ∧
    DenotesAll before.generator.current.symbol parameters nodes codes

/-- The registers of the parameters are in use from the beginning. -/
theorem Emission.Sound.receiving (sound : before.Sound registers) :
    registers ⊆ before.names.taken :=
  List.Subset.trans (List.subset_append_left ..) sound.used

/-- A body that is a constant or a parameter needs no instruction. -/
theorem Emission.Sound.emits (sound : before.Sound registers) {node : Node} {operand : Operand}
    {code : Code} (available : operand.Available registers before.instructions)
    (computes : Computes before.names.taken registers [] code operand)
    (denotes : Denotes before.generator.current.symbol parameters node code) :
    Emits parameters registers before node operand before :=
  ⟨.refl before, sound, available, [], code, (List.append_nil _).symm, computes, denotes⟩

/-- Operands that were written out one after the other are combined. -/
theorem Emits.operation {last : Emission} {left right : Node}
    {leftOperand rightOperand operand : Operand} (sound : before.Sound registers)
    (first : Emits parameters registers before left leftOperand middle)
    (second : Emits parameters registers middle right rightOperand after)
    {operator : String} {operation : Operation}
    (means : Operation.ofOperator? operator = some operation)
    (done : emitOperation operation leftOperand rightOperand after = .ok operand last)
    (location : Option Location) :
    Emits parameters registers before (.binary operator left right location) operand last := by
  obtain ⟨front, leftCode, written, computes, denotes⟩ := first.added
  obtain ⟨back, rightCode, writtenToo, computesToo, denotesToo⟩ := second.added
  rw [first.longer.symbol] at denotesToo
  have both := first.longer.trans second.longer
  obtain ⟨same, final, added, ended, _, _, _, instructions, computesBoth, _⟩ :=
    emitOperation_ok computes computesToo first.longer.taken sound.receiving
      (first.available.among first.sound.used) after both.taken operation
  rw [ended] at done
  cases done
  obtain ⟨longer, soundLast, available⟩ := emitOperation_sound second.sound
    (first.available.mono second.longer.written.subset) second.available ended
  refine ⟨both.trans longer, soundLast, available, front ++ back ++ added, _, ?_, computesBoth,
    denotes.binary denotesToo means location⟩
  rw [instructions, writtenToo, written, List.append_assoc, List.append_assoc, List.append_assoc]

/-- If each body is written out as promised, so is a row of bodies. -/
theorem emitAll_emits {scope : List (String × String)} {nodes : List Node}
    (each : ∀ node ∈ nodes, ∀ {before after : Emission} {operand : Operand},
      before.Sound registers → emit session scope node before = .ok operand after →
      Emits parameters registers before node operand after) {operands : List Operand}
    (sound : before.Sound registers)
    (done : emitAll session scope nodes before = .ok operands after) :
    EmitsAll parameters registers before nodes operands after := by
  induction nodes generalizing before operands with
  | nil =>
    rw [emitAll] at done
    cases done
    exact ⟨.refl _, sound, List.forall_mem_nil _, rfl, [], [], (List.append_nil _).symm,
      computesAll_nil _ _, denotesAll_nil⟩
  | cons node rest inductionHypothesis =>
    obtain ⟨itself, others⟩ := List.forall_mem_cons.mp each
    rw [emitAll] at done
    obtain ⟨operand, middle, emitted, done⟩ := bind_eq_ok_iff.mp done
    obtain ⟨more, last, emittedMore, done⟩ := bind_eq_ok_iff.mp done
    cases done
    have first := itself sound emitted
    have second := inductionHypothesis others first.sound emittedMore
    obtain ⟨front, code, written, computes, denotes⟩ := first.added
    obtain ⟨back, codes, writtenMore, computesMore, denotesMore⟩ := second.added
    rw [first.longer.symbol] at denotesMore
    refine ⟨first.longer.trans second.longer, second.sound, ?_, ?_, front ++ back, code :: codes,
      ?_, ?_, denotesMore.cons denotes⟩
    · exact List.forall_mem_cons.mpr
        ⟨first.available.mono second.longer.written.subset, second.available⟩
    · rw [List.length_cons, List.length_cons, second.length]
    · rw [writtenMore, written, List.append_assoc]
    · exact ComputesAll.cons computes computesMore first.longer.taken sound.receiving
        (first.available.among first.sound.used)

/-- Arguments that were written out are passed to a function that the open module declares. -/
theorem EmitsAll.call {last : Emission} {nodes : List Node} {operands : List Operand}
    {callee fresh : String} (longer : before.Extends middle)
    (names : middle.names = before.names) (instructions : middle.instructions = before.instructions)
    (all : EmitsAll parameters registers middle nodes operands after)
    (declares : middle.generator.current.Declares (before.generator.current.symbol callee)
      nodes.length)
    (done : append "calltmp" (fun name => .call name (before.generator.current.symbol callee)
      operands) after = .ok fresh last) (location : Option Location) :
    Emits parameters registers before (.call callee nodes location) (.register fresh) last := by
  obtain ⟨added, codes, written, computes, denotes⟩ := all.added
  have fits : after.generator.current.Declares (before.generator.current.symbol callee)
      operands.length := all.length ▸ declares.longer all.longer.routines
  have appends := append_appends all.sound "calltmp"
    (.call · (before.generator.current.symbol callee) operands) (fun _ => rfl)
    (fun _ => all.available) (fun _ _ _ _ same => by cases same; exact fits) done
  have whole := longer.trans all.longer
  rw [longer.symbol] at denotes
  rw [names] at computes
  refine ⟨whole.trans appends.longer, appends.sound, appends.available rfl,
    added ++ [.call fresh (before.generator.current.symbol callee) operands], _, ?_,
    computes.call (fun member => appends.absent (whole.taken member)) _,
    denotes.call callee location⟩
  rw [appends.written, written, instructions, List.append_assoc]

/-- What is written for a body keeps the block in order, and computes code that denotes the body. -/
theorem emit_emits (keyed : session.Keyed) {scope : List (String × String)}
    (scopes : Scopes parameters registers scope) (node : Node) {operand : Operand}
    (sound : before.Sound registers) (done : emit session scope node before = .ok operand after) :
    Emits parameters registers before node operand after := by
  induction node using Node.byParts generalizing before after operand with
  | number value location =>
    rw [emit] at done
    cases done
    exact sound.emits trivial (computes_constant _ _ _) (denotes_number value location)
  | reference name location =>
    rw [emit] at done
    have paired := scopes name
    cases found : Evaluator.position? name parameters with
    | none =>
      rw [found] at paired
      rw [paired] at done
      cases done
    | some position =>
      rw [found] at paired
      obtain ⟨register, held, finds⟩ := paired
      rw [finds] at done
      cases done
      exact sound.emits (.inl (List.mem_of_getElem? held)) (computes_parameter held)
        (denotes_reference found location)
  | binary operator left right location inLeft inRight =>
    rw [emit] at done
    obtain ⟨leftOperand, middle, emitted, done⟩ := bind_eq_ok_iff.mp done
    obtain ⟨rightOperand, both, emittedToo, done⟩ := bind_eq_ok_iff.mp done
    have first := inLeft sound emitted
    have second := inRight first.sound emittedToo
    cases means : Operation.ofOperator? operator with
    | none =>
      rw [means] at done
      cases done
    | some operation =>
      rw [means] at done
      exact first.operation sound second means done location
  | call callee arguments location each =>
    rw [emit] at done
    obtain ⟨found, middle, generated, done⟩ := bind_eq_ok_iff.mp done
    obtain ⟨generator, resolved, rfl⟩ := generating_ok generated
    cases found with
    | none => cases done
    | some handle =>
      obtain ⟨rfl, number, routines, routine, there⟩ := resolve_finds keyed resolved
      -- Finding the function has declared it at most: nothing is written yet.
      let middle : Emission := { before with generator }
      have longer : before.Extends middle :=
        ⟨number, routines, List.Subset.refl _, List.prefix_rfl⟩
      obtain ⟨emission, _, asked, done⟩ := bind_eq_ok_iff.mp done
      cases asked
      dsimp only at done
      rw [← number, arityOf_current there] at done
      split at done
      · rename_i arity
        obtain ⟨operands, all, emitted, done⟩ := bind_eq_ok_iff.mp done
        obtain ⟨fresh, last, appended, done⟩ := bind_eq_ok_iff.mp done
        cases done
        have soundMiddle : middle.Sound registers :=
          ⟨sound.ordered, sound.used, fun member => (sound.fits member).longer routines⟩
        have writes := emitAll_emits (fun node member => each node member) soundMiddle emitted
        exact writes.call longer rfl rfl ⟨routine, there, arity⟩ appended location
      · cases done
  | prototype header =>
    rw [emit] at done
    cases done
  | definition header body location =>
    rw [emit] at done
    cases done

/-! ## Definitions -/

/-- No module is lost while a body is written out. -/
theorem emit_keeps_module (session : Session) (number : Nat) (scope : List (String × String))
    (node : Node) :
    Keeps (Behind fun generator => (generator.module? number).isSome)
      (emit session scope node) := by
  refine emit_keeps (fun prototype => declare_keeps fun generator there _ => ?_) scope node
  simp only [module?, List.find?_isSome] at there ⊢
  obtain ⟨module, member, own⟩ := there
  rcases List.mem_cons.mp member with rfl | closed
  · exact ⟨_, List.mem_cons_self, own⟩
  · exact ⟨module, List.mem_cons_of_mem _ closed, own⟩

/-- The routine of a handle is replaced wherever its module is. -/
theorem routine?_withRoutine {generator : Generator} {handle : Handle} {routine : Routine}
    (there : (generator.module? handle.unit).isSome = true)
    (own : routine.symbol = handle.symbol) :
    (generator.withRoutine handle.unit routine).routine? handle = some routine := by
  have changed : (generator.withRoutine handle.unit routine).module? handle.unit =
      (generator.module? handle.unit).map (·.withRoutine routine) := by
    have all := find?_map_if (fun module : Module => (rfl :
      (module.withRoutine routine).number = module.number)) handle.unit
      (generator.current :: generator.closed)
    rw [module?, module?, ← all]
    rfl
  obtain ⟨module, found⟩ := Option.isSome_iff_exists.mp there
  rw [routine?, changed, found, Option.map_some, Option.bind_eq_bind, Option.bind_some,
    Module.withRoutine, ← own]
  exact Catalog.get?_put_self ..

/-- What the module declares it declares still when a routine of the same arity takes the place of
another. -/
theorem declares_withRoutine {generator : Generator} {number : Nat} {routine other : Routine}
    {symbol : String} {count : Nat} (declares : generator.current.Declares symbol count)
    (replaces : generator.current.number = number → symbol = other.symbol →
      generator.current.routines.get? symbol = some routine)
    (arity : other.arity = routine.arity) :
    (generator.withRoutine number other).current.Declares symbol count := by
  obtain ⟨found, there, declared⟩ := declares
  by_cases current : generator.current.number = number
  · have changed : (generator.withRoutine number other).current =
        generator.current.withRoutine other := if_pos current
    rw [changed, Module.Declares, Module.withRoutine]
    simp only [Catalog.get?_put]
    by_cases same : symbol = other.symbol
    -- A body that calls its own function declares it by the very routine that is replaced.
    · rw [replaces current same] at there
      cases there
      exact ⟨other, if_pos same.symm, arity.trans declared⟩
    · exact ⟨found, (if_neg (Ne.symm same)).trans there, declared⟩
  · have changed : (generator.withRoutine number other).current = generator.current :=
      if_neg current
    exact ⟨found, changed ▸ there, declared⟩

/-- A block may be begun in a routine that is sound. -/
theorem sound_start {routine : Routine} (sound : routine.Sound)
    (generator : Generator) : Emission.Sound routine.parameters
      { generator, names := (routine.names.take "entry").2, instructions := [] } := by
  refine ⟨.nil, ?_, nofun⟩
  rw [Names.taken_take, List.map_nil, List.append_nil]
  exact List.subset_cons_of_subset _ sound.used

/-- **The block of a body is well-formed, and running it is running code that denotes the body.** -/
theorem defineBody_denotes (keyed : session.Keyed) {before after : Generator}
    (sound : EveryModule Module.Sound before) {handle : Handle} {routine : Routine}
    (found : before.routine? handle = some routine) (fits : parameters.length = routine.arity)
    {body : Node} (done : defineBody session handle body parameters before = .ok () after) :
    ∃ names block code,
      after.routine? handle = some { routine with names, block := some block } ∧
      block.WellFormed after.current.Declares routine.parameters ∧
      Denotes before.current.symbol parameters body code ∧
      ∀ (m : Type → Type) [Monad m] [LawfulMonad m] (platform : Platform)
        (call : String → List Float → m Float) (arguments : List Float) (argument : Nat → m Float),
        arguments.length = routine.arity → Supplies arguments argument →
        block.run platform call (routine.parameters.zip (arguments.map .double)) =
          code.run platform argument call := by
  obtain ⟨module, goodModule, there⟩ := sound.of_routine? found
  obtain ⟨own, soundRoutine⟩ := goodModule.of_get? there
  rw [defineBody, get_bind] at done
  obtain ⟨_, _, accepted, rest⟩ := bind_eq_ok_iff.mp done
  rw [check_ok accepted, found] at rest
  let start : Emission :=
    { generator := before, names := (routine.names.take "entry").2, instructions := [] }
  have soundStart : start.Sound routine.parameters := sound_start soundRoutine before
  dsimp only at rest
  cases written : emit session (parameters.zip routine.parameters) body start with
  | error fault emission =>
    rw [written] at rest
    cases rest
  | ok operand emission =>
    rw [written] at rest
    cases rest
    have emits := emit_emits keyed (scopes_zip fits) body soundStart written
    obtain ⟨added, code, instructions, computes, denotes⟩ := emits.added
    have among : (emission.generator.module? handle.unit).isSome = true := by
      refine (emit_keeps_module session handle.unit _ body).of_ok written ?_
      obtain ⟨module, here, _⟩ := Option.bind_eq_some_iff.mp found
      exact Option.isSome_iff_exists.mpr ⟨module, here⟩
    let block : Block :=
      { label := (routine.names.take "entry").1
        instructions := emission.instructions
        returned := some operand }
    let complete : Routine := { routine with names := emission.names, block := some block }
    have replaces (symbol : String) (current : emission.generator.current.number = handle.unit)
        (itself : symbol = complete.symbol) :
        emission.generator.current.routines.get? symbol = some routine := by
      have ownToo : complete.symbol = handle.symbol := own
      apply Catalog.get?_of_prefix emits.longer.routines
      rw [itself, ownToo, ← routine?_current, ← emits.longer.number, current]
      exact found
    refine ⟨emission.names, block, code, routine?_withRoutine among own, ?_, denotes, ?_⟩
    · exact emits.sound.ordered.wellFormed soundRoutine.distinct
        (fun member => declares_withRoutine (emits.sound.fits member) (replaces _) rfl)
        emits.available routine.names
    · intro m _ _ platform call arguments argument given supplies
      have whole : block.instructions = added := instructions
      rw [← whole] at computes
      exact computes.run_block rfl platform call
        (receives_zip soundRoutine.distinct given.symm supplies)

end Generator

end Reckon
