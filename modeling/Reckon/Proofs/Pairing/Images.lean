import Reckon.Proofs.Evaluator.Hindrances
import Reckon.Proofs.Pairing.Calling
import Reckon.Proofs.Pairing.Interface

/-!
# Bodies that are found and bodies that are bound

The evaluator finds the body of a word in the live unit that holds one, and there is one such
unit at most, whatever else it holds. In an image of units that deliver live units a call is
bound to the unit that delivers this one. So code that has a value in the evaluator has the
same value in the image; and everything that code in the image can reach is answered, since
the calls of a unit are when it is loaded.
-/

namespace Reckon

open Reckon.Action Instruction
open Evaluator (CodeUnit)

namespace Evaluator.CodeUnit

variable {unit : CodeUnit} {name : String} {arity : Nat}

/-- Code is found under a name exactly if a body is carried under it. -/
theorem code?_eq_some_iff {code : Code} :
    unit.code? name = some (arity, code) ↔ ∃ body, unit.Carries name arity body code := by
  unfold code? Carries
  cases found : unit.functions.get? name with
  | none => simp
  | some function =>
    obtain ⟨prototype, content⟩ := function
    cases content with
    | none => simp
    | some pair => simp [Prod.ext_iff, and_comm]

/-- A body that was written is found under a name exactly if it is carried under it. -/
theorem written?_eq_some_iff {body : Node} :
    unit.written? name = some (arity, body) ↔ ∃ code, unit.Carries name arity body code := by
  unfold written? Carries
  cases found : unit.functions.get? name with
  | none => simp
  | some function =>
    obtain ⟨prototype, content⟩ := function
    cases content with
    | none => simp
    | some pair => simp [Prod.ext_iff, and_comm]

end Evaluator.CodeUnit

namespace Conjoined

variable {evaluator : Evaluator} {generator : Generator} {unit other : CodeUnit}
  {name nameToo : String} {arity : Nat} {body : Node} {code : Code}

/-- A live unit is delivered by a pending one. -/
theorem delivers (conjoined : Conjoined evaluator generator) (live : unit ∈ evaluator.live) :
    ∃ compiled ∈ generator.linker.pending, Delivers unit compiled := by
  obtain ⟨module, _, twin, pending⟩ := conjoined.delivered unit live
  exact ⟨_, pending, twin.delivers _⟩

/-- What a live unit carries was read and resolved. -/
theorem resolved (conjoined : Conjoined evaluator generator) (live : unit ∈ evaluator.live)
    (carries : unit.Carries name arity body code) : Resolved name arity body code := by
  obtain ⟨_, _, delivers⟩ := conjoined.delivers live
  exact delivers.resolved name arity body code carries

/-- No two functions with live bodies have the same symbol. -/
theorem sole (conjoined : Conjoined evaluator generator) (live : unit ∈ evaluator.live)
    (liveToo : other ∈ evaluator.live) {arityToo : Nat} {bodyToo : Node} {codeToo : Code}
    (carries : unit.Carries name arity body code)
    (carriesToo : other.Carries nameToo arityToo bodyToo codeToo)
    (same : symbolIn unit.number name = symbolIn other.number nameToo) :
    unit = other ∧ name = nameToo := by
  obtain ⟨_, _, delivers⟩ := conjoined.delivers live
  obtain ⟨_, _, deliversToo⟩ := conjoined.delivers liveToo
  obtain ⟨rfl, apart⟩ := symbolIn_inj (conjoined.resolved live carries).nameable
    (conjoined.resolved liveToo carriesToo).nameable same
  have among := List.mem_cons_of_mem evaluator.current live
  have amongToo := List.mem_cons_of_mem evaluator.current liveToo
  refine ⟨conjoined.numbered.eq_of_number among amongToo ?_, rfl⟩
  rcases apart with word | numbers
  · obtain ⟨excused, booked⟩ := conjoined.booked
    have bears := (CodeUnit.mem_defined_iff_carries delivers.once name).mpr ⟨_, _, _, carries⟩
    have bearsToo := (CodeUnit.mem_defined_iff_carries deliversToo.once name).mpr
      ⟨_, _, _, carriesToo⟩
    exact booked.sole name word.ne_anonymousName _ _ ⟨unit, among, rfl, bears⟩
      ⟨other, amongToo, rfl, bearsToo⟩
  · exact numbers

/-- What a name finds is the body of a live unit. -/
theorem carries_of_definition? (found : evaluator.definition? name = some (arity, code)) :
    ∃ unit ∈ evaluator.live, ∃ body, unit.Carries name arity body code := by
  obtain ⟨unit, member, there⟩ := List.exists_of_findSome?_eq_some found
  obtain ⟨body, carries⟩ := CodeUnit.code?_eq_some_iff.mp there
  exact ⟨unit, List.mem_reverse.mp member, body, carries⟩

/-- What a name finds is defined by a live unit. -/
theorem mem_defined_of_definition? (conjoined : Conjoined evaluator generator)
    (found : evaluator.definition? name = some (arity, code)) :
    ∃ unit ∈ evaluator.live, name ∈ unit.defined := by
  obtain ⟨unit, live, body, carries⟩ := carries_of_definition? found
  obtain ⟨_, _, delivers⟩ := conjoined.delivers live
  exact ⟨unit, live, (CodeUnit.mem_defined_iff_carries delivers.once name).mpr ⟨_, _, _, carries⟩⟩

/-- A word finds the body that a live unit holds for it. -/
theorem definition?_of_carries (conjoined : Conjoined evaluator generator) (word : IsWord name)
    (live : unit ∈ evaluator.live) (carries : unit.Carries name arity body code) :
    evaluator.definition? name = some (arity, code) := by
  cases found : evaluator.definition? name with
  | none =>
    have missed := List.findSome?_eq_none_iff.mp found unit (List.mem_reverse.mpr live)
    rw [CodeUnit.code?_eq_some_iff.mpr ⟨body, carries⟩] at missed
    cases missed
  | some definition =>
    obtain ⟨arityToo, codeToo⟩ := definition
    obtain ⟨other, liveToo, bodyToo, carriesToo⟩ := carries_of_definition? found
    have symbols : symbolIn unit.number name = symbolIn other.number name := by
      rw [symbolIn_of_isWord _ word, symbolIn_of_isWord _ word]
    obtain ⟨rfl, _⟩ := conjoined.sole live liveToo carries carriesToo symbols
    have codes := CodeUnit.code?_eq_some_iff.mpr ⟨body, carries⟩
    rw [CodeUnit.code?_eq_some_iff.mpr ⟨bodyToo, carriesToo⟩] at codes
    exact codes

/-- The calls in live bodies are those of their code. -/
theorem callGraph_eq (conjoined : Conjoined evaluator generator) (name : String) :
    evaluator.callGraph name =
      (evaluator.definition? name).map fun found => (found.1, found.2.calls) := by
  have each : ∀ unit ∈ evaluator.live.reverse,
      (unit.written? name).map (fun found => (found.1, found.2.calls)) =
        (unit.code? name).map fun found => (found.1, found.2.calls) := by
    intro unit member
    cases found : unit.code? name with
    | none => rw [CodeUnit.written?_eq_none_iff.mpr found]; rfl
    | some definition =>
      obtain ⟨arity, code⟩ := definition
      obtain ⟨body, carries⟩ := CodeUnit.code?_eq_some_iff.mp found
      have calls := (conjoined.resolved (List.mem_reverse.mp member) carries).calls
      rw [CodeUnit.written?_eq_some_iff.mpr ⟨code, carries⟩]
      simp [calls]
  unfold Evaluator.callGraph Evaluator.written? Evaluator.definition?
  generalize evaluator.live.reverse = units at each
  induction units with
  | nil => rfl
  | cons unit rest inductionHypothesis =>
    obtain ⟨first, others⟩ := List.forall_mem_cons.mp each
    simp only [List.findSome?_cons]
    cases found : unit.code? name with
    | none =>
      rw [CodeUnit.written?_eq_none_iff.mpr found]
      exact inductionHypothesis others
    | some definition =>
      rw [found] at first
      cases written : unit.written? name with
      | none => simp [written] at first
      | some definition => simpa [written] using first

/-- A name has no calls in the graph exactly if nobody defines it. -/
theorem callGraph_eq_none_iff (conjoined : Conjoined evaluator generator) :
    evaluator.callGraph name = none ↔ evaluator.definition? name = none := by
  rw [conjoined.callGraph_eq, Option.map_eq_none_iff]

/-- What is reached by way of live bodies is reached by way of their code. -/
theorem makes_of_reaches (conjoined : Conjoined evaluator generator) {call : String × Nat}
    (reaches : evaluator.callGraph.Reaches code.calls call) :
    Evaluator.Makes evaluator code call := by
  generalize made : code.calls = calls at reaches
  induction reaches generalizing code with
  | here member => exact .here (made ▸ member)
  | through member live _ inductionHypothesis =>
    rw [conjoined.callGraph_eq] at live
    obtain ⟨⟨expected, inner⟩, found, same⟩ := Option.map_eq_some_iff.mp live
    cases same
    exact .through (made ▸ member) found (inductionHypothesis rfl)

/-- Live code reads no argument that its function does not have. -/
theorem readsArguments (conjoined : Conjoined evaluator generator) :
    evaluator.ReadsArguments := by
  intro name arity code found
  obtain ⟨unit, live, body, carries⟩ := carries_of_definition? found
  exact (conjoined.resolved live carries).reads

/-- Live code calls words alone. -/
theorem words (conjoined : Conjoined evaluator generator) (live : unit ∈ evaluator.live)
    (carries : unit.Carries name arity body code) : ∀ call ∈ code.calls, IsWord call.1 := by
  have resolved := conjoined.resolved live carries
  intro call member
  rw [resolved.calls] at member
  exact resolved.spelled.word_of_mem_calls member

end Conjoined

/-! ## Bound in an image -/

/-- The units of the image deliver live units, and their calls are bound or left to the host. -/
structure Presents (platform : Platform) (evaluator : Evaluator) (image : List Loaded) : Prop where
  delivers (position : Nat) (loaded : Loaded) (there : image[position]? = some loaded) :
    ∃ unit ∈ evaluator.live, Delivers unit loaded.unit
  answered (position : Nat) (loaded : Loaded) (there : image[position]? = some loaded)
    (name : String) (required : name ∈ loaded.unit.required) :
    (Linker.bound? image position name).isSome = true ∨ platform.provides name = true

/-- The unit at the position delivers a live body with this symbol. -/
def Placed (evaluator : Evaluator) (image : List Loaded) (position : Nat) (symbol : String)
    (arity : Nat) (code : Code) : Prop :=
  ∃ loaded unit name body, image[position]? = some loaded ∧ unit ∈ evaluator.live ∧
    Delivers unit loaded.unit ∧ unit.Carries name arity body code ∧
    symbolIn unit.number name = symbol

/-- No live unit defines what the host provides. -/
def Foreign (platform : Platform) (evaluator : Evaluator) : Prop :=
  ∀ unit ∈ evaluator.live, ∀ name ∈ unit.defined, platform.provides name = false

/-- Then the host provides nothing that code can reach and that has a live definition. -/
theorem Foreign.apart {platform : Platform} {evaluator : Evaluator} {generator : Generator}
    (foreign : Foreign platform evaluator) (conjoined : Conjoined evaluator generator)
    (code : Code) : Linker.Apart platform evaluator code := by
  intro call _ live
  obtain ⟨definition, found⟩ := Option.ne_none_iff_exists'.mp live
  obtain ⟨unit, member, defined⟩ := conjoined.mem_defined_of_definition? found
  exact foreign unit member _ defined

namespace Presents

variable {platform : Platform} {evaluator : Evaluator} {generator : Generator}
  {image : List Loaded} {position : Nat} {symbol name : String} {arity : Nat} {code : Code}

/-- What a unit of the image defines is a live body. -/
theorem placed_of_definesAt (presents : Presents platform evaluator image)
    (defines : Linker.DefinesAt image position symbol) :
    ∃ arity code, Placed evaluator image position symbol arity code := by
  obtain ⟨loaded, there, defined⟩ := defines
  obtain ⟨unit, live, delivers⟩ := presents.delivers position loaded there
  obtain ⟨name, arity, body, code, carries, own⟩ := (delivers.defined symbol).mp defined
  exact ⟨arity, code, loaded, unit, name, body, there, live, delivers, carries, own⟩

/-- The body of a word in the image is the one that the evaluator finds. -/
theorem definition?_of_placed (conjoined : Conjoined evaluator generator) (word : IsWord name)
    (placed : Placed evaluator image position name arity code) :
    evaluator.definition? name = some (arity, code) := by
  obtain ⟨_, unit, other, body, _, live, _, carries, own⟩ := placed
  rw [← symbolIn_of_isWord unit.number word] at own
  obtain ⟨rfl, _⟩ := symbolIn_inj (conjoined.resolved live carries).nameable (.inl word) own
  exact conjoined.definition?_of_carries word live carries

/-- The calls of code in the image are of words. -/
theorem words (conjoined : Conjoined evaluator generator)
    (placed : Placed evaluator image position symbol arity code) :
    ∀ call ∈ code.calls, IsWord call.1 := by
  obtain ⟨_, unit, _, _, _, live, _, carries, _⟩ := placed
  exact conjoined.words live carries

/-- Calls in the image are bound to the bodies that the evaluator finds. -/
theorem binds (presents : Presents platform evaluator image)
    (conjoined : Conjoined evaluator generator) :
    Linker.Binds platform image evaluator (Placed evaluator image) := by
  constructor
  case rendered =>
    rintro position symbol arity code ⟨loaded, unit, name, body, there, _, delivers, carries, rfl⟩
    obtain ⟨routine, block, found, held, renders⟩ := delivers.rendered _ _ _ _ carries
    exact ⟨routine, block, by rw [there]; exact found, held, renders⟩
  case answered =>
    rintro position symbol arity code ⟨loaded, unit, other, body, there, _, delivers, carries, _⟩
      name given member
    by_cases defined : name ∈ loaded.unit.defined
    · exact .inl (Option.isSome_iff_exists.mp
        (Linker.bound?_isSome there there defined (.inl (Nat.le_refl _))))
    · have required := (delivers.required name).mpr
        ⟨defined, other, arity, body, code, given, carries, member⟩
      exact (presents.answered position loaded there name required).imp_left
        Option.isSome_iff_exists.mp
  case found =>
    intro position symbol arity code placed name given member target bound
    obtain ⟨expected, inner, placedToo⟩ :=
      presents.placed_of_definesAt (Linker.definesAt_of_bound? bound)
    exact ⟨expected, inner, placedToo,
      definition?_of_placed conjoined (words conjoined placed _ member) placedToo⟩

end Presents

end Reckon
