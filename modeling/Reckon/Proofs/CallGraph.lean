import Mathlib.Logic.Relation
import Reckon.Proofs.Calls

/-!
# Call graphs

A call graph gives the arity and the calls of every live definition. Evaluation follows
it: there are no choices, so all the calls of a body are made in their order, each
followed by those in the body of its definition before the next is made. How deep calls
may nest is bounded.

Something stands in the way of a call if it nests too deep, or if its name has no live
definition and is no function of the host. In the order of evaluation nothing stands in
the way exactly if every name that can be reached is answered and no chain of calls is
longer than the bound.
-/

namespace Reckon

/-- The arity of a live definition and the calls in its body, by name. -/
abbrev CallGraph := String → Option (Nat × List (String × Nat))

/-- What can stand in the way of a call that has the right number of arguments. -/
inductive Hindrance where
  | unresolved (name : String)
  | nesting
  deriving DecidableEq, Repr

namespace CallGraph

variable {graph : CallGraph} {calls : List (String × Nat)}

/-- The calls that are reached from some calls by way of definitions. -/
inductive Reaches (graph : CallGraph) : List (String × Nat) → String × Nat → Prop
  | here {calls : List (String × Nat)} {call : String × Nat} (member : call ∈ calls) :
      Reaches graph calls call
  | through {calls inner : List (String × Nat)} {name : String} {given arity : Nat}
      {call : String × Nat} (member : (name, given) ∈ calls)
      (live : graph name = some (arity, inner)) (reaches : Reaches graph inner call) :
      Reaches graph calls call

/-- The body of a definition calls a name. -/
def Calls (graph : CallGraph) (caller callee : String) : Prop :=
  ∃ arity calls given, graph caller = some (arity, calls) ∧ (callee, given) ∈ calls

/-- There is a chain of so many calls, each in the body of the definition that the one before it
calls. -/
inductive Nests (graph : CallGraph) : List (String × Nat) → Nat → Prop
  | single {calls : List (String × Nat)} {call : String × Nat} (member : call ∈ calls) :
      Nests graph calls 1
  | inside {calls inner : List (String × Nat)} {name : String} {given arity depth : Nat}
      (member : (name, given) ∈ calls) (live : graph name = some (arity, inner))
      (nests : Nests graph inner depth) : Nests graph calls (depth + 1)

/-- The names of calls in the order in which evaluation comes to them, each with the number of
levels that are left for it. What has no level left is not entered. -/
def order (graph : CallGraph) : Nat → List (String × Nat) → List (Nat × String)
  | 0, calls => calls.map fun call => (0, call.1)
  | levels + 1, calls => calls.flatMap fun call => (levels + 1, call.1) ::
      match graph call.1 with
      | some (_, inner) => order graph levels inner
      | none => []

/-- What stands in the way of a call. -/
def hindrance? (graph : CallGraph) (provides : String → Bool) (entry : Nat × String) :
    Option Hindrance :=
  if entry.1 = 0 then some .nesting
  else if graph entry.2 = none ∧ provides entry.2 = false then some (.unresolved entry.2)
  else none

/-- What evaluation meets first of all that stands in its way. -/
def first? (graph : CallGraph) (provides : String → Bool) (levels : Nat)
    (calls : List (String × Nat)) : Option Hindrance :=
  (graph.order levels calls).findSome? (graph.hindrance? provides)

/-- Of two rows of calls, the first decides if evaluation meets anything in it. -/
theorem first?_append (provides : String → Bool) (levels : Nat)
    (front back : List (String × Nat)) :
    graph.first? provides levels (front ++ back) =
      (graph.first? provides levels front).or (graph.first? provides levels back) := by
  cases levels <;> simp [first?, order, List.findSome?_append]

/-- Where nothing is called, nothing stands in the way. -/
theorem first?_nil (provides : String → Bool) (levels : Nat) :
    graph.first? provides levels [] = none := by
  cases levels <;> rfl

/-- Behind a call come the calls of its definition. -/
theorem first?_live (provides : String → Bool) {levels arity : Nat} {call : String × Nat}
    {inner : List (String × Nat)} (live : graph call.1 = some (arity, inner)) :
    graph.first? provides (levels + 1) [call] = graph.first? provides levels inner := by
  simp [first?, order, hindrance?, live]

/-- A call that no definition answers is stopped exactly if the host does not answer it either. -/
theorem first?_dead (provides : String → Bool) {levels : Nat} {call : String × Nat}
    (dead : graph call.1 = none) :
    graph.first? provides (levels + 1) [call] =
      if provides call.1 = true then none else some (.unresolved call.1) := by
  by_cases provided : provides call.1 = true <;>
    simp [first?, order, hindrance?, dead, provided]

/-! ## What is reached -/

/-- A call with a level left is come to, and what is inside its definition as well. -/
theorem mem_order_of_mem {levels : Nat} {call : String × Nat} (member : call ∈ calls) :
    (levels, call.1) ∈ graph.order levels calls := by
  cases levels with
  | zero => exact List.mem_map.mpr ⟨call, member, rfl⟩
  | succ levels => exact List.mem_flatMap.mpr ⟨call, member, List.mem_cons_self⟩

/-- What evaluation comes to inside a definition it comes to wherever the definition is called, one
level higher. -/
theorem mem_order_inside {levels given arity : Nat} {name : String} {inner : List (String × Nat)}
    {entry : Nat × String} (member : (name, given) ∈ calls)
    (live : graph name = some (arity, inner)) (there : entry ∈ graph.order levels inner) :
    entry ∈ graph.order (levels + 1) calls := by
  refine List.mem_flatMap.mpr ⟨(name, given), member, List.mem_cons_of_mem _ ?_⟩
  simpa only [live] using there

/-- If nothing stands in the way, chains of calls are within the bound. -/
theorem Nests.le_of_clear {provides : String → Bool} {levels depth : Nat}
    (nests : graph.Nests calls depth)
    (clear : ∀ entry ∈ graph.order levels calls, graph.hindrance? provides entry = none) :
    depth ≤ levels := by
  induction nests generalizing levels with
  | single member =>
    cases levels with
    | zero =>
      have hindered := clear _ (mem_order_of_mem member)
      cases hindered
    | succ levels => omega
  | inside member live _ inductionHypothesis =>
    cases levels with
    | zero =>
      have hindered := clear _ (mem_order_of_mem member)
      cases hindered
    | succ levels =>
      have below : _ ≤ levels := inductionHypothesis fun entry there =>
        clear entry (mem_order_inside member live there)
      omega

/-- What holds of some calls, and goes from a call to those in its definition, holds of all that is
reached. -/
theorem Reaches.all {holds : String × Nat → Prop} {call : String × Nat}
    (reaches : graph.Reaches calls call) (own : ∀ call ∈ calls, holds call)
    (inside : ∀ call arity inner, holds call → graph call.1 = some (arity, inner) →
      ∀ deeper ∈ inner, holds deeper) : holds call := by
  induction reaches with
  | here member => exact own _ member
  | through member live _ inductionHypothesis =>
    exact inductionHypothesis (inside _ _ _ (own _ member) live)

/-- If nothing stands in the way, every name that is reached is answered. -/
theorem Reaches.provided_of_clear {provides : String → Bool} {levels : Nat} {call : String × Nat}
    (reaches : graph.Reaches calls call)
    (clear : ∀ entry ∈ graph.order levels calls, graph.hindrance? provides entry = none)
    (dead : graph call.1 = none) : provides call.1 = true := by
  induction reaches generalizing levels with
  | @here calls call member =>
    have unhindered := clear _ (mem_order_of_mem member)
    cases levels with
    | zero => cases unhindered
    | succ levels => simpa [hindrance?, dead] using unhindered
  | through member live _ inductionHypothesis =>
    cases levels with
    | zero =>
      have hindered := clear _ (mem_order_of_mem member)
      cases hindered
    | succ levels =>
      exact inductionHypothesis (fun entry there =>
        clear entry (mem_order_inside member live there)) dead

/-- Nothing stands in the way if chains of calls are within the bound and every name that is
reached is answered. -/
theorem clear_of_bounded {provides : String → Bool} {levels : Nat}
    (provided : ∀ call, graph.Reaches calls call → graph call.1 = none → provides call.1 = true)
    (bounded : ∀ depth, graph.Nests calls depth → depth ≤ levels) :
    ∀ entry ∈ graph.order levels calls, graph.hindrance? provides entry = none := by
  induction levels generalizing calls with
  | zero =>
    intro entry member
    obtain ⟨call, made, rfl⟩ := List.mem_map.mp member
    have deep := bounded 1 (.single made)
    omega
  | succ levels inductionHypothesis =>
    intro entry member
    obtain ⟨call, made, there⟩ := List.mem_flatMap.mp member
    rcases List.mem_cons.mp there with rfl | inside
    · have answered := provided call (.here made)
      simpa [hindrance?] using answered
    · cases live : graph call.1 with
      | none => simp [live] at inside
      | some definition =>
        obtain ⟨arity, inner⟩ := definition
        simp only [live] at inside
        apply inductionHypothesis _ _ entry inside
        · exact fun deeper reaches => provided deeper (.through made live reaches)
        · intro depth nests
          have within := bounded (depth + 1) (.inside made live nests)
          omega

/-- Evaluation meets nothing in its way exactly if every name that is reached is answered and
chains of calls are within the bound. -/
theorem first?_eq_none_iff {provides : String → Bool} {levels : Nat} :
    graph.first? provides levels calls = none ↔
      (∀ call, graph.Reaches calls call → graph call.1 = none → provides call.1 = true) ∧
        ∀ depth, graph.Nests calls depth → depth ≤ levels := by
  rw [first?, List.findSome?_eq_none_iff]
  constructor
  · intro clear
    exact ⟨fun call reaches => reaches.provided_of_clear clear,
      fun depth nests => nests.le_of_clear clear⟩
  · rintro ⟨provided, bounded⟩
    exact clear_of_bounded provided bounded

/-- A call that has no level left is at the end of a chain of calls longer than the bound. -/
theorem nests_of_mem_order {levels : Nat} {name : String}
    (member : (0, name) ∈ graph.order levels calls) : graph.Nests calls (levels + 1) := by
  induction levels generalizing calls with
  | zero =>
    obtain ⟨call, made, _⟩ := List.mem_map.mp member
    exact .single made
  | succ levels inductionHypothesis =>
    obtain ⟨⟨callee, given⟩, made, there⟩ := List.mem_flatMap.mp member
    rcases List.mem_cons.mp there with itself | inside
    · cases itself
    · cases live : graph callee with
      | none => simp [live] at inside
      | some definition =>
        obtain ⟨arity, inner⟩ := definition
        simp only [live] at inside
        exact .inside made live (inductionHypothesis inside)

/-- Whatever evaluation comes to is reached. -/
theorem reaches_of_mem_order {levels level : Nat} {name : String}
    (member : (level, name) ∈ graph.order levels calls) :
    ∃ given, graph.Reaches calls (name, given) := by
  induction levels generalizing calls with
  | zero =>
    obtain ⟨call, made, same⟩ := List.mem_map.mp member
    cases same
    exact ⟨call.2, .here made⟩
  | succ levels inductionHypothesis =>
    obtain ⟨⟨callee, given⟩, made, there⟩ := List.mem_flatMap.mp member
    rcases List.mem_cons.mp there with itself | inside
    · cases itself
      exact ⟨given, .here made⟩
    · cases live : graph callee with
      | none => simp [live] at inside
      | some definition =>
        obtain ⟨arity, inner⟩ := definition
        simp only [live] at inside
        obtain ⟨deeper, reaches⟩ := inductionHypothesis inside
        exact ⟨deeper, .through made live reaches⟩

/-- If calls nest too deep, there is a chain of calls that is longer than the bound. -/
theorem nests_of_first? {provides : String → Bool} {levels : Nat}
    (first : graph.first? provides levels calls = some .nesting) :
    graph.Nests calls (levels + 1) := by
  obtain ⟨⟨level, name⟩, member, hinders⟩ := List.exists_of_findSome?_eq_some first
  by_cases last : level = 0
  · subst last
    exact nests_of_mem_order member
  · simp [hindrance?, last] at hinders

/-- If a name is unresolved, it is reached and nobody answers it. -/
theorem reaches_of_first? {provides : String → Bool} {levels : Nat} {name : String}
    (first : graph.first? provides levels calls = some (.unresolved name)) :
    (∃ given, graph.Reaches calls (name, given)) ∧ graph name = none ∧ provides name = false := by
  obtain ⟨⟨level, other⟩, member, hinders⟩ := List.exists_of_findSome?_eq_some first
  rw [hindrance?] at hinders
  split at hinders
  · cases hinders
  · split at hinders
    · rename_i dead
      cases hinders
      exact ⟨reaches_of_mem_order member, dead⟩
    · cases hinders

/-! ## Cycles -/

/-- A chain of calls in the body of a definition. -/
def NestsIn (graph : CallGraph) (name : String) (depth : Nat) : Prop :=
  ∃ arity calls, graph name = some (arity, calls) ∧ graph.Nests calls depth

/-- Along calls from one definition to another, chains get longer. -/
theorem nestsIn_of_calls {caller callee : String}
    (leads : Relation.TransGen graph.Calls caller callee) {depth : Nat}
    (nests : graph.NestsIn callee depth) :
    ∃ longer, depth < longer ∧ graph.NestsIn caller longer := by
  induction leads using Relation.TransGen.head_induction_on with
  | single makes =>
    obtain ⟨arity, calls, given, live, member⟩ := makes
    obtain ⟨arityToo, inner, liveToo, chain⟩ := nests
    exact ⟨depth + 1, by omega, arity, calls, live, .inside member liveToo chain⟩
  | head makes _ inductionHypothesis =>
    obtain ⟨longer, less, arityToo, inner, liveToo, chain⟩ := inductionHypothesis
    obtain ⟨arity, calls, given, live, member⟩ := makes
    exact ⟨longer + 1, by omega, arity, calls, live, .inside member liveToo chain⟩

/-- On a cycle there are chains of any length. -/
theorem nestsIn_of_cycle {name : String} (cycle : Relation.TransGen graph.Calls name name)
    (depth : Nat) : ∃ longer, depth < longer ∧ graph.NestsIn name longer := by
  induction depth with
  | zero =>
    obtain ⟨callee, ⟨arity, calls, given, live, member⟩, _⟩ := Relation.TransGen.head'_iff.mp cycle
    exact ⟨1, by omega, arity, calls, live, .single member⟩
  | succ depth inductionHypothesis =>
    obtain ⟨longer, less, nests⟩ := inductionHypothesis
    obtain ⟨longest, more, nestsMore⟩ := nestsIn_of_calls cycle nests
    exact ⟨longest, by omega, nestsMore⟩

/-- What is inside a definition that is reached is inside the calls that reach it. -/
theorem Reaches.nests {call : String × Nat} (reaches : graph.Reaches calls call) {depth : Nat}
    (nests : graph.NestsIn call.1 depth) : ∃ longer, depth < longer ∧ graph.Nests calls longer := by
  induction reaches with
  | here member =>
    obtain ⟨arity, inner, live, chain⟩ := nests
    exact ⟨depth + 1, by omega, .inside member live chain⟩
  | through member live _ inductionHypothesis =>
    obtain ⟨longer, less, chain⟩ := inductionHypothesis nests
    exact ⟨longer + 1, by omega, .inside member live chain⟩

/-- Where chains of calls are bounded no cycle is reached. -/
theorem Reaches.not_cycle {call : String × Nat} (reaches : graph.Reaches calls call) {levels : Nat}
    (bounded : ∀ depth, graph.Nests calls depth → depth ≤ levels) :
    ¬ Relation.TransGen graph.Calls call.1 call.1 := by
  intro cycle
  obtain ⟨depth, less, nests⟩ := nestsIn_of_cycle cycle levels
  obtain ⟨longer, more, chain⟩ := reaches.nests nests
  have within := bounded longer chain
  omega

end CallGraph

end Reckon
