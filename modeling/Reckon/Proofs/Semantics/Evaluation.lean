import Mathlib.Control.Monad.Basic
import Reckon.Proofs.Evaluator.Compilation

/-!
# The value of a body, straight from its tree

A body can be evaluated without being compiled: its tree is gone through, names of parameters are
looked up among the arguments, and functions are called by the names in the tree. Such an
evaluation fails at a name that is no parameter, at an operator without a meaning, and at a unit
that stands where an expression belongs. Code denotes a tree if evaluating the tree does not fail,
and makes the same calls and has the same value as running the code, whatever the operations and
the calls yield.
-/

namespace Reckon

/-- What names stand for. -/
abbrev Environment := String → Option Float

/-- Binds parameters to arguments, one after the other. A name that is bound again stands for the
later argument. -/
def Environment.bind : List String → List Float → Environment → Environment
  | parameter :: parameters, argument :: arguments, environment =>
    bind parameters arguments fun name =>
      if name = parameter then some argument else environment name
  | _, _, environment => environment

/-- The parameters stand for the arguments, and other names for nothing. -/
def Environment.ofArguments (parameters : List String) (arguments : List Float) : Environment :=
  bind parameters arguments fun _ => none

/-- What an operator makes of its operands, if it has a meaning. -/
def Platform.operate? (platform : Platform) (operator : String) (left right : Float) :
    Option Float :=
  match operator with
  | "+" => some (platform.arithmetic .add left right)
  | "-" => some (platform.arithmetic .subtract left right)
  | "*" => some (platform.arithmetic .multiply left right)
  | "<" => some (if platform.below left right then 1.0 else 0.0)
  | _ => none

section

variable {m : Type → Type} [Monad m]

mutual

/-- Evaluates a tree: operands from left to right, arguments before their call. -/
def Node.evaluate (platform : Platform) (environment : Environment)
    (call : String → List Float → m Float) : Node → OptionT m Float
  | .number value _ => pure value
  | .reference name _ => OptionT.mk (pure (environment name))
  | .binary operator left right _ => do
    let leftValue ← left.evaluate platform environment call
    let rightValue ← right.evaluate platform environment call
    OptionT.mk (pure (platform.operate? operator leftValue rightValue))
  | .call callee arguments _ => do
    let values ← evaluateAll platform environment call arguments
    OptionT.lift (call callee values)
  | .prototype _ | .definition .. => failure

/-- Evaluates trees from left to right. -/
def evaluateAll (platform : Platform) (environment : Environment)
    (call : String → List Float → m Float) : List Node → OptionT m (List Float)
  | [] => pure []
  | node :: rest => do
    let value ← node.evaluate platform environment call
    let values ← evaluateAll platform environment call rest
    return value :: values

end

/-- The arguments are handed over by their positions. -/
def Supplies (arguments : List Float) (argument : Nat → m Float) : Prop :=
  ∀ (position : Nat) (value : Float), arguments[position]? = some value →
    argument position = pure value

end

/-- A name that is bound to an argument stands for the one at its last position among the
parameters; other names stand for what they stood for. -/
theorem Environment.bind_eq {parameters : List String} {arguments : List Float}
    (lengths : arguments.length = parameters.length) (environment : Environment) (name : String) :
    bind parameters arguments environment name =
      match Evaluator.position? name parameters with
      | some position => arguments[position]?
      | none => environment name := by
  induction parameters generalizing arguments environment with
  | nil => rfl
  | cons parameter rest inductionHypothesis =>
    cases arguments with
    | nil => cases lengths
    | cons argument others =>
      rw [bind, inductionHypothesis (Nat.succ.inj lengths), Evaluator.position?]
      cases Evaluator.position? name rest with
      | some position => rfl
      | none =>
        by_cases same : parameter = name
        · subst same
          simp
        · simp [same, Ne.symm same]

/-- Operators mean what they are compiled to. -/
theorem Platform.operate?_eq (platform : Platform) {operator : String} {operation : Operation}
    (means : Operation.ofOperator? operator = some operation) (left right : Float) :
    platform.operate? operator left right = some (platform.apply operation left right) := by
  unfold Operation.ofOperator? at means
  split_ifs at means with isSum isDifference isProduct isBelow
  all_goals subst operator
  all_goals
    cases means
    rfl

/-- With the parameters bound to arguments, evaluating the tree does not fail, and is running the
code. Functions that the code calls by their symbols are called in the tree by their names. -/
def Denotes (symbol : String → String) (parameters : List String) (node : Node) (code : Code) :
    Prop :=
  ∀ (m : Type → Type) [Monad m] [LawfulMonad m] (platform : Platform)
    (call : String → List Float → m Float) (arguments : List Float) (argument : Nat → m Float),
    arguments.length = parameters.length → Supplies arguments argument →
    (node.evaluate platform (.ofArguments parameters arguments)
      fun callee => call (symbol callee)).run = some <$> code.run platform argument call

/-- The same for several trees. -/
def DenotesAll (symbol : String → String) (parameters : List String) (nodes : List Node)
    (codes : List Code) : Prop :=
  ∀ (m : Type → Type) [Monad m] [LawfulMonad m] (platform : Platform)
    (call : String → List Float → m Float) (arguments : List Float) (argument : Nat → m Float),
    arguments.length = parameters.length → Supplies arguments argument →
    (evaluateAll platform (.ofArguments parameters arguments)
      (fun callee => call (symbol callee)) nodes).run =
        some <$> Code.runAll platform argument call codes

/-- What does not fail is gone on from with its value. -/
theorem run_bind_of_run {m : Type → Type} [Monad m] [LawfulMonad m] {α β : Type}
    {first : OptionT m α} {values : m α} (runs : first.run = some <$> values)
    (next : α → OptionT m β) : (first >>= next).run = values >>= fun value => (next value).run := by
  rw [OptionT.run_bind, runs, Option.elimM, bind_map_left]
  rfl

/-- Computations that never fail are told apart. -/
theorem eq_of_map_some {m : Type → Type} [Monad m] [LawfulMonad m] {α : Type} [Inhabited α]
    {first second : m α} (same : some <$> first = some <$> second) : first = second := by
  have values := congrArg (fun values => (·.getD default) <$> values) same
  simpa using values

section

variable {symbol : String → String} {parameters : List String}

/-- A number denotes itself. -/
theorem denotes_number (value : Float) (location : Option Location) :
    Denotes symbol parameters (.number value location) (.constant value) := by
  intro m _ _ platform call arguments argument _ _
  rw [Node.evaluate, Code.run, OptionT.run_pure, map_pure]

/-- A parameter denotes its position. -/
theorem denotes_reference {name : String} {position : Nat}
    (found : Evaluator.position? name parameters = some position) (location : Option Location) :
    Denotes symbol parameters (.reference name location) (.parameter position) := by
  intro m _ _ platform call arguments argument lengths supplies
  have within : position < arguments.length := lengths ▸ Evaluator.position?_lt found
  have bound : Environment.ofArguments parameters arguments name = some arguments[position] := by
    rw [Environment.ofArguments, Environment.bind_eq lengths, found]
    exact List.getElem?_eq_getElem within
  rw [Node.evaluate, Code.run, OptionT.run_mk, bound,
    supplies position _ (List.getElem?_eq_getElem within), map_pure]

/-- An operation denotes the operation that its operator means, on what its operands denote. -/
theorem Denotes.binary {left right : Node} {leftCode rightCode : Code}
    (denotesLeft : Denotes symbol parameters left leftCode)
    (denotesRight : Denotes symbol parameters right rightCode) {operator : String}
    {operation : Operation} (means : Operation.ofOperator? operator = some operation)
    (location : Option Location) :
    Denotes symbol parameters (.binary operator left right location)
      (.operation operation leftCode rightCode) := by
  intro m _ _ platform call arguments argument lengths supplies
  rw [Node.evaluate, Code.run, map_bind,
    run_bind_of_run (denotesLeft m platform call arguments argument lengths supplies)]
  apply bind_congr
  intro leftValue
  rw [run_bind_of_run (denotesRight m platform call arguments argument lengths supplies), map_bind]
  apply bind_congr
  intro rightValue
  rw [OptionT.run_mk, platform.operate?_eq means, map_pure]

/-- No trees denote no codes. -/
theorem denotesAll_nil : DenotesAll symbol parameters [] [] := by
  intro m _ _ platform call arguments argument _ _
  rw [evaluateAll, Code.runAll, OptionT.run_pure, map_pure]

/-- A row of trees denotes a row of codes one by one. -/
theorem DenotesAll.cons {node : Node} {nodes : List Node} {code : Code} {codes : List Code}
    (denotes : Denotes symbol parameters node code)
    (others : DenotesAll symbol parameters nodes codes) :
    DenotesAll symbol parameters (node :: nodes) (code :: codes) := by
  intro m _ _ platform call arguments argument lengths supplies
  rw [evaluateAll, run_bind_of_run (denotes m platform call arguments argument lengths supplies),
    Code.runAll, map_bind]
  apply bind_congr
  intro value
  rw [run_bind_of_run (others m platform call arguments argument lengths supplies), map_bind]
  apply bind_congr
  intro values
  rw [OptionT.run_pure, map_pure]

/-- A call denotes the call of its symbol with what its arguments denote. -/
theorem DenotesAll.call {nodes : List Node} {codes : List Code}
    (all : DenotesAll symbol parameters nodes codes) (callee : String)
    (location : Option Location) :
    Denotes symbol parameters (.call callee nodes location) (.call (symbol callee) codes) := by
  intro m _ _ platform call arguments argument lengths supplies
  rw [Node.evaluate, run_bind_of_run (all m platform call arguments argument lengths supplies),
    Code.run, map_bind]
  apply bind_congr
  intro values
  rw [OptionT.run_lift, map_eq_pure_bind]

end

end Reckon
