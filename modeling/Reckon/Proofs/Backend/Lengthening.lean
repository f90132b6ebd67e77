import Reckon.Proofs.Backend.Keeping

/-!
# What actions only add to

While a body is compiled the list of functions in the open unit only gets longer. That an
action only adds to some list in its state is proved along its text.
-/

namespace Reckon

/-- A list has only got longer, by elements of one kind. -/
def Extended {δ : Type} (kind : δ → Prop) (before after : List δ) : Prop :=
  ∃ more, after = before ++ more ∧ ∀ element ∈ more, kind element

namespace Extended

variable {δ : Type} {kind : δ → Prop} {first second third : List δ}

/-- A list has got longer by nothing. -/
theorem refl (kind : δ → Prop) (list : List δ) : Extended kind list list :=
  ⟨[], (List.append_nil list).symm, nofun⟩

/-- What got longer twice got longer by both. -/
theorem trans (start : Extended kind first second) (rest : Extended kind second third) :
    Extended kind first third := by
  obtain ⟨more, rfl, all⟩ := start
  obtain ⟨others, rfl, allToo⟩ := rest
  exact ⟨more ++ others, List.append_assoc .., List.forall_mem_append.mpr ⟨all, allToo⟩⟩

/-- One more element of the kind makes a list longer. -/
theorem snoc {element : δ} (isKind : kind element) (list : List δ) :
    Extended kind list (list ++ [element]) :=
  ⟨[element], rfl, List.forall_mem_singleton.mpr isKind⟩

/-- An extension by one kind is one by any wider kind. -/
theorem imp {weaker : δ → Prop} (implies : ∀ element, kind element → weaker element)
    (extended : Extended kind first second) : Extended weaker first second := by
  obtain ⟨more, same, all⟩ := extended
  exact ⟨more, same, fun element member => implies element (all element member)⟩

/-- What a list was before is still in front. -/
theorem isPrefix (extended : Extended kind first second) : first <+: second := by
  obtain ⟨more, rfl, _⟩ := extended
  exact List.prefix_append ..

/-- What holds of all elements before, and of all of the kind, holds of all elements after. -/
theorem forall_mem {holds : δ → Prop} (extended : Extended kind first second)
    (old : ∀ element ∈ first, holds element) (new : ∀ element, kind element → holds element) :
    ∀ element ∈ second, holds element := by
  obtain ⟨more, rfl, all⟩ := extended
  exact List.forall_mem_append.mpr ⟨old, fun element member => new element (all element member)⟩

end Extended

namespace Action

variable {σ α β δ : Type} {list : σ → List δ}

/-- Whether the action gives a result or not, the list in the state after it begins with the one in
the state before. -/
def Lengthens (list : σ → List δ) (action : EStateM Fault σ α) : Prop :=
  ∀ state, Ensures action state fun
    | .ok _ after | .error _ after => list state <+: list after

/-- To add to a list is to keep what it begins with. -/
theorem lengthens_iff_keeps {action : EStateM Fault σ α} :
    Lengthens list action ↔ ∀ start, Keeps (fun state => start <+: list state) action := by
  constructor
  · intro lengthens start state begins
    have longer := lengthens state
    unfold Ensures at longer ⊢
    cases ended : action state <;> rw [ended] at longer
    all_goals exact begins.trans longer
  · exact fun keeps state => keeps (list state) state List.prefix_rfl

/-- A value that is given back changes no list. -/
theorem lengthens_pure (value : α) : Lengthens list (pure value) :=
  fun _ => List.prefix_rfl

/-- Two actions one after the other add to the list if both do. -/
theorem Lengthens.bind {first : EStateM Fault σ α} {next : α → EStateM Fault σ β}
    (start : Lengthens list first) (continues : ∀ value, Lengthens list (next value)) :
    Lengthens list (first >>= next) := by
  intro state
  apply (start state).bind
  · exact fun _ _ longer => longer
  · intro value middle longer
    have more := continues value middle
    unfold Ensures at more ⊢
    cases ended : next value middle with
    | ok result after =>
      rw [ended] at more
      exact longer.trans more
    | error fault after =>
      rw [ended] at more
      exact longer.trans more

/-- The state that an action leaves, whether it gives a result or not. -/
def after (action : EStateM Fault σ α) (state : σ) : σ :=
  match action state with
  | .ok _ last | .error _ last => last

/-- The state behind a result is the one that the result came with. -/
theorem after_of_ok {action : EStateM Fault σ α} {state last : σ} {value : α}
    (done : action state = .ok value last) : after action state = last := by
  rw [after, done]

/-- The state behind a fault is the one that the fault came with. -/
theorem after_of_error {action : EStateM Fault σ α} {state last : σ} {fault : Fault}
    (failed : action state = .error fault last) : after action state = last := by
  rw [after, failed]

/-- What the action keeps holds of the state that it leaves. -/
theorem Keeps.holds_after {good : σ → Prop} {action : EStateM Fault σ α} (keeps : Keeps good action)
    {state : σ} (holds : good state) : good (after action state) := by
  unfold after
  cases ended : action state with
  | ok value last => exact keeps.of_ok ended holds
  | error fault last => exact keeps.of_error ended holds

/-- A list of one that is only added to stays as it is. -/
theorem Lengthens.view_after {view : σ → δ} {action : EStateM Fault σ α}
    (lengthens : Lengthens (fun state => [view state]) action) (state : σ) :
    view (after action state) = view state := by
  have longer := lengthens state
  unfold Ensures at longer
  unfold after
  cases ended : action state <;> rw [ended] at longer
  all_goals exact (List.cons.inj (longer.eq_of_length rfl)).1.symm

/-- A list of one element that only gets longer stays as it is, so the view that it holds survives a
result. -/
theorem Lengthens.view_of_ok {view : σ → δ} {action : EStateM Fault σ α}
    (lengthens : Lengthens (fun state => [view state]) action) {state last : σ} {value : α}
    (done : action state = .ok value last) : view last = view state := by
  have kept := lengthens.view_after state
  rwa [after_of_ok done] at kept

/-- In the same way the view survives a fault. -/
theorem Lengthens.view_of_error {view : σ → δ} {action : EStateM Fault σ α}
    (lengthens : Lengthens (fun state => [view state]) action) {state last : σ} {fault : Fault}
    (failed : action state = .error fault last) : view last = view state := by
  have kept := lengthens.view_after state
  rwa [after_of_error failed] at kept

/-- An action that gives a result has added to the list. -/
theorem Lengthens.of_ok {action : EStateM Fault σ α} (lengthens : Lengthens list action)
    {state after : σ} {value : α} (done : action state = .ok value after) :
    list state <+: list after := by
  have longer := lengthens state
  rw [Ensures, done] at longer
  exact longer

/-- If something is refused, the list in the state after it begins with the one given. -/
def Refusing (list : σ → List δ) (before : List δ) (result : EStateM.Result Fault σ α) : Prop :=
  ∀ fault after, result = .error fault after → fault.IsCompile → before <+: list after

/-- Nothing is said about the list behind a result. -/
theorem refusing_ok {before : List δ} {value : α} {after : σ} :
    Refusing list before (.ok value after) := by
  intro fault other failed
  cases failed

/-- A fault is as asked if the list behind it begins with the one before. -/
theorem refusing_error {before : List δ} {fault : Fault} {after : σ}
    (longer : before <+: list after) :
    Refusing list before (.error fault after : EStateM.Result Fault σ α) := by
  intro other last failed _
  cases failed
  exact longer

end Action

/-- A definition that is refused only adds to a list if declaring does, and compiling the body. -/
theorem define_refusing {β δ : Type} [Backend β] {list : β → List δ} {session : Session}
    {function : Definition} {backend : β}
    (declares : Action.Lengthens list (Declarations.declare session function.prototype))
    (bodies : ∀ handle middle,
      Declarations.declare session function.prototype backend = .ok handle middle →
      Action.Ensures
        (Backend.defineBody session handle function.body function.prototype.parameters) middle
        (Action.Refusing list (list middle))) :
    Action.Ensures (define session function) backend (Action.Refusing list (list backend)) := by
  unfold define
  cases declared : Declarations.declare session function.prototype backend with
  | error fault middle =>
    unfold Action.Ensures
    rw [Action.bind_error declared]
    have longer := declares backend
    rw [Action.Ensures, declared] at longer
    exact Action.refusing_error longer
  | ok handle middle =>
    have body := bodies handle middle declared
    unfold Action.Ensures at body ⊢
    rw [Action.bind_ok declared]
    cases defined : Backend.defineBody session handle function.body function.prototype.parameters
        middle with
    | ok value after =>
      rw [Action.bind_ok defined]
      exact Action.refusing_ok
    | error fault after =>
      rw [Action.bind_error defined]
      rw [defined] at body
      intro other last failed compiles
      cases failed
      exact (declares.of_ok declared).trans (body _ _ rfl compiles)

end Reckon
