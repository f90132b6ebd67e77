import Reckon.Backend

/-!
# Contracts of actions

What an action promises about its result, its fault and the state after it is proved
step by step along its text. Two actions on different states agree if both give a
result or both give the same fault, with related states after either; that, too, is
proved along both texts at once.
-/

namespace Reckon

namespace Action

variable {σ τ α β γ δ : Type}

/-- The end of the action is as promised. -/
def Ensures (action : EStateM Fault σ α) (state : σ)
    (promise : EStateM.Result Fault σ α → Prop) : Prop :=
  promise (action state)

/-- A value that is given back keeps a promise about it and the state as it is. -/
theorem ensures_pure {value : α} {state : σ} {promise : EStateM.Result Fault σ α → Prop}
    (holds : promise (.ok value state)) : Ensures (pure value) state promise := holds

/-- A fault that is thrown keeps a promise about it and the state as it is. -/
theorem ensures_throw {fault : Fault} {state : σ} {promise : EStateM.Result Fault σ α → Prop}
    (holds : promise (.error fault state)) : Ensures (throw fault) state promise := holds

/-- Looking at the state changes nothing. -/
theorem ensures_get {next : σ → EStateM Fault σ β} {state : σ}
    {promise : EStateM.Result Fault σ β → Prop} (continues : Ensures (next state) state promise) :
    Ensures (get >>= next) state promise := continues

/-- To look at the state is to go on with it. -/
theorem get_bind (next : σ → EStateM Fault σ β) (state : σ) :
    (get >>= next) state = next state state := rfl

/-- After the state has been replaced, the action goes on from the new one. -/
theorem ensures_set {next : PUnit → EStateM Fault σ β} {state after : σ}
    {promise : EStateM.Result Fault σ β → Prop} (continues : Ensures (next ⟨⟩) after promise) :
    Ensures (set after >>= next) state promise := continues

/-- After the state has been changed, the action goes on from the changed one. -/
theorem ensures_modify {change : σ → σ} {next : PUnit → EStateM Fault σ β} {state : σ}
    {promise : EStateM.Result Fault σ β → Prop}
    (continues : Ensures (next ⟨⟩) (change state) promise) :
    Ensures (modify change >>= next) state promise := continues

/-- Two promises may be kept at once. -/
theorem Ensures.and {action : EStateM Fault σ α} {state : σ}
    {promise other : EStateM.Result Fault σ α → Prop} (kept : Ensures action state promise)
    (keptToo : Ensures action state other) :
    Ensures action state fun result => promise result ∧ other result := ⟨kept, keptToo⟩

/-- An action goes on after every result of another, unless there is a fault. -/
theorem Ensures.bind {first : EStateM Fault σ α} {next : α → EStateM Fault σ β} {state : σ}
    {middle : EStateM.Result Fault σ α → Prop} {promise : EStateM.Result Fault σ β → Prop}
    (kept : Ensures first state middle)
    (fails : ∀ fault after, middle (.error fault after) → promise (.error fault after))
    (continues : ∀ value after, middle (.ok value after) → Ensures (next value) after promise) :
    Ensures (first >>= next) state promise := by
  change promise (EStateM.bind first next state)
  unfold Ensures at kept
  rw [EStateM.bind]
  cases ended : first state with
  | ok value after =>
    rw [ended] at kept
    exact continues value after kept
  | error fault after =>
    rw [ended] at kept
    exact fails fault after kept

/-- An action goes on from where another ended. -/
theorem bind_ok {first : EStateM Fault σ α} {next : α → EStateM Fault σ β} {state after : σ}
    {value : α} (done : first state = .ok value after) :
    (first >>= next) state = next value after := by
  change EStateM.bind first next state = _
  rw [EStateM.bind, done]

/-- Nothing comes after a fault. -/
theorem bind_error {first : EStateM Fault σ α} {next : α → EStateM Fault σ β} {state after : σ}
    {fault : Fault} (failed : first state = .error fault after) :
    (first >>= next) state = .error fault after := by
  change EStateM.bind first next state = _
  rw [EStateM.bind, failed]

/-- Two actions one after the other give a value if both do. -/
theorem bind_eq_ok_iff {first : EStateM Fault σ α} {next : α → EStateM Fault σ β} {state last : σ}
    {result : β} :
    (first >>= next) state = .ok result last ↔
      ∃ value after, first state = .ok value after ∧ next value after = .ok result last := by
  cases ended : first state with
  | error fault after =>
    rw [bind_error ended]
    exact ⟨nofun, nofun⟩
  | ok value after =>
    rw [bind_ok ended]
    constructor
    · exact fun done => ⟨value, after, rfl, done⟩
    · rintro ⟨_, _, same, done⟩
      cases same
      exact done

/-- Two actions one after the other stop with a fault if the first does, or the second after it. -/
theorem bind_eq_error_iff {first : EStateM Fault σ α} {next : α → EStateM Fault σ β}
    {state last : σ} {fault : Fault} :
    (first >>= next) state = .error fault last ↔ first state = .error fault last ∨
      ∃ value after, first state = .ok value after ∧ next value after = .error fault last := by
  cases ended : first state with
  | error other after =>
    rw [bind_error ended]
    constructor
    · intro same
      cases same
      exact .inl rfl
    · rintro (same | ⟨_, _, impossible, _⟩)
      · cases same
        rfl
      · cases impossible
  | ok value after =>
    rw [bind_ok ended]
    constructor
    · exact fun failed => .inr ⟨value, after, rfl, failed⟩
    · rintro (impossible | ⟨_, _, same, failed⟩)
      · cases impossible
      · cases same
        exact failed

/-- An action that is seen to give a value does so in some state. -/
theorem exists_ok {action : EStateM Fault σ α} {state : σ}
    (gives : (action.run' state).isSome = true) :
    ∃ value after, action state = .ok value after := by
  delta EStateM.run' EStateM.run at gives
  cases ended : action state with
  | ok value after => exact ⟨value, after, rfl⟩
  | error fault after =>
    rw [ended] at gives
    cases gives

/-- An action that is seen to give no value stops with a fault. -/
theorem exists_error {action : EStateM Fault σ α} {state : σ}
    (gives : (action.run' state).isSome = false) :
    ∃ fault after, action state = .error fault after := by
  delta EStateM.run' EStateM.run at gives
  cases ended : action state with
  | ok value after =>
    rw [ended] at gives
    cases gives
  | error fault after => exact ⟨fault, after, rfl⟩

/-- The action gives a value or fails to run, and leaves the state given. -/
def Comes (action : EStateM Fault σ α) (state : σ) (outcome : Except RunError α) (after : σ) :
    Prop :=
  action state = match outcome with
    | .ok value => .ok value after
    | .error error => .error (.run error) after

/-- An action leaves one state, whether it gives a value or not. -/
theorem Comes.eq_of_ends {action : EStateM Fault σ α} {state after last : σ}
    {outcome : Except RunError α} (comes : Comes action state outcome after)
    (ends : (∃ value, action state = .ok value last) ∨ ∃ fault, action state = .error fault last) :
    last = after := by
  unfold Comes at comes
  rcases ends with ⟨value, done⟩ | ⟨fault, failed⟩
  · rw [done] at comes
    cases outcome <;> cases comes
    rfl
  · rw [failed] at comes
    cases outcome <;> cases comes
    rfl

/-- A check passes if there is no fault. -/
theorem ensures_check {fault? : Option Fault} {next : PUnit → EStateM Fault σ β} {state : σ}
    {promise : EStateM.Result Fault σ β → Prop}
    (passes : fault? = none → Ensures (next ⟨⟩) state promise)
    (fails : ∀ fault, fault? = some fault → promise (.error fault state)) :
    Ensures (check fault? >>= next) state promise := by
  cases fault? with
  | none => exact passes rfl
  | some fault => exact fails fault rfl

/-- A check that is passed leaves the state as it is. -/
theorem check_ok {fault? : Option Fault} {value : PUnit} {state after : σ}
    (passed : check fault? state = .ok value after) : after = state := by
  cases fault? with
  | none =>
    cases passed
    rfl
  | some fault => cases passed

/-- A check that fails throws the fault it was given and leaves the state as it is. -/
theorem check_error {fault? : Option Fault} {fault : Fault} {state after : σ}
    (failed : check fault? state = .error fault after) : fault? = some fault ∧ after = state := by
  cases fault? with
  | none => cases failed
  | some other =>
    cases failed
    exact ⟨rfl, rfl⟩

/-- Both actions give results, or both give the same fault, and what they leave is related. -/
def Agree (left : EStateM Fault σ α) (right : EStateM Fault τ β) (state : σ) (other : τ)
    (good : α → σ → β → τ → Prop) (bad : σ → τ → Prop) : Prop :=
  match left state, right other with
  | .ok value after, .ok otherValue otherAfter => good value after otherValue otherAfter
  | .error fault after, .error otherFault otherAfter => fault = otherFault ∧ bad after otherAfter
  | _, _ => False

variable {left : EStateM Fault σ α} {right : EStateM Fault τ β} {state : σ} {other : τ}
  {good : α → σ → β → τ → Prop} {bad : σ → τ → Prop}

/-- Two values agree where they are given back. -/
theorem agree_pure {value : α} {otherValue : β} (related : good value state otherValue other) :
    Agree (pure value) (pure otherValue) state other good bad := related

/-- A fault agrees with itself. -/
theorem agree_throw (fault : Fault) (related : bad state other) :
    Agree (throw fault) (throw fault) state other good bad := ⟨rfl, related⟩

/-- Actions that go on after agreeing ones agree if they do after all related results. -/
theorem Agree.bind {leftNext : α → EStateM Fault σ γ} {rightNext : β → EStateM Fault τ δ}
    {last : γ → σ → δ → τ → Prop} (start : Agree left right state other good bad)
    (continues : ∀ value after otherValue otherAfter, good value after otherValue otherAfter →
      Agree (leftNext value) (rightNext otherValue) after otherAfter last bad) :
    Agree (left >>= leftNext) (right >>= rightNext) state other last bad := by
  unfold Agree at start ⊢
  change match EStateM.bind left leftNext state, EStateM.bind right rightNext other with
    | .ok value after, .ok otherValue otherAfter => last value after otherValue otherAfter
    | .error fault after, .error otherFault otherAfter => fault = otherFault ∧ bad after otherAfter
    | _, _ => False
  simp only [EStateM.bind]
  cases reached : left state with
  | ok value after =>
    cases otherReached : right other with
    | ok otherValue otherAfter =>
      rw [reached, otherReached] at start
      exact continues value after otherValue otherAfter start
    | error fault otherAfter =>
      rw [reached, otherReached] at start
      exact start.elim
  | error fault after =>
    cases otherReached : right other with
    | ok otherValue otherAfter =>
      rw [reached, otherReached] at start
      exact start.elim
    | error otherFault otherAfter =>
      rw [reached, otherReached] at start
      exact start

/-- Two actions that look at their states agree if they agree on what they see. -/
theorem agree_get {leftNext : σ → EStateM Fault σ α} {rightNext : τ → EStateM Fault τ β}
    (continues : Agree (leftNext state) (rightNext other) state other good bad) :
    Agree (get >>= leftNext) (get >>= rightNext) state other good bad := continues

/-- What actions agree on they agree on in weaker terms. -/
theorem Agree.imp {weaker : α → σ → β → τ → Prop} {weakerBad : σ → τ → Prop}
    (agrees : Agree left right state other good bad)
    (implies : ∀ value after otherValue otherAfter, good value after otherValue otherAfter →
      weaker value after otherValue otherAfter)
    (impliesBad : ∀ after otherAfter, bad after otherAfter → weakerBad after otherAfter) :
    Agree left right state other weaker weakerBad := by
  unfold Agree at agrees ⊢
  split at agrees
  · exact implies _ _ _ _ agrees
  · exact ⟨agrees.1, impliesBad _ _ agrees.2⟩
  · exact agrees.elim

/-- What the left action promises of its results may be added to what relates the results. -/
theorem Agree.ensures {promise : EStateM.Result Fault σ α → Prop}
    (agrees : Agree left right state other good bad) (kept : Ensures left state promise) :
    Agree left right state other
      (fun value after otherValue otherAfter =>
        good value after otherValue otherAfter ∧ promise (.ok value after)) bad := by
  unfold Agree at agrees ⊢
  unfold Ensures at kept
  cases reached : left state with
  | ok value after =>
    rw [reached] at agrees kept
    cases otherReached : right other with
    | ok otherValue otherAfter =>
      rw [otherReached] at agrees
      exact ⟨agrees, kept⟩
    | error fault otherAfter =>
      rw [otherReached] at agrees
      exact agrees.elim
  | error fault after =>
    rw [reached] at agrees
    cases otherReached : right other with
    | ok otherValue otherAfter =>
      rw [otherReached] at agrees
      exact agrees.elim
    | error otherFault otherAfter =>
      rw [otherReached] at agrees
      exact agrees

/-- Agreeing actions both give a result or both give the same fault, as the left one promises. -/
theorem Agree.ends {promise : EStateM.Result Fault σ α → Prop}
    (agrees : Agree left right state other good bad) (kept : Ensures left state promise) :
    (∃ value after otherValue otherAfter, left state = .ok value after ∧
      right other = .ok otherValue otherAfter ∧ good value after otherValue otherAfter ∧
      promise (.ok value after)) ∨
    ∃ fault after otherAfter, left state = .error fault after ∧
      right other = .error fault otherAfter ∧
      bad after otherAfter ∧ promise (.error fault after) := by
  unfold Agree at agrees
  unfold Ensures at kept
  split at agrees
  case h_1 value after otherValue otherAfter reached otherReached =>
    rw [reached] at kept
    exact .inl ⟨value, after, otherValue, otherAfter, reached, otherReached, agrees, kept⟩
  case h_2 fault after otherFault otherAfter reached otherReached =>
    obtain ⟨rfl, related⟩ := agrees
    rw [reached] at kept
    exact .inr ⟨fault, after, otherAfter, reached, otherReached, related, kept⟩
  case h_3 => exact agrees.elim

/-- A step on the right alone. -/
theorem agree_right {first : EStateM Fault τ δ} {next : δ → EStateM Fault τ β} {value : δ}
    {after : τ} (done : first other = .ok value after)
    (continues : Agree left (next value) state after good bad) :
    Agree left (first >>= next) state other good bad := by
  unfold Agree at continues ⊢
  rw [bind_ok done]
  exact continues

/-- A last step on the right alone. -/
theorem agree_right_last {value : α} {otherValue : β} {after : τ}
    (done : right other = .ok otherValue after) (related : good value state otherValue after) :
    Agree (pure value) right state other good bad := by
  unfold Agree
  rw [done]
  exact related

/-- The same check passes or fails on both sides. -/
theorem agree_check {fault? : Option Fault} {leftNext : PUnit → EStateM Fault σ γ}
    {rightNext : PUnit → EStateM Fault τ δ} {last : γ → σ → δ → τ → Prop}
    (passes : fault? = none → Agree (leftNext ⟨⟩) (rightNext ⟨⟩) state other last bad)
    (fails : bad state other) :
    Agree (check fault? >>= leftNext) (check fault? >>= rightNext) state other last bad := by
  cases fault? with
  | none => exact passes rfl
  | some fault => exact ⟨rfl, fails⟩

end Action

/-! ## Refusals -/

/-- A fault of compiling, as opposed to one of running or a misuse of the back end. -/
def Fault.IsCompile (fault : Fault) : Prop := ∃ error location, fault = .compile error location

/-- A prototype is refused with an error of compilation. -/
theorem Session.isCompile_prototypeFault {session : Session} {prototype : Prototype} {fault : Fault}
    (refused : session.prototypeFault? prototype = some fault) : fault.IsCompile := by
  unfold prototypeFault? at refused
  split at refused
  · exact ⟨_, _, (Option.some.inj refused).symm⟩
  · split at refused
    · split at refused
      · cases refused
      · exact ⟨_, _, (Option.some.inj refused).symm⟩
    · cases refused

/-- A declaration against an earlier one is refused with an error of compilation. -/
theorem isCompile_declarationFault {prototype : Prototype} {arity : Nat} {fault : Fault}
    (refused : declarationFault? prototype arity = some fault) : fault.IsCompile := by
  unfold declarationFault? at refused
  split at refused
  · cases refused
  · exact ⟨_, _, (Option.some.inj refused).symm⟩

/-- A second body for a name is refused with an error of compilation. -/
theorem isCompile_redefinitionFault {defined : NameSet} {name : String} {hasBody : Bool}
    {location : Option Location} {fault : Fault}
    (refused : redefinitionFault? defined name hasBody location = some fault) :
    fault.IsCompile := by
  unfold redefinitionFault? at refused
  split at refused
  · exact ⟨_, _, (Option.some.inj refused).symm⟩
  · cases refused

/-- A declaration that is not refused has the arity of the one that is there. -/
theorem declarationFault?_eq_none_iff (prototype : Prototype) (arity : Nat) :
    declarationFault? prototype arity = none ↔ arity = prototype.arity := by
  unfold declarationFault?
  split <;> simp_all

/-- A prototype that is not refused has distinct parameters and the recorded arity. -/
theorem Session.prototypeFault?_eq_none_iff (session : Session) (prototype : Prototype) :
    session.prototypeFault? prototype = none ↔
      prototype.parameters.Nodup ∧
        ∀ known, session.find? prototype.name = some known → known.arity = prototype.arity := by
  unfold prototypeFault?
  have distinct := firstRepeated?_eq_none_iff [] prototype.parameters
  cases found : firstRepeated? [] prototype.parameters with
  | some parameter => simp_all
  | none =>
    cases recorded : session.find? prototype.name with
    | some known =>
      by_cases same : known.arity = prototype.arity <;> simp_all
    | none => simp_all

end Reckon
