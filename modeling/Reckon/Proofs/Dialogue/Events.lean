import Reckon.Proofs.Backend.Stock
import Reckon.Proofs.Dialogue.Steps
import Reckon.Proofs.Reading.Spelling

/-!
# What happens in a step

A step that finds something to do skips a separator, complains, takes a definition or a
declaration in, or evaluates a bare expression. It does exactly one of these, and which
one tells how the back end has changed.
-/

namespace Reckon

/-- What a step can come to that finds something to do. -/
inductive Event where
  | skipped
  | complained (complaint : Complaint)
  | defined (prototype : Prototype)
  | declared (prototype : Prototype)
  | evaluated (value : Float)

namespace Event

/-- What is complained of. -/
def complaints : Event → List Complaint
  | complained complaint => [complaint]
  | _ => []

/-- What is told as a result. -/
def results : Event → List Float
  | evaluated value => [value]
  | _ => []

/-- The session with what is recorded. -/
def recorded (session : Session) : Event → Session
  | defined prototype | declared prototype => session.record prototype
  | _ => session

end Event

namespace Dialogue

variable {β : Type}

/-- The next step reads this unit. -/
def Reads (dialogue : Dialogue β) (unit : ProgramUnit) : Prop :=
  dialogue.cursor.nextToken.kind ≠ .endOfInput ∧ dialogue.cursor.nextToken.isSymbol ';' = false ∧
    ∃ after, dialogue.cursor.readUnit dialogue.session.operators = .parsed unit after

/-- The next step reads one unit at most. -/
theorem Reads.eq {dialogue : Dialogue β} {unit other : ProgramUnit} (reads : dialogue.Reads unit)
    (readsToo : dialogue.Reads other) : unit = other := by
  obtain ⟨_, _, after, first⟩ := reads
  obtain ⟨_, _, afterToo, second⟩ := readsToo
  rw [first] at second
  cases second
  rfl

/-- Where a unit is read, no separator comes next. -/
theorem Reads.unseparated {dialogue : Dialogue β} {unit : ProgramUnit}
    (reads : dialogue.Reads unit) : ¬ dialogue.cursor.nextToken.isSymbol ';' = true := by
  rw [reads.2.1]
  exact Bool.false_ne_true

/-- What stands next in the program gives rise to the event. A complaint can come of anything but a
separator. -/
def Occasions (dialogue : Dialogue β) : Event → Prop
  | .skipped => dialogue.cursor.nextToken.isSymbol ';' = true
  | .defined prototype => ∃ function : Definition, function.prototype = prototype ∧
      dialogue.Reads (.definition function)
  | .declared prototype => dialogue.Reads (.declaration prototype)
  | .evaluated _ => ∃ function, dialogue.Reads (.expression function)
  | .complained _ => dialogue.cursor.nextToken.isSymbol ';' = false

/-- The event leads from one dialogue to the next: it is what the program gives rise to, and nothing
else is told or recorded. -/
structure Undergoes (before : Dialogue β) (event : Event) (after : Dialogue β) : Prop where
  occasion : before.Occasions event
  complaints : after.complaints = before.complaints ++ event.complaints
  results : after.results = before.results ++ event.results
  session : after.session = event.recorded before.session
  moved (skips : event = .skipped) : after.cursor = before.cursor.pastToken

/-- One event at most happens from one dialogue to the next. -/
theorem Undergoes.unique {before after : Dialogue β} {event other : Event}
    (undergoes : before.Undergoes event after) (undergoesToo : before.Undergoes other after) :
    event = other := by
  have occasion := undergoes.occasion
  have occasionToo := undergoesToo.occasion
  have complaints : event.complaints = other.complaints :=
    List.append_cancel_left (undergoes.complaints.symm.trans undergoesToo.complaints)
  have results : event.results = other.results :=
    List.append_cancel_left (undergoes.results.symm.trans undergoesToo.results)
  cases event with
  | complained complaint =>
    cases other with
    | complained complaintToo =>
      cases complaints
      rfl
    | _ => cases complaints
  | evaluated value =>
    cases other with
    | evaluated valueToo =>
      cases results
      rfl
    | _ => cases results
  | skipped =>
    cases other with
    | skipped => rfl
    | complained complaint => cases complaints
    | evaluated value => cases results
    | defined prototype =>
      obtain ⟨_, _, reads⟩ := occasionToo
      exact (reads.unseparated occasion).elim
    | declared prototype => exact (Reads.unseparated occasionToo occasion).elim
  | defined prototype =>
    obtain ⟨function, rfl, reads⟩ := occasion
    cases other with
    | skipped => exact (reads.unseparated occasionToo).elim
    | complained complaint => cases complaints
    | evaluated value => cases results
    | defined prototype =>
      obtain ⟨functionToo, rfl, readsToo⟩ := occasionToo
      cases reads.eq readsToo
      rfl
    | declared prototype => cases reads.eq occasionToo
  | declared prototype =>
    cases other with
    | skipped => exact (Reads.unseparated occasion occasionToo).elim
    | complained complaint => cases complaints
    | evaluated value => cases results
    | defined prototype =>
      obtain ⟨functionToo, rfl, readsToo⟩ := occasionToo
      cases Reads.eq occasion readsToo
    | declared prototype =>
      cases Reads.eq occasion occasionToo
      rfl

end Dialogue

/-! ## What happens to the back end -/

section

variable {β : Type} [Backend β] [Stocked β]

/-- How the back end changes with the event. -/
def Event.Affects (session : Session) (before after : β) : Event → Prop
  | defined prototype =>
    session.prototypeFault? prototype = none ∧ Grown prototype before after
  | declared prototype =>
    session.prototypeFault? prototype = none ∧ Unshaken before after
  | skipped | complained _ | evaluated _ => Unshaken before after

/-- What a step needs of a back end: how it changes when it takes functions in, refuses them, and
runs those that wrap a bare expression. -/
structure Orderly (session : Session) (platform : Platform) (backend : β) : Prop where
  bodyless : (Stocked.opened backend).Bodyless
  declares (prototype : Prototype) (handle : Handle) (after : β) (word : IsWord prototype.name)
    (done : Declarations.declare session prototype backend = .ok handle after) :
    session.prototypeFault? prototype = none ∧ Unshaken backend after
  declarationRefused (prototype : Prototype) (fault : Fault) (after : β)
    (word : IsWord prototype.name)
    (failed : Declarations.declare session prototype backend = .error fault after) :
    Unshaken backend after
  defines (function : Definition) (handle : Handle) (compiled closed : β) (unit : Nat)
    (word : IsWord function.prototype.name) (spelled : function.body.Spelled)
    (done : define session function backend = .ok handle compiled)
    (handsOff : Backend.handOff compiled = .ok unit closed) :
    session.prototypeFault? function.prototype = none ∧ Grown function.prototype backend closed
  refuses (function : Definition) (fault : Fault) (after : β)
    (named : IsWord function.prototype.name ∨ function.prototype.name = anonymousName)
    (spelled : function.body.Spelled)
    (failed : define session function backend = .error fault after) : Unshaken backend after
  rejects (function : Definition) (handle : Handle) (compiled closed : β) (fault : Fault)
    (named : IsWord function.prototype.name ∨ function.prototype.name = anonymousName)
    (spelled : function.body.Spelled)
    (done : define session function backend = .ok handle compiled)
    (rejected : (Backend.handOff : Action β Nat) compiled = .error fault closed) :
    Unshaken backend closed
  evaluates (body : Node) (handle : Handle) (compiled closed executed released : β) (unit : Nat)
    (spelled : body.Spelled)
    (done : define session (.anonymous body) backend = .ok handle compiled)
    (handsOff : Backend.handOff compiled = .ok unit closed)
    (executes : (∃ value, Backend.execute platform handle [] closed = .ok value executed) ∨
      ∃ fault, Backend.execute platform handle [] closed = .error fault executed)
    (releases : Backend.release unit executed = .ok () released) : Unshaken backend released

namespace Dialogue

variable {before after : Dialogue β}

/-- An event leads from one dialogue to the next, and has changed the back end as it does. -/
def Passes (before : Dialogue β) (event : Event) (after : Dialogue β) : Prop :=
  before.Undergoes event after ∧ event.Affects before.session before.backend after.backend

/-- A complaint changes nothing but the open unit. -/
theorem passes_complained {complaint : Complaint} {started : Bool} {cursor : Cursor} {backend : β}
    (unseparated : before.cursor.nextToken.isSymbol ';' = false)
    (unshaken : Unshaken before.backend backend) :
    before.Passes (.complained complaint) { before with
      started, cursor, backend, complaints := before.complaints ++ [complaint] } :=
  ⟨⟨unseparated, rfl, (List.append_nil _).symm, rfl, nofun⟩, unshaken⟩

/-- Taking a unit in is an event. -/
theorem Takes.event {unit : ProgramUnit} {started : Bool} {cursor : Cursor}
    (takes : Takes { before with started, cursor } unit after) (reads : before.Reads unit)
    (spelled : unit.Spelled) (orderly : Orderly before.session before.platform before.backend) :
    ∃ event, before.Passes event after := by
  have unseparated := reads.2.1
  cases takes with
  | @defined function handle compiled closed number defines handsOff =>
    exact ⟨.defined function.prototype,
      ⟨⟨function, rfl, reads⟩, (List.append_nil _).symm, (List.append_nil _).symm, rfl, nofun⟩,
      orderly.defines function handle compiled closed number spelled.1 spelled.2 defines handsOff⟩
  | definitionRefused refuses _ =>
    exact ⟨_, passes_complained unseparated
      (orderly.refuses _ _ _ (.inl spelled.1) spelled.2 refuses)⟩
  | definitionRejected defines rejects _ =>
    exact ⟨_, passes_complained unseparated
      (orderly.rejects _ _ _ _ _ (.inl spelled.1) spelled.2 defines rejects)⟩
  | @declared prototype handle backend declares =>
    exact ⟨.declared prototype,
      ⟨reads, (List.append_nil _).symm, (List.append_nil _).symm, rfl, nofun⟩,
      orderly.declares prototype handle backend spelled declares⟩
  | declarationRefused refuses _ =>
    exact ⟨_, passes_complained unseparated (orderly.declarationRefused _ _ _ spelled refuses)⟩
  | @evaluated _ _ _ _ _ _ _ value defines handsOff executes releases =>
    obtain ⟨body, spelled, rfl⟩ := spelled
    exact ⟨.evaluated value, ⟨⟨_, reads⟩, (List.append_nil _).symm, rfl, rfl, nofun⟩,
      orderly.evaluates body _ _ _ _ _ _ spelled defines handsOff (.inl ⟨_, executes⟩) releases⟩
  | failed defines handsOff fails _ releases =>
    obtain ⟨body, spelled, rfl⟩ := spelled
    exact ⟨_, passes_complained unseparated
      (orderly.evaluates body _ _ _ _ _ _ spelled defines handsOff (.inr ⟨_, fails⟩) releases)⟩
  | expressionRefused refuses _ =>
    obtain ⟨body, spelled, rfl⟩ := spelled
    exact ⟨_, passes_complained unseparated (orderly.refuses _ _ _ (.inr rfl) spelled refuses)⟩
  | expressionRejected defines rejects _ =>
    obtain ⟨body, spelled, rfl⟩ := spelled
    exact ⟨_, passes_complained unseparated
      (orderly.rejects _ _ _ _ _ (.inr rfl) spelled defines rejects)⟩

/-- A step leads from one dialogue to the next: it is an event, or the program is at its end and
nothing has happened. -/
inductive Proceeds (before : Dialogue β) : Bool → Dialogue β → Prop
  | event {after : Dialogue β} {event : Event} (passes : before.Passes event after) :
      Proceeds before true after
  | ended {after : Dialogue β} (ended : before.cursor.nextToken.kind = .endOfInput)
      (session : after.session = before.session)
      (unshaken : Unshaken before.backend after.backend) : Proceeds before false after

/-- What has been written does not matter. -/
theorem Proceeds.withOutput {more : Bool} (proceeds : before.Proceeds more after)
    (output : String) : before.Proceeds more { after with output } := by
  cases proceeds with
  | event passes =>
    obtain ⟨undergoes, affects⟩ := passes
    exact .event ⟨⟨undergoes.occasion, undergoes.complaints, undergoes.results,
      undergoes.session, undergoes.moved⟩, affects⟩
  | ended ended session unshaken => exact .ended ended session unshaken

/-- A step that comes to one of its ends leads on. -/
theorem Turns.proceeds {more : Bool} (turns : Turns before more after)
    (orderly : Orderly before.session before.platform before.backend) :
    before.Proceeds more after := by
  cases turns with
  | finished ended => exact .ended ended rfl (.refl orderly.bodyless)
  | separated separator =>
    have undergoes : before.Undergoes .skipped
        { before with started := true, cursor := before.cursor.pastToken } :=
      ⟨separator, (List.append_nil _).symm, (List.append_nil _).symm, rfl, fun _ => rfl⟩
    exact .event ⟨undergoes, Unshaken.refl orderly.bodyless⟩
  | malformed more unseparated fails =>
    exact .event (passes_complained unseparated (.refl orderly.bodyless))
  | took more unseparated reads takes =>
    obtain ⟨event, passes⟩ := takes.event ⟨more, unseparated, _, reads⟩
      (Cursor.readUnit_spelled reads) orderly
    exact .event passes

end Dialogue

end

end Reckon
