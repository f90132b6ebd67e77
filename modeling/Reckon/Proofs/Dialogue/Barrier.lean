import Reckon.Platform.Doubles
import Reckon.Proofs.Dialogue.Likeness
import Reckon.Proofs.Dialogue.Steps
import Reckon.Proofs.Evaluator.Likeness
import Reckon.Proofs.Generator.Likeness

/-!
# Semicolons as barriers

Running a text, a semicolon on a line of its own and a second text comes to the same as
running the first text to its end and then, in a new dialogue with the same back end and
session, the second. This holds for texts that are not well formed, and from every state of
the back end and of the session: only the table of operators must be one that registration
reaches, since a semicolon that was an operator would be no separator.
-/

namespace Reckon

namespace Dialogue

open Reckon.Action

variable {β : Type} [Backend β]

/-- Two dialogues tell the same: their results, their reports up to places, the recorded prototypes
up to places, and the names that are defined. -/
structure TellsAlike (left right : Dialogue β) : Prop where
  results : left.results = right.results
  complaints : left.complaints.map Complaint.bare = right.complaints.map Complaint.bare
  prototypes : left.session.prototypes.map Prototype.bare =
    right.session.prototypes.map Prototype.bare
  defined : Backend.defined left.backend = Backend.defined right.backend

/-- What two dialogues one after the other came to. -/
def after (latter former : Dialogue β) : Dialogue β :=
  { latter with
    results := former.results ++ latter.results
    complaints := former.complaints ++ latter.complaints
    output := former.output ++ latter.output }

/-- Runs another dialogue from a cursor on, with the back end and the session as the first has left
them. -/
def runNext (second : Cursor) : Turn β Unit := fun former =>
  match run (begin former.settings former.platform former.session former.backend second) with
  | .ok () latter => .ok () (latter.after former)
  | .error fault latter => .error fault (latter.after former)

/-- Runs a dialogue to the end of its text, and then another from a second cursor on. -/
def runInTurn (second : Cursor) : Turn β Unit := do
  run
  runNext second

variable [Placeless β]

/-- What follows the same dialogue tells the same. -/
theorem Follows.tellsAlike {cursor : Cursor} {operators : Operators} {left right other : Dialogue β}
    (follows : Follows cursor operators [] [] left right) (results : right.results = other.results)
    (complaints : right.complaints.map Complaint.bare = other.complaints.map Complaint.bare)
    (session : other.session.Alike right.session)
    (backend : Placeless.Alike other.backend right.backend) : TellsAlike left other where
  results := by rw [← results, follows.results, List.nil_append]
  complaints := by rw [← complaints, follows.complaints, List.nil_append]
  prototypes := follows.session.trans session.symm
  defined := (Placeless.defined follows.backend).trans (Placeless.defined backend).symm

/-- A run does about the items of its text what any dialogue does about items that are alike. -/
theorem run_attends {cursor : Cursor} {operators : Operators} {items : List Item}
    {results : List Float} {complaints : List (Complaint.Kind × String × String)}
    {left right : Dialogue β} (follows : Follows cursor operators results complaints left right)
    (alike : Item.AllAlike (cursor.items operators) items) :
    EndsAlike (fun left right => ∃ cursor, Follows cursor operators results complaints left right)
      Eq (run left) (forM items attend right) := by
  obtain rfl := follows.cursor
  exact runWithin_attends _ alike follows

/-- The other dialogue does about the items of its text what the dialogue that both follow does
about them. It begins without the results and the reports of the first. -/
theorem runNext_alike {operators : Operators} (registered : operators.Registered)
    {cursor second : Cursor} {former middle : Dialogue β}
    (follows : Follows cursor operators [] [] former middle)
    {whole : EStateM.Result Fault (Dialogue β) Unit}
    (ends : EndsAlike (fun left right => ∃ cursor, Follows cursor operators [] [] left right) Eq
      whole (forM (second.items operators) attend middle)) :
    EndsAlike TellsAlike Eq whole (runNext second former) := by
  have begun : Follows second operators middle.results (middle.complaints.map Complaint.bare)
      (begin former.settings former.platform former.session former.backend second) middle :=
    ⟨rfl, follows.operators, follows.settings, follows.platform, follows.session, follows.backend,
      (List.append_nil _).symm, (List.append_nil _).symm⟩
  have latterEnds := run_attends begun (Cursor.items_congr registered rfl)
  have tells {left last latter : Dialogue β}
      (ends : ∃ cursor, Follows cursor operators [] [] left last)
      (endsToo : ∃ cursor, Follows cursor operators middle.results
        (middle.complaints.map Complaint.bare) latter last) :
      TellsAlike left (latter.after former) := by
    obtain ⟨_, leftFollows⟩ := ends
    obtain ⟨_, latterFollows⟩ := endsToo
    refine leftFollows.tellsAlike ?_ ?_ latterFollows.session latterFollows.backend
    · simp [after, latterFollows.results, follows.results]
    · simp [after, latterFollows.complaints, follows.complaints]
  unfold runNext
  generalize run (begin former.settings former.platform former.session former.backend second) =
    result at latterEnds
  generalize forM (second.items operators) attend middle = common at latterEnds ends
  cases latterEnds with
  | ok _ latter =>
    cases ends with
    | ok _ left => exact .ok rfl (tells left latter)
  | error sameLatter latter =>
    cases ends with
    | error same left => exact .error (same.trans sameLatter.symm) (tells left latter)

/-- The run of the whole text, and the two runs in turn, do about the items of the two texts what
one dialogue does about them. -/
theorem runInTurn_alike {session : Session} (registered : session.operators.Registered)
    (settings : Settings) (platform : Platform) (backend : β) {whole first second : Cursor}
    (split : whole.lexemes = first.lexemes ++ (.symbol, ";") :: second.lexemes) :
    EndsAlike TellsAlike Eq (run (begin settings platform session backend whole))
      (runInTurn second (begin settings platform session backend first)) := by
  have begun (cursor : Cursor) : Follows cursor session.operators [] []
      (begin settings platform session backend cursor)
      (begin settings platform session backend first) :=
    ⟨rfl, rfl, rfl, rfl, rfl, Placeless.refl backend, rfl, rfl⟩
  have items : Item.AllAlike (whole.items session.operators)
      (first.items session.operators ++ second.items session.operators) :=
    Cursor.items_separated registered split
  have itself : Item.AllAlike (first.items session.operators) (first.items session.operators) :=
    Cursor.items_congr registered rfl
  have wholeEnds := run_attends (begun whole) items
  have formerEnds := run_attends (begun first) itself
  rw [List.forM_append] at wholeEnds
  change EndsAlike _ _ _ (EStateM.bind run _ _)
  rw [EStateM.bind]
  generalize run (begin settings platform session backend first) = formerResult at formerEnds ⊢
  cases reached : forM (first.items session.operators) attend
      (begin settings platform session backend first) with
  | ok _ middle =>
    rw [bind_ok reached] at wholeEnds
    rw [reached] at formerEnds
    cases formerEnds with
    | ok _ follows =>
      obtain ⟨_, follows⟩ := follows
      exact runNext_alike registered follows wholeEnds
  | error fault middle =>
    rw [bind_error reached] at wholeEnds
    rw [reached] at formerEnds
    generalize run (begin settings platform session backend whole) = result at wholeEnds ⊢
    cases formerEnds with
    | error sameFormer follows =>
      obtain ⟨_, former⟩ := follows
      cases wholeEnds with
      | error same follows =>
        obtain ⟨_, follows⟩ := follows
        exact .error (same.trans sameFormer.symm) (follows.tellsAlike former.results
          former.complaints former.session former.backend)

/-- **A semicolon at the top is a barrier.** One run of two texts with a semicolon between them
tells the same as a run of the first and then a run of the second by another dialogue, whatever
the texts are and whatever the back end and the session are; and the second text is read as it is
read on its own. -/
theorem separator_is_barrier {session : Session} (registered : session.operators.Registered)
    (settings : Settings) (platform : Platform) (file fileFirst fileSecond : String)
    (first second : List Char) :
    let whole := Cursor.start file (first ++ "\n;\n".toList ++ second)
    let former := Cursor.start fileFirst first
    let latter := Cursor.start fileSecond second
    (∀ evaluator : Evaluator,
      EndsAlike TellsAlike Eq (run (begin settings platform session evaluator whole))
        (runInTurn latter (begin settings platform session evaluator former))) ∧
    (∀ generator : Generator,
      EndsAlike TellsAlike Eq (run (begin settings platform session generator whole))
        (runInTurn latter (begin settings platform session generator former))) ∧
    Item.AllAlike (whole.items session.operators)
      (former.items session.operators ++ latter.items session.operators) := by
  intro whole former latter
  have split : whole.lexemes = former.lexemes ++ (.symbol, ";") :: latter.lexemes :=
    Cursor.lexemes_start_append file fileFirst fileSecond first second
  exact ⟨fun evaluator => runInTurn_alike registered settings platform evaluator split,
    fun generator => runInTurn_alike registered settings platform generator split,
    Cursor.items_separated registered split⟩

/-- A definition breaks off at the semicolon, and what follows is evaluated. -/
theorem separator_is_barrier_unfinished :
    let text := "def f(x\n;\ndef g(y) y+1 g(2)".toList
    ∃ whole, run (begin .quiet .doubles .fresh Evaluator.initial (.start "" text)) = .ok () whole ∧
      whole.results.length = 1 ∧
      whole.complaints.map Complaint.bare = [(.reading, "P006", "Expected ')' in prototype")] ∧
      Backend.defined whole.backend = ["g"] := by
  intro text
  have split : text = "def f(x".toList ++ "\n;\n".toList ++ "def g(y) y+1 g(2)".toList := by decide
  obtain ⟨turns, ended, results, complaints, defined⟩ : ∃ turns,
      runInTurn (.start "" "def g(y) y+1 g(2)".toList)
        (begin .quiet .doubles .fresh Evaluator.initial (.start "" "def f(x".toList)) =
          .ok () turns ∧
      turns.results.length = 1 ∧
      turns.complaints.map Complaint.bare = [(.reading, "P006", "Expected ')' in prototype")] ∧
      Backend.defined turns.backend = ["g"] :=
    exists_end (by decide +kernel)
  have same := (@separator_is_barrier .fresh .standard .quiet .doubles "" "" "" "def f(x".toList
    "def g(y) y+1 g(2)".toList).1 Evaluator.initial
  rw [← split, ended] at same
  generalize run (begin .quiet .doubles .fresh Evaluator.initial (.start "" text)) = whole at same
  cases same with
  | ok _ tells =>
    rw [← tells.results] at results
    rw [← tells.complaints] at complaints
    rw [← tells.defined] at defined
    exact ⟨_, rfl, results, complaints, defined⟩

end Dialogue

end Reckon
