import Reckon.Platform.Doubles
import Reckon.Proofs.Pairing.Dialogues

/-!
# Runs side by side

A run of the evaluator and a run of the generator over the same program come equally far
in any number of steps. They have the same results and complain alike as long as no
expression is evaluated in which ways of running code may differ. Whatever is evaluated,
calls fit the functions that they reach, unless a declaration left over by a refused
definition was called.
-/

namespace Reckon

namespace Dialogue

variable {excused : String → String → Prop} {left : Dialogue Evaluator} {right : Dialogue Generator}

/-- What has been written does not matter. -/
theorem Paired.withOutput (paired : Paired excused left right) (output outputToo : String) :
    Paired excused { left with output } { right with output := outputToo } :=
  ⟨paired.cursor, paired.started, paired.session, paired.platform, paired.coupled, paired.stale⟩

/-- What has been written makes no difference to results and complaints. -/
theorem Level.withOutput (level : Level left right) (output outputToo : String) :
    Level { left with output } { right with output := outputToo } :=
  ⟨level.results, level.complaints⟩

/-- What has been written excuses nothing. -/
theorem Excuses.withOutput {β : Type} [Backend β] {before after : Dialogue β}
    {caller callee : String} (excuses : before.Excuses after caller callee) (output : String) :
    before.Excuses { after with output } caller callee :=
  ⟨excuses.undefined, excuses.defined, excuses.leftOver, excuses.other⟩

/-- What both runs have excused within a number of steps. -/
def BothExcused (start : Dialogue Evaluator) (startToo : Dialogue Generator) (count : Nat)
    (caller callee : String) : Prop :=
  start.ExcusedWithin count caller callee ∧ startToo.ExcusedWithin count caller callee

/-- The first steps evaluate only what is plain. -/
def PlainWithin (start : Dialogue Evaluator) (count : Nat) : Prop :=
  ∀ step < count, ∀ before, steps step start = .ok () before →
    ∀ closed code, before.evaluated? = some (closed, code) → closed.Plain before.platform code

/-- Paired dialogues stay paired through any number of steps, and level as long as everything is
plain. -/
theorem Paired.steps {start : Dialogue Evaluator} {startToo : Dialogue Generator}
    (paired : Paired (BothExcused start startToo 0) start startToo) (level : Level start startToo)
    (count : Nat) :
    ∃ left right, Dialogue.steps count start = .ok () left ∧
      Dialogue.steps count startToo = .ok () right ∧
      Paired (BothExcused start startToo count) left right ∧
      (start.PlainWithin count → Level left right) := by
  induction count with
  | zero => exact ⟨start, startToo, rfl, rfl, paired, fun _ => level⟩
  | succ count inductionHypothesis =>
    obtain ⟨left, right, reached, reachedToo, pairedThere, levelThere⟩ := inductionHypothesis
    obtain ⟨more, leftAfter, rightAfter, turns, turnsToo, pairedAfter, levelAfter⟩ :=
      pairedThere.step
    obtain ⟨output, ended⟩ := steps_succ reached turns
    obtain ⟨outputToo, endedToo⟩ := steps_succ reachedToo turnsToo
    refine ⟨_, _, ended, endedToo, ?_, ?_⟩
    · refine (pairedAfter.weaken ?_).withOutput output outputToo
      rintro caller callee (before | ⟨excuses, excusesToo⟩)
      · exact ⟨before.1.succ, before.2.succ⟩
      · exact ⟨⟨count, Nat.lt_succ_self _, left, _, reached, ended, excuses.withOutput output⟩,
          ⟨count, Nat.lt_succ_self _, right, _, reachedToo, endedToo,
            excusesToo.withOutput outputToo⟩⟩
    · intro plain
      have before := levelThere fun step less => plain step (Nat.lt_succ_of_lt less)
      have now := levelAfter (plain count (Nat.lt_succ_self _) left reached) before
      exact now.withOutput output outputToo

/-- A session with the given operators that knows no function. -/
def newSession (operators : Operators) : Session := { Session.fresh with operators }

/-- A dialogue with the evaluator that has not read anything. -/
def withEvaluator (settings : Settings) (platform : Platform) (operators : Operators)
    (cursor : Cursor) : Dialogue Evaluator :=
  begin settings platform (newSession operators) .initial cursor

/-- A dialogue with a generator whose modules are accepted, that has not read anything. -/
def withGenerator (settings : Settings) (platform : Platform) (operators : Operators) (level : Nat)
    (cursor : Cursor) : Dialogue Generator :=
  begin settings platform (newSession operators) (.initial level none) cursor

section

variable (settings : Settings) (platform : Platform) (operators : Operators) (level : Nat)
  (cursor : Cursor)

/-- The dialogues begin paired and level. -/
theorem paired_begin (excused : String → String → Prop) :
    Paired excused (withEvaluator settings platform operators cursor)
        (withGenerator settings platform operators level cursor) ∧
      Level (withEvaluator settings platform operators cursor)
        (withGenerator settings platform operators level cursor) := by
  have keyed : (newSession operators).Keyed := Session.keyed_fresh
  refine ⟨⟨rfl, rfl, rfl, rfl, .initial keyed excused platform level, ?_⟩, rfl, .nil⟩
  intro name expected given complained
  cases complained

/-- Wherever a run of the evaluator comes, some generator is coupled with it. -/
theorem coupled_of_steps {count : Nat} {dialogue : Dialogue Evaluator}
    (reached : steps count (withEvaluator settings platform operators cursor) = .ok () dialogue) :
    ∃ excused generator, Coupled dialogue.session excused dialogue.platform dialogue.backend
      generator := by
  obtain ⟨paired, start⟩ := paired_begin settings platform operators 0 cursor _
  obtain ⟨left, right, reachedToo, _, paired, _⟩ := paired.steps start count
  rw [reached] at reachedToo
  cases reachedToo
  exact ⟨_, _, paired.coupled⟩

/-- **Evaluator and generator agree.** For every program, table of operators and platform, and any
number of steps, a run of each comes to the same place, with the same prototypes recorded and the
same functions defined, with the same results, and with complaints that are alike, provided that
the steps evaluate only what is plain. -/
theorem runs_agree (count : Nat)
    (plain : PlainWithin (withEvaluator settings platform operators cursor) count) :
    ∃ left right,
      steps count (withEvaluator settings platform operators cursor) = .ok () left ∧
      steps count (withGenerator settings platform operators level cursor) = .ok () right ∧
      right.cursor = left.cursor ∧ right.started = left.started ∧
      right.session.prototypes = left.session.prototypes ∧
      Backend.defined right.backend = Backend.defined left.backend ∧
      right.results = left.results ∧
      List.Forall₂ Complaint.Alike left.complaints right.complaints := by
  obtain ⟨paired, start⟩ := paired_begin settings platform operators level cursor _
  obtain ⟨left, right, reached, reachedToo, paired, levels⟩ := paired.steps start count
  have same := levels plain
  exact ⟨left, right, reached, reachedToo, paired.cursor, paired.started,
    congrArg Session.prototypes paired.session, paired.coupled.defined, same.results,
    same.complaints⟩

end

/-- A function is defined and called. -/
theorem runs_agree_call :
    let cursor := Cursor.start "" "def f(x) x; f(2);".toList
    PlainWithin (withEvaluator .quiet .doubles .standard cursor) 4 ∧ ∃ left right,
      steps 4 (withEvaluator .quiet .doubles .standard cursor) = .ok () left ∧
      steps 4 (withGenerator .quiet .doubles .standard 0 cursor) = .ok () right ∧
      right.cursor = left.cursor ∧ right.started = left.started ∧
      right.session.prototypes = left.session.prototypes ∧
      Backend.defined right.backend = Backend.defined left.backend ∧
      right.results = left.results ∧
      List.Forall₂ Complaint.Alike left.complaints right.complaints := by
  intro cursor
  have plain : PlainWithin (withEvaluator .quiet .doubles .standard cursor) 4 := by
    have tests : ∀ step < 4,
        (match steps step (withEvaluator .quiet .doubles .standard cursor) with
          | .ok _ before =>
            match before.evaluated? with
            | some (closed, code) =>
              decide (before.platform.provides "f" = false ∧ code.calls = [("f", 1)] ∧
                (closed.definition? "f").map (fun found => (found.1, found.2.calls)) =
                  some (1, []) ∧
                (code.run before.platform (Evaluator.argument [])
                  (Evaluator.call before.platform closed before.platform.depth)).isOk = true)
            | none => true
          | .error .. => true) = true := by
      decide +kernel
    intro step less before reached closed code found
    have test := tests step less
    simp only [reached, found, decide_eq_true_eq] at test
    obtain ⟨foreign, calls, live, ends⟩ := test
    refine .of_among [("f", 1)] (by rw [calls]; exact fun _ member => member) ?_ ?_
    · intro call member arity inner finds
      rw [List.mem_singleton.mp member] at finds ⊢
      rw [finds] at live
      obtain ⟨rfl, none⟩ := Prod.mk.inj (Option.some.inj live)
      exact ⟨rfl, foreign, by rw [none]; exact List.nil_subset _⟩
    · intro deep
      rw [deep] at ends
      cases ends
  exact ⟨plain, runs_agree _ _ _ _ _ 4 plain⟩

/-- **Calls fit, unless they are of what was left over.** In a run of the evaluator every call in a
live body has as many arguments as the live definition of its callee has parameters, in a run of the
generator every call in the image has as many as the function that it is bound to, and no call is
reported for its number of arguments, unless an earlier step of the run accepted the caller while
the callee was a declaration left over. -/
theorem calls_fit_unless_left_over (settings : Settings) (platform : Platform)
    (operators : Operators) (level : Nat) (cursor : Cursor) (count : Nat) :
    ∃ left right,
      steps count (withEvaluator settings platform operators cursor) = .ok () left ∧
      steps count (withGenerator settings platform operators level cursor) = .ok () right ∧
      (∀ unit ∈ left.backend.live, ∀ caller prototype body code,
        unit.functions.get? caller = some ⟨prototype, some (body, code)⟩ →
        ∀ callee given, (callee, given) ∈ body.calls →
        ∀ arity inner, left.backend.definition? callee = some (arity, inner) →
          given = arity ∨ ExcusedWithin (withEvaluator settings platform operators cursor) count
            caller callee) ∧
      (∀ callee arity given, .running (.staleArity callee arity given) ∈ left.complaints →
        ∃ caller, ExcusedWithin (withEvaluator settings platform operators cursor) count
          caller callee) ∧
      (∀ position loaded, right.backend.linker.image[position]? = some loaded →
        ∀ routine ∈ loaded.unit.routines, ∀ block, routine.block = some block →
        ∀ callee given, (callee, given) ∈ block.calls →
        ∀ target parameters content,
          Linker.bound? right.backend.linker.image position callee = some target →
          right.backend.linker.image[target]?.bind (·.unit.block? callee) =
            some (parameters, content) →
          parameters.length = given ∨ ExcusedWithin (withGenerator settings platform operators level
            cursor) count routine.symbol callee) := by
  obtain ⟨paired, start⟩ := paired_begin settings platform operators level cursor _
  obtain ⟨left, right, reached, reachedToo, paired, _⟩ := paired.steps start count
  have settled := paired.coupled.settled
  refine ⟨left, right, reached, reachedToo, ?_, ?_, ?_⟩
  · intro unit member caller prototype body code found callee given made arity inner live
    obtain ⟨name, header, tree, resolved, honours⟩ := settled.live unit member
    obtain rfl := honours.bears.sole caller _ found (by simp)
    rw [honours.bears.found] at found
    cases found
    have fits := settled.fits_of_sanctioned (honours.sanctioned _ made) live
    exact fits.imp Eq.symm And.left
  · intro callee arity given complained
    obtain ⟨caller, excuse⟩ := paired.stale callee arity given complained
    exact ⟨caller, excuse.1⟩
  · exact paired.coupled.fits.weaken fun _ _ => And.right

/-- A refused definition leaves a declaration over, and a function that calls it is accepted. The
next definition of the name has a parameter. Then the call does not fit in the evaluator, where it
is reported, nor in the image. -/
theorem left_over_misfits :
    let cursor := Cursor.start "" "def f() z; def g() f(); def f(x) x; g();".toList
    (∃ left, steps 7 (withEvaluator .quiet .doubles .standard cursor) = .ok () left ∧
      (left.backend.live.filterMap fun unit => (unit.functions.get? "g").bind (·.body)).map
        (fun body => body.1.calls) = [[("f", 0)]] ∧
      (left.backend.definition? "f").map Prod.fst = some 1 ∧
      left.complaints.map Complaint.message =
        ["Unknown variable name 'z'", "'f' expects 1 argument(s), was called with 0"]) ∧
    ∃ right, steps 7 (withGenerator .quiet .doubles .standard 0 cursor) = .ok () right ∧
      (right.backend.linker.image[0]?.bind (·.unit.block? "g")).map (·.2.calls) = some [("f", 0)] ∧
      Linker.bound? right.backend.linker.image 0 "f" = some 1 ∧
      (right.backend.linker.image[1]?.bind (·.unit.block? "f")).map (·.1.length) = some 1 :=
  ⟨exists_end (by decide +kernel), exists_end (by decide +kernel)⟩

end Dialogue

end Reckon
