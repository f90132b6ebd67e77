import Reckon.Proofs.Dialogue.Judgements
import Reckon.Proofs.Evaluator.Leftovers
import Reckon.Proofs.Node.Lines
import Reckon.Proofs.Reading.Prototypes

/-!
# What is shown of a definition

A definition that compiles is shown by its handle. The function of the handle may have
stood in the open unit before, brought there by a declaration, by a definition that was
refused, or by a call, and it keeps the prototype that it came with. So the text has the
parameters of that prototype above the body that was just compiled, and is the text of
the definition only if both name their parameters alike.
-/

namespace Reckon

/-! ## Prototypes of words -/

/-- The parameters are words. -/
def Prototype.Worded (prototype : Prototype) : Prop :=
  ∀ parameter ∈ prototype.parameters, IsWord parameter

/-- The prototype of a unit. -/
def ProgramUnit.prototype : ProgramUnit → Prototype
  | .definition function => function.prototype
  | .declaration prototype => prototype
  | .expression function => function.prototype

/-- Identifiers are words. -/
theorem Prototype.Identified.worded {prototype : Prototype} (identified : prototype.Identified) :
    prototype.Worded := fun parameter member =>
  isWord_of_isIdentifier (identified parameter (List.mem_cons_of_mem _ member))

/-- Units are read with words as parameters. -/
theorem Cursor.readUnit_worded {operators : Operators} {cursor after : Cursor} {unit : ProgramUnit}
    (reads : cursor.readUnit operators = .parsed unit after) : unit.prototype.Worded := by
  have identified := readUnit_identified reads
  have spelled := readUnit_spelled reads
  cases unit with
  | definition function => exact Prototype.Identified.worded identified
  | declaration prototype => exact Prototype.Identified.worded identified
  | expression function =>
    obtain ⟨body, _, rfl⟩ := spelled
    exact nofun

/-- Prototypes of words have the same prefix form only if they have the same parameters. -/
theorem Prototype.listed_eq_iff {left right : Prototype} (name : left.name = right.name)
    (word : IsWord right.name) (worded : left.Worded) (wordedToo : right.Worded) :
    left.listed = right.listed ↔ left.parameters = right.parameters := by
  have inner : left.Inner := List.forall_mem_cons.mpr
    ⟨inner_of_isWord (name ▸ word), fun parameter among => inner_of_isWord (worded parameter among)⟩
  have innerToo : right.Inner := List.forall_mem_cons.mpr
    ⟨inner_of_isWord word, fun parameter among => inner_of_isWord (wordedToo parameter among)⟩
  rw [Prototype.listed_eq_iff_names inner innerToo]
  exact and_iff_right name

/-! ## Names of bodies -/

mutual

/-- The names that an expression refers to, as they occur. -/
def Node.references : Node → List String
  | .reference name _ => [name]
  | .binary _ left right _ => left.references ++ right.references
  | .call _ arguments _ => referencesOfNodes arguments
  | .number .. | .prototype .. | .definition .. => []

/-- The names that a row of expressions refers to, as they occur. -/
def referencesOfNodes : List Node → List String
  | [] => []
  | node :: rest => node.references ++ referencesOfNodes rest

end

/-- A name is referred to in a row of trees if it is in one of them. -/
theorem mem_referencesOfNodes {name : String} {nodes : List Node} :
    name ∈ referencesOfNodes nodes ↔ ∃ node ∈ nodes, name ∈ node.references := by
  induction nodes with
  | nil => simp [referencesOfNodes]
  | cons node rest inductionHypothesis => simp [referencesOfNodes, inductionHypothesis]

/-- A well-formed body refers to parameters. -/
theorem Node.WellFormed.references_subset {callable? : String → Option Nat}
    {parameters : List String} {node : Node} (formed : node.WellFormed callable? parameters) :
    node.references ⊆ parameters := by
  induction formed with
  | number => exact List.nil_subset _
  | reference location parameter =>
    rw [Node.references, List.cons_subset]
    exact ⟨parameter, List.nil_subset _⟩
  | binary location _ _ _ inLeft inRight =>
    rw [Node.references, List.append_subset]
    exact ⟨inLeft, inRight⟩
  | call location _ _ inArguments =>
    intro name member
    obtain ⟨argument, present, occurs⟩ := mem_referencesOfNodes.mp member
    exact inArguments argument present occurs

/-! ## What stands in the open unit -/

namespace Dialogue

open Reckon.Action Evaluator

/-- Recorded prototypes, and those of the open unit, have words as parameters, and functions of the
open unit stand under their names. -/
structure OfWords (dialogue : Dialogue Evaluator) : Prop where
  recorded (name : String) (known : Prototype)
    (finds : dialogue.session.find? name = some known) : known.Worded
  opened (entry : String × Function) (member : entry ∈ dialogue.backend.declarations) :
    entry.2.prototype.name = entry.1 ∧ entry.2.prototype.Worded

namespace OfWords

variable {dialogue after : Dialogue Evaluator}

/-- What is recorded of words keeps all of words. -/
theorem record (words : dialogue.OfWords) {prototype : Prototype} (worded : prototype.Worded) :
    ({ dialogue with session := dialogue.session.record prototype } :
      Dialogue Evaluator).OfWords := by
  refine { words with recorded := fun name known finds => ?_ }
  rw [Session.find?_record] at finds
  split at finds
  · cases finds
    exact worded
  · exact words.recorded name known finds

/-- Declarations of words keep all of words. -/
theorem adds (words : dialogue.OfWords) {kind : String × Function → Prop} {backend : Evaluator}
    (adds : Adds kind dialogue.backend backend)
    (worded : ∀ entry, kind entry → entry.2.prototype.name = entry.1 ∧ entry.2.prototype.Worded) :
    ({ dialogue with backend } : Dialogue Evaluator).OfWords :=
  { words with opened := adds.extended.forall_mem words.opened worded }

/-- An empty unit holds nothing but words. -/
theorem emptied (words : dialogue.OfWords) {backend : Evaluator}
    (empty : backend.declarations = []) :
    ({ dialogue with backend } : Dialogue Evaluator).OfWords := by
  refine { words with opened := fun entry member => ?_ }
  rw [empty] at member
  cases member

/-- Nothing is declared in the unit that is opened after handing off. -/
theorem declarations_of_handOff {compiled closed : Evaluator} {unit : Nat}
    (handsOff : (Backend.handOff : Action Evaluator Nat) compiled = .ok unit closed) :
    closed.declarations = [] := by
  cases handsOff
  rfl

/-- Running functions and giving units up does not touch the open unit. -/
theorem declarations_of_release {platform : Platform} {handle : Handle} {unit : Nat}
    {closed executed released : Evaluator} (empty : closed.declarations = [])
    (executes : (∃ value, execute platform handle [] closed = .ok value executed) ∨
      ∃ fault, execute platform handle [] closed = .error fault executed)
    (releases : release unit executed = .ok () released) : released.declarations = [] := by
  have runs : Keeps (fun evaluator : Evaluator => evaluator.declarations = [])
      (execute platform handle []) := execute_keeps platform handle []
  have ran : executed.declarations = [] := by
    rcases executes with ⟨value, done⟩ | ⟨fault, failed⟩
    · exact runs.of_ok done empty
    · exact runs.of_error failed empty
  have gives : Keeps (fun evaluator : Evaluator => evaluator.declarations = [])
      (release unit) := by
    intro evaluator empty
    unfold release
    apply ensures_get
    cases evaluator.live.find? (·.number = unit) <;> exact empty
  exact gives.of_ok releases ran

/-- What a unit of words is taken in for keeps all of words. -/
theorem takes (words : dialogue.OfWords) {unit : ProgramUnit} (worded : unit.prototype.Worded)
    (takes : Takes dialogue unit after) : after.OfWords := by
  have refused {function : Definition} {fault : Fault} {compiled : Evaluator}
      (worded : function.prototype.Worded)
      (refuses : define dialogue.session function dialogue.backend = .error fault compiled) :
      ({ dialogue with backend := compiled } : Dialogue Evaluator).OfWords := by
    apply words.adds (define_adds refuses)
    rintro entry (rfl | ⟨name, _, known, finds, rfl⟩)
    · exact ⟨rfl, worded⟩
    · exact ⟨rfl, words.recorded name known finds⟩
  cases takes with
  | defined defines handsOff =>
    exact (words.emptied (declarations_of_handOff handsOff)).record worded
  | definitionRefused refuses reported =>
    have kept := refused worded refuses
    exact ⟨kept.recorded, kept.opened⟩
  | definitionRejected defines rejects reported => cases rejects
  | @declared prototype handle backend declares =>
    have adds := declare_adds dialogue.session prototype dialogue.backend
    change declare _ _ _ = _ at declares
    rw [Ensures, declares] at adds
    have kept : OfWords { dialogue with backend } := by
      apply words.adds adds
      rintro entry rfl
      exact ⟨rfl, worded⟩
    exact kept.record worded
  | @declarationRefused prototype fault complaint backend refuses reported =>
    have adds := declare_adds dialogue.session prototype dialogue.backend
    change declare _ _ _ = _ at refuses
    rw [Ensures, refuses] at adds
    obtain rfl := adds
    exact ⟨words.recorded, words.opened⟩
  | evaluated defines handsOff executes releases =>
    have kept := words.emptied (declarations_of_release (declarations_of_handOff handsOff)
      (.inl ⟨_, executes⟩) releases)
    exact ⟨kept.recorded, kept.opened⟩
  | failed defines handsOff fails reported releases =>
    have kept := words.emptied (declarations_of_release (declarations_of_handOff handsOff)
      (.inr ⟨_, fails⟩) releases)
    exact ⟨kept.recorded, kept.opened⟩
  | expressionRefused refuses reported =>
    have kept := refused worded refuses
    exact ⟨kept.recorded, kept.opened⟩
  | expressionRejected defines rejects reported => cases rejects

/-- A step keeps all of words. -/
theorem turns (words : dialogue.OfWords) {more : Bool} (turns : Turns dialogue more after) :
    after.OfWords := by
  cases turns with
  | finished | separated | malformed => exact ⟨words.recorded, words.opened⟩
  | @took unit cursor _ _ _ reads takes =>
    have moved : OfWords { dialogue with started := true, cursor } :=
      ⟨words.recorded, words.opened⟩
    exact moved.takes (Cursor.readUnit_worded reads) takes

/-- So do all steps of a run. -/
theorem steps {settings : Settings} {platform : Platform} {operators : Operators} {cursor : Cursor}
    {count : Nat}
    (reached : steps count (withEvaluator settings platform operators cursor) = .ok () dialogue) :
    dialogue.OfWords := by
  induction count generalizing dialogue with
  | zero =>
    cases reached
    exact ⟨nofun, nofun⟩
  | succ count inductionHypothesis =>
    obtain ⟨before, more, reachedBefore, stepped⟩ := steps_succ_eq_ok_iff.mp reached
    have accompanied := accompanied_withEvaluator settings platform operators cursor
    obtain ⟨there, reachedThere, accompaniedThere⟩ := accompanied.steps count
    rw [reachedBefore] at reachedThere
    cases reachedThere
    obtain ⟨_, last, output, turns, _, ended⟩ := accompaniedThere.turns
    rw [stepped] at ended
    cases ended
    have kept := (inductionHypothesis reachedBefore).turns turns
    exact ⟨kept.recorded, kept.opened⟩

end OfWords

/-! ## What is shown -/

/-- The prototype that the function of the name has in the open unit, or the one given if there is
no such function. -/
def standing (evaluator : Evaluator) (prototype : Prototype) : Prototype :=
  ((evaluator.current.functions.get? prototype.name).map (·.prototype)).getD prototype

/-- **A definition is shown under the prototype that stands in the open unit.** Whenever a run of
the evaluator comes to a definition that compiles, the text of its handle is that of the definition with
the standing prototype in the place of its own. Both prototypes have the same name and the same
number of parameters, and the text is that of the definition exactly if they name the parameters
alike. The names in the body are parameters of the definition. -/
theorem shown_under_standing_prototype {settings : Settings} {platform : Platform}
    {operators : Operators} {cursor after : Cursor} {count : Nat} {dialogue : Dialogue Evaluator}
    {function : Definition} {handle : Handle} {compiled : Evaluator}
    (reached : Dialogue.steps count (withEvaluator settings platform operators cursor) =
      .ok () dialogue)
    (reads : dialogue.cursor.readUnit dialogue.session.operators =
      .parsed (.definition function) after)
    (defines : define dialogue.session function dialogue.backend = .ok handle compiled) :
    let shown := standing dialogue.backend function.prototype
    shown.name = function.prototype.name ∧ shown.arity = function.prototype.arity ∧
    Definition.listed { function with prototype := shown } = .ok (Backend.dump compiled handle) ∧
    (function.listed = .ok (Backend.dump compiled handle) ↔
      shown.parameters = function.prototype.parameters) ∧
    function.body.references ⊆ function.prototype.parameters := by
  obtain ⟨word, spelled⟩ := Cursor.readUnit_spelled reads
  have worded : function.prototype.Worded := Cursor.readUnit_worded reads
  obtain ⟨_, _, coupled⟩ := coupled_of_steps _ _ _ _ reached
  have words := OfWords.steps reached
  have reports := reports_of_coupled coupled (wellRecorded_of_steps reached) spelled
  rw [Reports, Ensures, defines] at reports
  obtain ⟨faultless, accepts⟩ := reports
  have formed := (function.wellFormed_iff _ spelled).mpr faultless
  obtain ⟨code, _, found⟩ := accepts.compiled
  obtain ⟨body, written⟩ := spelled.expressionText_ok
  intro shown
  obtain ⟨name, arity, wordedToo⟩ : shown.name = function.prototype.name ∧
      shown.arity = function.prototype.arity ∧ shown.Worded := by
    cases there : dialogue.backend.current.functions.get? function.prototype.name with
    | none =>
      have itself : shown = function.prototype := by simp [shown, standing, there]
      rw [itself]
      exact ⟨rfl, rfl, worded⟩
    | some stands =>
      have itself : shown = stands.prototype := by simp [shown, standing, there]
      obtain ⟨named, words⟩ := words.opened _ (Catalog.mem_of_find? there)
      rw [itself]
      refine ⟨named, formed.prototype.opened _ ?_, words⟩
      rw [opened_of, there]
      rfl
  have text : Backend.dump compiled handle = "(def " ++ shown.listed ++ " " ++ body ++ ")" := by
    have header : ((dialogue.backend.current.functions.get? function.prototype.name).getD
        { prototype := function.prototype, body := none }).prototype = shown := by
      simp only [shown, standing]
      cases dialogue.backend.current.functions.get? function.prototype.name <;> rfl
    have listed := @Definition.listed_of_body ⟨shown, function.body, none⟩ body written
    change dump compiled handle = _
    simp only [dump, found, header, Definition.line, listed]
  refine ⟨name, arity, ?_, ?_, formed.body.references_subset⟩
  · rw [text]
    exact @Definition.listed_of_body { function with prototype := shown } body written
  · rw [Definition.listed_of_body written, text, ← Prototype.listed_eq_iff name word wordedToo
      worded]
    simp only [Except.ok.injEq, ← String.toList_inj, String.toList_append,
      List.append_cancel_right_eq, List.append_cancel_left_eq]
    exact eq_comm

/-- The definition that is read next, if it compiles: with its text and the text of its handle. -/
def shown? (dialogue : Dialogue Evaluator) : Option (Definition × String × String) :=
  match dialogue.cursor.readUnit dialogue.session.operators with
  | .parsed (.definition function) _ =>
    match function.listed, define dialogue.session function dialogue.backend with
    | .ok text, .ok handle compiled => some (function, text, Backend.dump compiled handle)
    | _, _ => none
  | _ => none

/-- The definition that is shown next is read, compiles, and has the text and the echo that were
found. -/
theorem reads_of_shown? {dialogue : Dialogue Evaluator} {function : Definition}
    {text echo : String} (found : dialogue.shown? = some (function, text, echo)) :
    ∃ after handle compiled,
      dialogue.cursor.readUnit dialogue.session.operators = .parsed (.definition function) after ∧
      define dialogue.session function dialogue.backend = .ok handle compiled ∧
      function.listed = .ok text ∧ Backend.dump compiled handle = echo := by
  unfold shown? at found
  split at found
  case h_2 => cases found
  case h_1 other after reads =>
    split at found
    case h_2 => cases found
    case h_1 text handle compiled listed defines =>
      cases found
      exact ⟨after, handle, compiled, reads, defines, listed, rfl⟩

/-- A definition that was refused leaves its prototype, and the next one of the name is shown under
it: with the names of its parameters swapped. -/
theorem shown_under_standing_prototype_swapped :
    let cursor := Cursor.start "" "def f(a b) z; def f(b a) a - b;".toList
    ∃ dialogue function after handle compiled,
      steps 2 (withEvaluator .quiet .doubles .standard cursor) = .ok () dialogue ∧
      dialogue.cursor.readUnit dialogue.session.operators =
        .parsed (.definition function) after ∧
      define dialogue.session function dialogue.backend = .ok handle compiled ∧
      function.listed = .ok "(def (f b a) (- a b))" ∧
      Backend.dump compiled handle = "(def (f a b) (- a b))" ∧
      (standing dialogue.backend function.prototype).parameters ≠
        function.prototype.parameters := by
  intro cursor
  obtain ⟨dialogue, reached, test⟩ : ∃ dialogue,
      steps 2 (withEvaluator .quiet .doubles .standard cursor) = .ok () dialogue ∧
      dialogue.shown?.any (·.2 = ("(def (f b a) (- a b))", "(def (f a b) (- a b))")) = true :=
    exists_end (by decide +kernel)
  obtain ⟨⟨function, text, echo⟩, found, texts⟩ := (Option.any_eq_true ..).mp test
  cases of_decide_eq_true texts
  obtain ⟨after, handle, compiled, reads, defines, listed, dumped⟩ := reads_of_shown? found
  obtain ⟨_, _, _, exactly, _⟩ := shown_under_standing_prototype reached reads defines
  refine ⟨dialogue, function, after, handle, compiled, reached, reads, defines, listed, dumped, ?_⟩
  intro same
  have shown := exactly.mpr same
  rw [listed, dumped] at shown
  exact absurd (Except.ok.inj shown) (by decide)

/-- After a declaration with another name for its parameter, a definition is shown with a variable
that is no parameter. -/
theorem shown_with_unbound_variable :
    let cursor := Cursor.start "" "extern f(a); def f(x) x;".toList
    ∃ dialogue function after handle compiled,
      steps 2 (withEvaluator .quiet .doubles .standard cursor) = .ok () dialogue ∧
      dialogue.cursor.readUnit dialogue.session.operators =
        .parsed (.definition function) after ∧
      define dialogue.session function dialogue.backend = .ok handle compiled ∧
      function.listed = .ok "(def (f x) x)" ∧ Backend.dump compiled handle = "(def (f a) x)" := by
  intro cursor
  obtain ⟨dialogue, reached, test⟩ : ∃ dialogue,
      steps 2 (withEvaluator .quiet .doubles .standard cursor) = .ok () dialogue ∧
      dialogue.shown?.any (·.2 = ("(def (f x) x)", "(def (f a) x)")) = true :=
    exists_end (by decide +kernel)
  obtain ⟨⟨function, text, echo⟩, found, texts⟩ := (Option.any_eq_true ..).mp test
  cases of_decide_eq_true texts
  obtain ⟨after, handle, compiled, reads, defines, listed, dumped⟩ := reads_of_shown? found
  exact ⟨dialogue, function, after, handle, compiled, reached, reads, defines, listed, dumped⟩

end Dialogue

end Reckon
