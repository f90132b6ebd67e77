import Mathlib
import Reckon.Proofs.Dialogue.Judgements
import Reckon.Proofs.Reading.Mentions

/-!
# Where errors are located

A violation in an expression is something that is wrong with one of its parts, and it is
reported at the place of that part. In a body that was read the part stands for one token, so the
report points at this token. Only a second body of a function is refused as a whole; then the
place is that of the token at its root.
-/

namespace Reckon

/-- What can be wrong with a part of an expression by itself. -/
inductive Node.Offends (callable? : String → Option Nat) (parameters : List String) :
    Node → CompileError → Prop
  | unknownVariable {name : String} (location : Option Location) (absent : name ∉ parameters) :
      Offends callable? parameters (.reference name location) (.unknownVariable name)
  | invalidOperator {operator : String} (left right : Node) (location : Option Location)
      (meaningless : operator ∉ meaningfulOperators) :
      Offends callable? parameters (.binary operator left right location)
        (.invalidOperator operator)
  | unknownFunction {callee : String} (arguments : List Node) (location : Option Location)
      (unknown : callable? callee = none) :
      Offends callable? parameters (.call callee arguments location) (.unknownFunction callee)
  | arityMismatch {callee : String} {arity : Nat} {arguments : List Node}
      (location : Option Location) (known : callable? callee = some arity)
      (differs : arity ≠ arguments.length) :
      Offends callable? parameters (.call callee arguments location)
        (.arityMismatch callee arity arguments.length)

namespace Node

/-- A violation in a row of trees is one in one of the trees. -/
theorem exists_of_mem_violationsOfAll {callable? : String → Option Nat} {parameters : List String}
    {violation : Violation} {nodes : List Node}
    (among : violation ∈ violationsOfAll callable? parameters nodes) :
    ∃ node ∈ nodes, violation ∈ node.violations callable? parameters := by
  induction nodes with
  | nil => cases among
  | cons first rest inductionHypothesis =>
    rw [violationsOfAll, List.mem_append] at among
    rcases among with itself | later
    · exact ⟨first, List.mem_cons_self, itself⟩
    · obtain ⟨node, member, inside⟩ := inductionHypothesis later
      exact ⟨node, List.mem_cons_of_mem first member, inside⟩

/-- What a tree mentions, it mentions at its own place. -/
theorem location_of_mention? {part : Node} {token : Token}
    (mentions : part.mention? = some token.mention) : part.location = some token.location := by
  cases part with
  | number | reference | binary | call =>
    exact congrArg Mention.location (Option.some.inj mentions)
  | prototype | definition => cases mentions

end Node

/-- A violation is told if its rule is broken, and no other is. -/
theorem mem_violationIf {broken : Prop} [Decidable broken] {error : CompileError}
    {location : Option Location} {violation : Violation} :
    violation ∈ violationIf broken error location ↔ broken ∧ violation = ⟨error, location⟩ := by
  unfold violationIf
  split <;> simp [*]

/-- **Every violation in an expression is that of a part, at its place.** -/
theorem Node.offends_of_mem_violations {callable? : String → Option Nat} {parameters : List String}
    {violation : Violation} {tree : Node}
    (among : violation ∈ tree.violations callable? parameters) :
    ∃ part ∈ tree.parts, part.location = violation.location ∧
      part.Offends callable? parameters violation.error := by
  induction tree using Node.byParts with
  | number | prototype | definition => cases among
  | reference name location =>
    rw [violations] at among
    obtain ⟨absent, rfl⟩ := mem_violationIf.mp among
    exact ⟨_, List.mem_singleton_self _, rfl, .unknownVariable location absent⟩
  | binary operator left right location inLeft inRight =>
    rw [violations, List.mem_append, List.mem_append] at among
    simp only [parts, List.mem_append, List.mem_cons]
    rcases among with (before | behind) | itself
    · obtain ⟨part, inside, offends⟩ := inLeft before
      exact ⟨part, .inl inside, offends⟩
    · obtain ⟨part, inside, offends⟩ := inRight behind
      exact ⟨part, .inr (.inr inside), offends⟩
    · obtain ⟨meaningless, rfl⟩ := mem_violationIf.mp itself
      exact ⟨_, .inr (.inl rfl), rfl, .invalidOperator left right location meaningless⟩
  | call callee arguments location each =>
    rw [violations, List.mem_append] at among
    rw [parts]
    rcases among with itself | inArguments
    · refine ⟨_, List.mem_cons_self, ?_⟩
      cases known : callable? callee with
      | none =>
        rw [known] at itself
        obtain rfl := List.mem_singleton.mp itself
        exact ⟨rfl, .unknownFunction arguments location known⟩
      | some arity =>
        rw [known] at itself
        obtain ⟨differs, rfl⟩ := mem_violationIf.mp itself
        exact ⟨rfl, .arityMismatch location known differs⟩
    · obtain ⟨argument, member, inside⟩ := exists_of_mem_violationsOfAll inArguments
      obtain ⟨part, partOf, offends⟩ := each argument member inside
      exact ⟨part, List.mem_cons_of_mem _ (mem_partsOfAll member partOf), offends⟩

/-- A member of one of two lists that look alike has a partner in the other. -/
theorem exists_mem_zip_of_map_eq {α β γ : Type} {left : List α} {right : List β} {look : α → γ}
    {lookToo : β → γ} (same : left.map look = right.map lookToo) {member : α}
    (among : member ∈ left) :
    ∃ partner, (member, partner) ∈ left.zip right ∧ look member = lookToo partner := by
  induction left generalizing right with
  | nil => cases among
  | cons first rest inductionHypothesis =>
    cases right with
    | nil => cases same
    | cons partner others =>
      obtain ⟨alike, rest⟩ := List.cons.inj same
      rcases List.mem_cons.mp among with rfl | later
      · exact ⟨partner, List.mem_cons_self, alike⟩
      · obtain ⟨partnerToo, pair, alikeToo⟩ := inductionHypothesis rest later
        exact ⟨partnerToo, List.mem_cons_of_mem _ pair, alikeToo⟩

/-- An error about a function points at one of the tokens in its body: the body has a part that was
read from the token, and the part offends or is the whole body of a function that has one. -/
def Definition.PointsInto (surroundings : Surroundings) (function : Definition)
    (tokens : List Token) (violation : Violation) : Prop :=
  ∃ part token, (part, token) ∈ function.body.parts.zip tokens ∧
    part.mention? = some token.mention ∧ violation.location = some token.location ∧
    (part.Offends (surroundings.callable? function.prototype) function.prototype.parameters
        violation.error ∨
      part = function.body ∧ function.prototype.name ∈ surroundings.defined ∧
        violation.error = .redefinition function.prototype.name)

/-- A tree that was read is one of its own parts. -/
theorem Node.Spelled.mem_parts {tree : Node} (spelled : tree.Spelled) : tree ∈ tree.parts := by
  cases spelled <;> simp [Node.parts]

/-- Every violation is one in the prototype, or it points at a token of the body. -/
theorem Definition.pointsInto_of_mem {surroundings : Surroundings} {function : Definition}
    (spelled : function.body.Spelled) {tokens : List Token}
    (same : function.body.parts.map Node.mention? = tokens.map fun token => some token.mention)
    {violation : Violation} (among : violation ∈ function.violations surroundings) :
    violation ∈ function.prototype.violations surroundings ∨
      function.PointsInto surroundings tokens violation := by
  rw [violations, List.mem_append, List.mem_append] at among
  rcases among with (header | itself) | inBody
  · exact .inl header
  · obtain ⟨⟨defined, _⟩, rfl⟩ := mem_violationIf.mp itself
    obtain ⟨token, pair, mentions⟩ := exists_mem_zip_of_map_eq same spelled.mem_parts
    exact .inr ⟨function.body, token, pair, mentions, Node.location_of_mention? mentions,
      .inr ⟨rfl, defined, rfl⟩⟩
  · obtain ⟨part, inside, place, offends⟩ := Node.offends_of_mem_violations inBody
    obtain ⟨token, pair, mentions⟩ := exists_mem_zip_of_map_eq same inside
    exact .inr ⟨part, token, pair, mentions, place ▸ Node.location_of_mention? mentions,
      .inl offends⟩

/-- Every error that defining the function ends with is one in the prototype, or it points at one of
the tokens. -/
def Definition.Located {β : Type} [Backend β] (session : Session) (backend : β)
    (function : Definition) (tokens : List Token) : Prop :=
  ∀ error location after,
    define session function backend = .error (.compile error location) after →
    ⟨error, location⟩ ∈ function.prototype.violations (.of session backend) ∨
      function.PointsInto (.of session backend) tokens ⟨error, location⟩

/-- If a function is judged by its violations, and its parts were read from tokens, its errors point
at one of these. -/
theorem Judged.located {β : Type} [Backend β] {session : Session} {backend : β}
    {function : Definition} (judged : Judged session backend function)
    (spelled : function.body.Spelled) {tokens : List Token}
    (same : function.body.parts.map Node.mention? = tokens.map fun token => some token.mention) :
    function.Located session backend tokens := by
  intro error location after refused
  have first := (judged.refused _).mp ⟨after, refused⟩
  obtain ⟨violation, head, reported⟩ := Option.map_eq_some_iff.mp first
  obtain rfl : violation = ⟨error, location⟩ := by
    cases violation
    cases reported
    rfl
  exact Definition.pointsInto_of_mem spelled same (List.mem_of_head? head)

namespace Dialogue

section

variable (function : Definition) (spelled : function.body.Spelled) (settings : Settings)
  (platform : Platform) (operators : Operators) (level : Nat) (cursor : Cursor)
  (reasons : Nat → Option String) (count : Nat)

include spelled

/-- Wherever a dialogue with a generator comes, functions are judged by their violations. -/
theorem judged_withGenerator (nameable : Nameable function.prototype.name) :
    ∃ dialogue,
      stepsRefusing reasons count (withGenerator settings platform operators level cursor) =
        .ok () dialogue ∧
      Judged dialogue.session dialogue.backend function := by
  have shadowed := shadowed_withGenerator settings platform operators level cursor
  obtain ⟨dialogue, run⟩ := recordedRun rfl (wellRecorded_newSession operators)
    (shadowed.leads reasons) count
  obtain ⟨evaluator, shadowedThere⟩ := shadowed.of_steps run.reached
  exact ⟨dialogue, run.reached, judged_of_shadowed shadowedThere run.recorded nameable spelled⟩

/-- Wherever a dialogue with an evaluator comes, functions are judged by their violations. -/
theorem judged_withEvaluator :
    ∃ dialogue, steps count (withEvaluator settings platform operators cursor) = .ok () dialogue ∧
      Judged dialogue.session dialogue.backend function := by
  obtain ⟨dialogue, run⟩ := recordedRun rfl (wellRecorded_newSession operators)
    (accompanied_withEvaluator settings platform operators cursor).leads count
  obtain ⟨_, _, coupled⟩ := coupled_of_steps settings platform operators cursor run.reached
  exact ⟨dialogue, run.reached,
    judged_of_reports spelled (reports_of_coupled coupled run.recorded spelled)⟩

end

/-- **No token is lost, doubled or moved by reading an expression, and errors point at the tokens
they are about.** The parts of the tree, in the order in which they are written, mention exactly
what the tokens do that were passed, parentheses and commas left out. Whatever function gets the
tree as its body, in whatever state a dialogue has come to with either back end: an error that
defining it ends with lies in the prototype, or it is located at the token that the offending part
was read from. -/
theorem tokens_become_parts {operators : Operators} (registered : operators.Registered)
    {cursor after : Cursor} {body : Node}
    (parsed : cursor.readExpression operators = .parsed body after) :
    ∃ passed, cursor.Passes passed after ∧
      body.parts.map Node.mention? = (bearing passed).map (fun token => some token.mention) ∧
      ∀ (header : Prototype) (place : Option Location), Nameable header.name →
      ∀ (settings : Settings) (platform : Platform) (table : Operators) (level : Nat)
        (program : Cursor) (reasons : Nat → Option String) (count : Nat),
        (∃ dialogue,
          steps count (withEvaluator settings platform table program) = .ok () dialogue ∧
          Definition.Located dialogue.session dialogue.backend ⟨header, body, place⟩
            (bearing passed)) ∧
        ∃ dialogue,
          stepsRefusing reasons count (withGenerator settings platform table level program) =
            .ok () dialogue ∧
          Definition.Located dialogue.session dialogue.backend ⟨header, body, place⟩
            (bearing passed) := by
  obtain ⟨passed, passage, same⟩ := Cursor.readExpression_spends registered parsed
  have spelled : body.Spelled :=
    Cursor.read_yields Node.Spelled ((Reader.spells operators _).expression cursor) parsed
  refine ⟨passed, passage, same, ?_⟩
  intro header place nameable settings platform table level program reasons count
  constructor
  · obtain ⟨dialogue, reached, judged⟩ :=
      judged_withEvaluator ⟨header, body, place⟩ spelled settings platform table program count
    exact ⟨dialogue, reached, judged.located spelled same⟩
  · obtain ⟨dialogue, reached, judged⟩ :=
      judged_withGenerator ⟨header, body, place⟩ spelled settings platform table level program
        reasons count nameable
    exact ⟨dialogue, reached, judged.located spelled same⟩

/-- A body with a call and a parenthesised sum, for a function of one parameter. -/
theorem tokens_become_parts_product :
    let place (column : Nat) : Option Location :=
      some { file := "", line := 1, column, offset := column - 1 }
    let cursor := Cursor.start "" "g(x)*(y+x)".toList
    let body : Node := .binary "*" (.call "g" [.reference "x" (place 3)] (place 1))
      (.binary "+" (.reference "y" (place 7)) (.reference "x" (place 9)) (place 8)) (place 5)
    let after : Cursor := { file := "", rest := [], line := 1, column := 10, offset := 9 }
    let header : Prototype := { name := "f", parameters := ["x"], location := none }
    Operators.standard.Registered ∧ Nameable header.name ∧
      cursor.readExpression .standard = .parsed body after ∧
      ∃ passed, cursor.Passes passed after ∧
        body.parts.map Node.mention? = (bearing passed).map (fun token => some token.mention) ∧
        ∃ dialogue,
          steps 2 (withEvaluator .quiet .doubles .standard (.start "" "extern g(a b);".toList)) =
            .ok () dialogue ∧
          Definition.Located dialogue.session dialogue.backend ⟨header, body, none⟩
            (bearing passed) := by
  intro place cursor body after header
  have word : ∀ c ∈ header.name.toList, isWordPart c = true :=
    List.all_eq_true.mp (by decide +kernel)
  have nameable : Nameable header.name := .inl ⟨by decide, word⟩
  have parsed : cursor.readExpression .standard = .parsed body after := by cbv
  obtain ⟨passed, passage, same, located⟩ := tokens_become_parts .standard parsed
  exact ⟨.standard, nameable, parsed, passed, passage, same,
    (located header none nameable .quiet .doubles .standard 0 _ (fun _ => none) 2).1⟩

end Dialogue

end Reckon
