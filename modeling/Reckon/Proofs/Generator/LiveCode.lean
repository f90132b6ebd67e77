import Mathlib.Data.List.Induction
import Reckon.Platform.Doubles
import Reckon.Proofs.Generator.Requests

/-!
# Calls into units that are gone

When units are materialized, each of their calls is answered by a live definition or by
the host. Whoever looks a function up is told its place if the function itself is live;
what its calls lead to is not looked at again. So everything that calls lead to is live or
the host's, unless a request has released the last live definition of a function that a
unit which stayed materialized requires. Such a call still goes where it was bound when it
was loaded, into a unit that has been released.
-/

namespace Reckon

open Reckon.Action

namespace Linker

/-- The functions that the calls of a function lead to through the given units. -/
inductive Leads (units : List CompiledUnit) (name : String) : String → Prop
  | directly {unit : CompiledUnit} {needed : String} (member : unit ∈ units)
      (defines : name ∈ unit.defined) (requires : needed ∈ unit.required) :
      Leads units name needed
  | onward {middle needed : String} {unit : CompiledUnit} (leads : Leads units name middle)
      (member : unit ∈ units) (defines : middle ∈ unit.defined)
      (requires : needed ∈ unit.required) : Leads units name needed

/-- What a materialized unit requires is live, the host's, or excused. -/
def Supported (platform : Platform) (excused : String → Prop) (linker : Linker) : Prop :=
  ∀ unit ∈ linker.materialized, ∀ name ∈ unit.required,
    name ∈ linker.liveDefinitions ∨ platform.provides name = true ∨ excused name

namespace Supported

variable {platform : Platform} {excused : String → Prop} {linker : Linker}

/-- More may be excused. -/
theorem weaken (supported : Supported platform excused linker) {more : String → Prop}
    (among : ∀ name, excused name → more name) : Supported platform more linker :=
  fun unit member name requires =>
    (supported unit member name requires).imp_right (Or.imp_right (among name))

/-- Everything that calls lead to is live, the host's, or excused. -/
theorem of_leads (supported : Supported platform excused linker) {name needed : String}
    (leads : Leads linker.materialized name needed) :
    needed ∈ linker.liveDefinitions ∨ platform.provides needed = true ∨ excused needed := by
  cases leads with
  | directly member _ requires => exact supported _ member _ requires
  | onward _ member _ requires => exact supported _ member _ requires

/-- The units that are loaded are answered by what was live and by themselves. -/
theorem materialize (supported : Supported platform excused linker) :
    Supported platform excused (linker.materialize platform).2 := by
  obtain ⟨ready, _, answered, _, _, materialized⟩ := units_materialize platform linker
  have live : (linker.materialize platform).2.liveDefinitions =
      offered linker.liveDefinitions ready := by
    rw [liveDefinitions, materialized, List.flatMap_append, List.flatMap_map]
    rfl
  intro unit member name requires
  rw [live]
  rw [materialized] at member
  rcases List.mem_append.mp member with older | newer
  · exact (supported unit older name requires).imp_left (List.mem_append_left _)
  · obtain ⟨pending, there, rfl⟩ := List.mem_map.mp newer
    exact (answered pending there name requires).imp_right .inl

end Supported

end Linker

namespace Generator

/-- The request releases the last live definition of a function that a unit which stays
materialized requires. -/
def TearsOff (platform : Platform) (generator : Generator) (request : Request) (name : String) :
    Prop :=
  (∃ number, request = .release number) ∧ name ∈ generator.linker.liveDefinitions ∧
    name ∉ (perform platform generator request).linker.liveDefinitions ∧
    ∃ unit ∈ (perform platform generator request).linker.materialized, name ∈ unit.required

/-- One of the requests did. -/
def TornOff (platform : Platform) (requests : List Request) (generator : Generator)
    (name : String) : Prop :=
  ∃ earlier request later, requests = earlier ++ request :: later ∧
    TearsOff platform (performAll platform earlier generator) request name

/-- The last request is met after all the others. -/
theorem performAll_append_singleton (platform : Platform) (requests : List Request)
    (request : Request) (generator : Generator) :
    performAll platform (requests ++ [request]) generator =
      perform platform (performAll platform requests generator) request := by
  simp only [performAll, List.foldl_append, List.foldl_cons, List.foldl_nil]

/-- A request keeps what materialized units require, up to what it tears off. -/
theorem supported_perform {platform : Platform} {excused : String → Prop} {generator : Generator}
    (supported : Linker.Supported platform excused generator.linker) (request : Request) :
    Linker.Supported platform
      (fun name => excused name ∨ TearsOff platform generator request name)
      (perform platform generator request).linker := by
  rcases linker_perform platform generator request with
    same | ⟨unit, same⟩ | ⟨names, same⟩ | ⟨number, rfl, same⟩
  · rw [same]
    exact supported.weaken fun _ => .inl
  · rw [same]
    exact supported.weaken fun _ => .inl
  · rw [same]
    exact supported.materialize.weaken fun _ => .inl
  · intro unit member name requires
    by_cases live : name ∈ (perform platform generator (.release number)).linker.liveDefinitions
    · exact .inl live
    · have before : unit ∈ generator.linker.materialized := by
        rw [same, Linker.materialized_release] at member
        exact (List.mem_filter.mp member).1
      rcases supported unit before name requires with here | host | past
      · exact .inr (.inr (.inr ⟨⟨number, rfl⟩, here, live, unit, member, requires⟩))
      · exact .inr (.inl host)
      · exact .inr (.inr (.inl past))

/-- After any requests, what a materialized unit requires is live, the host's, or torn off. -/
theorem supported_performAll (platform : Platform) (level : Nat) (refusal : Option String)
    (requests : List Request) :
    Linker.Supported platform (TornOff platform requests (.initial level refusal))
      (performAll platform requests (.initial level refusal)).linker := by
  induction requests using List.reverseRecOn with
  | nil => exact fun unit member => by cases member
  | append_singleton earlier request inductionHypothesis =>
    rw [performAll_append_singleton]
    refine (supported_perform inductionHypothesis request).weaken fun name => ?_
    rintro (⟨first, torn, rest, rfl, tears⟩ | tears)
    · exact ⟨first, torn, rest ++ [request], by simp, tears⟩
    · exact ⟨earlier, request, [], rfl, tears⟩

/-- Whatever a generator has been asked: where a function is found, everything that its calls lead
to is live or the host's, unless it was torn off; where it is not found, it is reported as
unresolved. -/
theorem finds_live_code_unless_torn_off (platform : Platform) (level : Nat)
    (refusal : Option String) (requests : List Request) (name : String) :
    match Linker.address platform name
        (performAll platform requests (.initial level refusal)).linker with
    | .ok _ last => name ∈ last.liveDefinitions ∧
        ∀ needed, Linker.Leads last.materialized name needed →
          needed ∈ last.liveDefinitions ∨ platform.provides needed = true ∨
            TornOff platform requests (.initial level refusal) needed
    | .error fault _ => ∃ error, fault = .run error ∧ error.code = "E001" := by
  have supported := (supported_performAll platform level refusal requests).materialize
  have ends := Linker.address_ends platform name
    (performAll platform requests (.initial level refusal)).linker
  unfold Ensures at ends
  cases found : Linker.address platform name
      (performAll platform requests (.initial level refusal)).linker with
  | ok position last =>
    rw [found] at ends
    obtain ⟨rfl, live⟩ := ends
    exact ⟨live, fun needed leads => supported.of_leads leads⟩
  | error fault last =>
    rw [found] at ends
    exact ends.2

/-- A function is found although the only function that it calls has been released. -/
theorem torn_off_is_found :
    let callee : Definition :=
      ⟨⟨"g", ["x"], none⟩, .reference "x" none, none⟩
    let caller : Definition :=
      ⟨⟨"f", ["x"], none⟩, .call "g" [.reference "x" none] none, none⟩
    let requests : List Request :=
      [.define .fresh callee, .handOff, .define (Session.fresh.record callee.prototype) caller,
        .handOff, .materialize, .release 1]
    ∃ position last, Linker.address .doubles "f"
        (performAll .doubles requests (.initial 2 none)).linker = .ok position last ∧
      Linker.Leads last.materialized "f" "g" ∧ "g" ∉ last.liveDefinitions ∧
      Platform.doubles.provides "g" = false := by
  intro callee caller requests
  have test : (match Linker.address .doubles "f"
      (performAll .doubles requests (.initial 2 none)).linker with
      | .ok _ last => (last.materialized.any fun unit =>
          decide ("f" ∈ unit.defined ∧ "g" ∈ unit.required)) &&
          decide ("g" ∉ last.liveDefinitions ∧ Platform.doubles.provides "g" = false)
      | .error .. => false) = true := by
    decide +kernel
  cases found : Linker.address .doubles "f"
      (performAll .doubles requests (.initial 2 none)).linker with
  | ok position last =>
    simp only [found, Bool.and_eq_true, List.any_eq_true, decide_eq_true_eq] at test
    obtain ⟨⟨unit, member, defines, requires⟩, gone, foreign⟩ := test
    exact ⟨position, last, rfl, .directly member defines requires, gone, foreign⟩
  | error fault last => simp [found] at test

end Generator

end Reckon
