import Mathlib.Data.List.Induction
import Reckon.Platform.Doubles
import Reckon.Proofs.Evaluator.Requests

/-!
# Defined names and live bodies

One set of names sums up which functions have a body in the open unit or in a live one. An
ordinary name has a body in one of these units at most, so its name may go when the unit
goes. The reserved name of bare expressions may have a body in several units at a time, and
it goes with the first of them that is given up. From then on it does not count as defined,
whatever bodies are left, until it gets another body.
-/

namespace Reckon

namespace Evaluator

open Reckon.Action

/-- The request gives a unit up that holds an anonymous body, and another unit holds one, too. -/
def Forgets (evaluator : Evaluator) (request : Request) : Prop :=
  ∃ number other, request = .release number ∧ other ≠ number ∧
    (∃ unit ∈ evaluator.live, unit.number = number ∧ anonymousName ∈ unit.defined) ∧
    evaluator.BearsIn other anonymousName

/-- One of the requests did. -/
def Forgot (platform : Platform) (requests : List Request) (evaluator : Evaluator) : Prop :=
  ∃ earlier request later, requests = earlier ++ request :: later ∧
    Forgets (performAll platform earlier evaluator) request

/-- The names that count as defined have live bodies. So does each live body, unless it is an
anonymous one and excused, and one unit at most holds a body for an ordinary name. -/
structure Booked (excused : Prop) (evaluator : Evaluator) : Prop where
  borne (name : String) (member : name ∈ evaluator.defined) :
    ∃ number, evaluator.BearsIn number name
  booked (number : Nat) (name : String) (bears : evaluator.BearsIn number name) :
    name ∈ evaluator.defined ∨ name = anonymousName ∧ excused
  sole (name : String) (ordinary : name ≠ anonymousName) (number other : Nat)
    (bears : evaluator.BearsIn number name) (bearsToo : evaluator.BearsIn other name) :
    number = other

namespace Booked

variable {excused : Prop} {before after : Evaluator}

/-- At the beginning nothing counts as defined, and nothing is live. -/
theorem initial (excused : Prop) : Booked excused .initial := by
  have none (number : Nat) (name : String) : ¬ Evaluator.initial.BearsIn number name := by
    rintro ⟨unit, member, _, bears⟩
    rw [List.mem_singleton.mp member] at bears
    cases bears
  constructor
  case borne => exact nofun
  case booked => exact fun number name bears => (none number name bears).elim
  case sole => exact fun name _ number _ bears _ => (none number name bears).elim

/-- More may be excused. -/
theorem weaken (booked : Booked excused before) {more : Prop} (implies : excused → more) :
    Booked more before :=
  { booked with
    booked := fun number name bears =>
      (booked.booked number name bears).imp_right (And.imp_right implies) }

/-- A body that is given is booked. -/
theorem gains (booked : Booked excused before) {handle : Handle}
    (gains : Gains before handle after) : Booked excused after := by
  constructor
  case borne =>
    intro name member
    rw [gains.defined, NameSet.mem_insert] at member
    rcases member with earlier | rfl
    · obtain ⟨number, bears⟩ := booked.borne name earlier
      exact ⟨number, (gains.bearsIn ..).mpr (.inl bears)⟩
    · exact ⟨handle.unit, (gains.bearsIn ..).mpr (.inr ⟨rfl, rfl⟩)⟩
  case booked =>
    intro number name bears
    rw [gains.defined, NameSet.mem_insert]
    rcases (gains.bearsIn ..).mp bears with earlier | ⟨_, rfl⟩
    · exact (booked.booked number name earlier).imp_left .inl
    · exact .inl (.inr rfl)
  case sole =>
    -- An ordinary name that gets a body had none anywhere.
    intro name ordinary number other bears bearsToo
    have fresh (unit : Nat) (earlier : before.BearsIn unit name) : name ≠ handle.symbol := by
      rintro rfl
      rcases booked.booked unit _ earlier with member | ⟨reserved, _⟩
      · exact ordinary (gains.new member)
      · exact ordinary reserved
    rcases (gains.bearsIn ..).mp bears with earlier | ⟨rfl, new⟩
    · rcases (gains.bearsIn ..).mp bearsToo with earlierToo | ⟨_, new⟩
      · exact booked.sole name ordinary number other earlier earlierToo
      · exact (fresh number earlier new).elim
    · rcases (gains.bearsIn ..).mp bearsToo with earlierToo | ⟨rfl, _⟩
      · exact (fresh other earlierToo new).elim
      · rfl

/-- A unit that is given up takes its names with it, and may take the anonymous name from others. -/
theorem gone (booked : Booked excused before) (numbered : before.Numbered) {number : Nat}
    {unit : CodeUnit} (live : unit ∈ before.live) (own : unit.number = number)
    (defined : after.defined = before.defined.without unit.defined)
    (bearsIn : ∀ other name,
      after.BearsIn other name ↔ other ≠ number ∧ before.BearsIn other name) :
    Booked (excused ∨ Forgets before (.release number)) after := by
  have member : unit ∈ before.units := List.mem_cons_of_mem _ live
  constructor
  case borne =>
    intro name there
    rw [defined, NameSet.mem_without] at there
    obtain ⟨other, holder, among, rfl, bears⟩ := booked.borne name there.1
    refine ⟨_, (bearsIn ..).mpr ⟨?_, holder, among, rfl, bears⟩⟩
    intro same
    obtain rfl := numbered.eq_of_number member among (own.trans same.symm)
    exact there.2 bears
  case booked =>
    intro other name bears
    obtain ⟨apart, earlier⟩ := (bearsIn ..).mp bears
    rw [defined, NameSet.mem_without]
    rcases booked.booked other name earlier with there | ⟨reserved, past⟩
    · by_cases taken : name ∈ unit.defined
      · have reserved : name = anonymousName := by
          by_contra ordinary
          exact apart (booked.sole name ordinary _ _ earlier ⟨unit, member, own, taken⟩)
        subst reserved
        exact .inr ⟨rfl, .inr ⟨number, other, rfl, apart, ⟨unit, live, own, taken⟩, earlier⟩⟩
      · exact .inl ⟨there, taken⟩
    · exact .inr ⟨reserved, .inl past⟩
  case sole =>
    intro name ordinary first second bears bearsToo
    exact booked.sole name ordinary first second ((bearsIn ..).mp bears).2
      ((bearsIn ..).mp bearsToo).2

/-- A request keeps the books, up to what it forgets. -/
theorem fulfils (booked : Booked excused before) (numbered : before.Numbered) {request : Request}
    (fulfils : Fulfils before request after) : Booked (excused ∨ Forgets before request) after := by
  cases fulfils with
  | quiet defined bearsIn =>
    apply weaken _ Or.inl
    constructor
    case borne =>
      intro name member
      obtain ⟨number, bears⟩ := booked.borne name (defined ▸ member)
      exact ⟨number, (bearsIn ..).mpr bears⟩
    case booked =>
      intro number name bears
      rw [defined]
      exact booked.booked number name ((bearsIn ..).mp bears)
    case sole =>
      intro name ordinary number other bears bearsToo
      exact booked.sole name ordinary number other ((bearsIn ..).mp bears)
        ((bearsIn ..).mp bearsToo)
  | gains gains => exact (booked.gains gains).weaken .inl
  | gone live own defined bearsIn => exact booked.gone numbered live own defined bearsIn

/-- One unit at most holds a body for an ordinary name. -/
theorem length_bearing_le_one (booked : Booked excused before) (numbered : before.Numbered)
    {name : String} (ordinary : name ≠ anonymousName) :
    (before.units.filter fun unit => name ∈ unit.defined).length ≤ 1 := by
  have distinct : (before.units.filter fun unit => name ∈ unit.defined).Nodup :=
    numbered.nodup.of_map.filter _
  have among (unit : CodeUnit)
      (member : unit ∈ before.units.filter fun unit => name ∈ unit.defined) :
      unit ∈ before.units ∧ before.BearsIn unit.number name := by
    obtain ⟨there, bears⟩ := List.mem_filter.mp member
    exact ⟨there, unit, there, rfl, of_decide_eq_true bears⟩
  cases bearing : before.units.filter fun unit => name ∈ unit.defined with
  | nil => exact Nat.zero_le 1
  | cons unit rest =>
    rw [bearing] at distinct among
    cases rest with
    | nil => exact Nat.le_refl 1
    | cons other rest =>
      obtain ⟨there, bears⟩ := among unit (by simp)
      obtain ⟨thereToo, bearsToo⟩ := among other (by simp)
      have same := booked.sole name ordinary _ _ bears bearsToo
      obtain rfl := numbered.eq_of_number there thereToo same
      simp at distinct

/-- After any requests the books are kept, up to what was forgotten. -/
theorem performAll (platform : Platform) (requests : List Request) :
    Booked (Forgot platform requests .initial) (performAll platform requests .initial) ∧
      (Evaluator.performAll platform requests .initial).Numbered := by
  induction requests using List.reverseRecOn with
  | nil => exact ⟨initial _, .initial⟩
  | append_singleton earlier request inductionHypothesis =>
    obtain ⟨booked, numbered⟩ := inductionHypothesis
    obtain ⟨fulfils, numberedToo⟩ := perform_fulfils numbered platform request
    rw [performAll_append_singleton]
    refine ⟨(booked.fulfils numbered fulfils).weaken ?_, numberedToo⟩
    rintro (⟨first, forgetful, rest, rfl, forgets⟩ | forgets)
    · exact ⟨first, forgetful, rest ++ [request], by simp, forgets⟩
    · exact ⟨earlier, request, [], rfl, forgets⟩

end Booked

/-- **What counts as defined has a live body.** Whatever an evaluator has been asked: a name that
counts as defined has a body in the open unit or in a live one; a name with such a body counts as
defined, unless it is the anonymous one and a request gave up a unit with an anonymous body while
another unit held one, too; and one of these units at most holds a body for an ordinary name. -/
theorem defined_names_have_live_bodies (platform : Platform) (requests : List Request)
    (name : String) :
    let evaluator := performAll platform requests .initial
    (name ∈ Backend.defined evaluator → ∃ unit ∈ evaluator.units, name ∈ unit.defined) ∧
    ((∃ unit ∈ evaluator.units, name ∈ unit.defined) →
      name ∈ Backend.defined evaluator ∨
        name = anonymousName ∧ Forgot platform requests .initial) ∧
    (name ≠ anonymousName →
      (evaluator.units.filter fun unit => name ∈ unit.defined).length ≤ 1) := by
  intro evaluator
  obtain ⟨booked, numbered⟩ := Booked.performAll platform requests
  refine ⟨?_, ?_, ?_⟩
  · intro member
    obtain ⟨_, unit, there, _, bears⟩ := booked.borne name member
    exact ⟨unit, there, bears⟩
  · rintro ⟨unit, there, bears⟩
    exact booked.booked unit.number name ⟨unit, there, rfl, bears⟩
  · exact booked.length_bearing_le_one numbered

/-- The second of two anonymous bodies does not count as defined any more once the first is given
up, although its unit is live. -/
theorem anonymous_body_is_forgotten :
    let requests : List Request :=
      [.define .fresh (.anonymous (.number 1 none)), .handOff,
        .define .fresh (.anonymous (.number 2 none)), .handOff, .release 1]
    let evaluator := performAll .doubles requests .initial
    (∃ unit ∈ evaluator.live, anonymousName ∈ unit.defined) ∧
      anonymousName ∉ Backend.defined evaluator := by
  decide +kernel

end Evaluator

end Reckon
