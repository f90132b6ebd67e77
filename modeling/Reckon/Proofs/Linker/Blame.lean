import Reckon.Proofs.Generator.LiveCode
import Reckon.Proofs.Linker.Selection
import Reckon.Proofs.Pairing.Calling

/-!
# What is reported as unresolved

Two computations decide how a function is looked up: rounds over the pending units say whether
it can be loaded, and if it cannot, a walk along the calls of pending functions says for want of
what. They agree: the walk finds a name to report exactly if the rounds leave the function out.
It goes on neither from what is live, where every call has an answer, nor from what the host has.
So a call of a host function is answered even while a unit is pending that defines a function of
that name and is itself left out.
-/

namespace Reckon

open Reckon.Action

namespace Linker

/-! ## The walk -/

section Reach

variable {needs : String → List String}

/-- Everything that is reached has what is passed on along the walk. -/
theorem reach_all (holds : String → Prop) (rounds : Nat) (names : NameSet)
    (start : ∀ name ∈ names, holds name)
    (onward : ∀ name, holds name → ∀ needed ∈ needs name, holds needed) :
    ∀ name ∈ reach needs rounds names, holds name := by
  induction rounds generalizing names with
  | zero => exact start
  | succ rounds inductionHypothesis =>
    refine inductionHypothesis _ fun name member => ?_
    rcases (NameSet.mem_union ..).mp member with old | new
    · exact start name old
    · obtain ⟨before, there, needed⟩ := List.mem_flatMap.mp new
      exact onward before (start before there) name needed

/-- The walk keeps what it starts from. -/
theorem subset_reach (rounds : Nat) (names : NameSet) : names ⊆ reach needs rounds names := by
  induction rounds generalizing names with
  | zero => exact fun _ member => member
  | succ rounds inductionHypothesis =>
    exact fun name member => inductionHypothesis _ ((NameSet.mem_union ..).mpr (.inl member))

/-- Further rounds reach no name twice. -/
theorem nodup_reach (rounds : Nat) {names : NameSet} (distinct : names.Nodup) :
    (reach needs rounds names).Nodup := by
  induction rounds generalizing names with
  | zero => exact distinct
  | succ rounds inductionHypothesis =>
    exact inductionHypothesis (NameSet.nodup_union distinct _)

/-- Fewer names are not among more names, if one of them has come in. -/
theorem length_filter_lt {all names more : List String} {fresh : String}
    (kept : names ⊆ more) (there : fresh ∈ all) (absent : fresh ∉ names)
    (present : fresh ∈ more) :
    (all.filter (· ∉ more)).length < (all.filter (· ∉ names)).length := by
  have nested : all.filter (· ∉ more) =
      (all.filter (· ∉ names)).filter (· ∉ more) := by
    rw [List.filter_filter]
    refine List.filter_congr fun name _ => ?_
    by_cases member : name ∈ names
    · simp [member, kept member]
    · simp [member]
  rw [nested, List.length_filter_lt_length_iff_exists]
  exact ⟨fresh, List.mem_filter.mpr ⟨there, decide_eq_true absent⟩, by simpa using present⟩

/-- The walk goes on from everything that it reaches, if it has as many rounds as there are names
that it may still come to. A round that comes to none of them has nowhere to go. -/
theorem reach_closed (all : List String) (bounded : ∀ name, needs name ⊆ all)
    (rounds : Nat) (names : NameSet)
    (enough : (all.filter (· ∉ names)).length ≤ rounds) :
    ∀ name ∈ reach needs rounds names, needs name ⊆ reach needs rounds names := by
  induction rounds generalizing names with
  | zero =>
    intro name _ needed member
    have none := List.filter_eq_nil_iff.mp (List.eq_nil_of_length_eq_zero (Nat.le_zero.mp enough))
    change needed ∈ names
    simpa using none needed (bounded name member)
  | succ rounds inductionHypothesis =>
    by_cases closed : ∀ name ∈ names, needs name ⊆ names
    · have same : ∀ name ∈ reach needs (rounds + 1) names, name ∈ names :=
        reach_all (· ∈ names) _ _ (fun _ member => member) fun name member => @closed name member
      intro name member
      exact List.Subset.trans (closed name (same name member)) (subset_reach _ _)
    · obtain ⟨name, there, fresh, needed, absent⟩ : ∃ name ∈ names, ∃ fresh ∈ needs name,
          fresh ∉ names := by
        by_contra none
        push Not at none
        exact closed none
      refine inductionHypothesis _ (Nat.le_of_lt_succ (Nat.lt_of_lt_of_le ?_ enough))
      exact length_filter_lt (fun _ member => (NameSet.mem_union ..).mpr (.inl member))
        (bounded name needed) absent
        ((NameSet.mem_union ..).mpr (.inr (List.mem_flatMap.mpr ⟨name, there, needed⟩)))

end Reach

/-! ## What a function lacks -/

/-- The functions that the calls of a function lead to, going on from none that the host has. -/
inductive LeadsPast (platform : Platform) (units : List CompiledUnit) (name : String) :
    String → Prop
  | directly {unit : CompiledUnit} {needed : String} (member : unit ∈ units)
      (defines : name ∈ unit.defined) (requires : needed ∈ unit.required) :
      LeadsPast platform units name needed
  | onward {middle needed : String} {unit : CompiledUnit}
      (leads : LeadsPast platform units name middle)
      (foreign : platform.provides middle = false) (member : unit ∈ units)
      (defines : middle ∈ unit.defined) (requires : needed ∈ unit.required) :
      LeadsPast platform units name needed

/-- The calls of a function lead to a name that neither a unit nor the host answers. -/
structure Lacks (platform : Platform) (units : List CompiledUnit) (name needed : String) :
    Prop where
  leads : LeadsPast platform units name needed
  undefined : ∀ unit ∈ units, needed ∉ unit.defined
  foreign : platform.provides needed = false

section

variable {platform : Platform} {units others : List CompiledUnit} {name needed : String}

/-- If no unit defines a function that the host has, calls lead just as far. -/
theorem leadsPast_iff
    (apart : ∀ unit ∈ units, ∀ middle ∈ unit.defined, platform.provides middle = false) :
    LeadsPast platform units name needed ↔ Leads units name needed := by
  constructor
  · intro leads
    induction leads with
    | directly member defines requires => exact .directly member defines requires
    | onward _ _ member defines requires inductionHypothesis =>
      exact .onward inductionHypothesis member defines requires
  · intro leads
    induction leads with
    | directly member defines requires => exact .directly member defines requires
    | onward _ member defines requires inductionHypothesis =>
      exact .onward inductionHypothesis (apart _ member _ defines) member defines requires

/-- Calls lead as far through units that only differ in how far they have come. -/
theorem LeadsPast.of_handedOff (leads : LeadsPast platform units name needed)
    (same : ∀ unit ∈ units, ∃ other ∈ others, handedOff other = handedOff unit) :
    LeadsPast platform others name needed := by
  induction leads with
  | directly member defines requires =>
    obtain ⟨other, there, equal⟩ := same _ member
    obtain ⟨_, defined, required⟩ := eq_of_handedOff equal
    rw [← defined] at defines
    rw [← required] at requires
    exact .directly there defines requires
  | onward _ foreign member defines requires inductionHypothesis =>
    obtain ⟨other, there, equal⟩ := same _ member
    obtain ⟨_, defined, required⟩ := eq_of_handedOff equal
    rw [← defined] at defines
    rw [← required] at requires
    exact .onward inductionHypothesis foreign there defines requires

/-- So the same is lacking. -/
theorem lacks_congr (same : (units.map handedOff).Perm (others.map handedOff)) :
    Lacks platform units name needed ↔ Lacks platform others name needed := by
  have matched {left right : List CompiledUnit}
      (same : (left.map handedOff).Perm (right.map handedOff)) :
      ∀ unit ∈ left, ∃ other ∈ right, handedOff other = handedOff unit :=
    fun _ member => List.mem_map.mp (same.subset (List.mem_map_of_mem member))
  have kept {left right : List CompiledUnit}
      (same : (left.map handedOff).Perm (right.map handedOff))
      (lacks : Lacks platform left name needed) : Lacks platform right name needed := by
    refine ⟨lacks.leads.of_handedOff (matched same), fun unit member defines => ?_, lacks.foreign⟩
    obtain ⟨other, there, equal⟩ := matched same.symm unit member
    exact lacks.undefined other there ((eq_of_handedOff equal).2.1 ▸ defines)
  exact ⟨kept same, kept same.symm⟩

end

/-! ## Where the rounds and the walk agree -/

section

variable {platform : Platform} {linker : Linker} {name : String} {unit : CompiledUnit}

/-- A unit that defines a function that is not live is still pending. -/
theorem pending_of_dead (member : unit ∈ linker.units) (defines : name ∈ unit.defined)
    (dead : name ∉ linker.liveDefinitions) : unit ∈ linker.pending :=
  (List.mem_append.mp member).resolve_right fun there =>
    dead (List.mem_flatMap.mpr ⟨unit, there, defines⟩)

/-- The unit that is found for a name is pending and defines the name. -/
theorem of_pendingUnit? (found : linker.pendingUnit? name = some unit) :
    unit ∈ linker.pending ∧ name ∈ unit.defined := by
  have test := List.find?_some found
  exact ⟨List.mem_reverse.mp (List.mem_of_find?_eq_some found), of_decide_eq_true test⟩

/-- A function that is not live although nothing more can be loaded lacks something. Otherwise the
pending units that its calls lead to would suffice. -/
theorem exists_lacks
    (idle : ∀ chosen ⊆ linker.pending, Suffices platform linker chosen → chosen = [])
    (member : unit ∈ linker.units) (defines : name ∈ unit.defined)
    (dead : name ∉ linker.liveDefinitions) :
    ∃ needed, Lacks platform linker.units name needed := by
  classical
  by_contra none
  let involved := linker.pending.filter fun other => name ∈ other.defined ∨
    ∃ middle ∈ other.defined, LeadsPast platform linker.units name middle ∧
      platform.provides middle = false
  have among : involved ⊆ linker.pending := fun _ there => (List.mem_filter.mp there).1
  have sufficient : Suffices platform linker involved := by
    intro other there next requires
    obtain ⟨waits, concerned⟩ := List.mem_filter.mp there
    have leads : LeadsPast platform linker.units name next := by
      rcases of_decide_eq_true concerned with own | ⟨middle, own, leads, foreign⟩
      · exact .directly (List.mem_append_left _ waits) own requires
      · exact .onward leads foreign (List.mem_append_left _ waits) own requires
    by_contra unanswered
    simp only [not_or] at unanswered
    obtain ⟨undefined, outside, foreign⟩ := unanswered
    have foreign := Bool.eq_false_iff.mpr foreign
    refine none ⟨next, leads, fun definer present own => ?_, foreign⟩
    rcases List.mem_append.mp present with waitsToo | live
    · refine outside ⟨definer, List.mem_filter.mpr ⟨waitsToo, decide_eq_true ?_⟩, own⟩
      exact .inr ⟨next, own, leads, foreign⟩
    · exact undefined ⟨definer, live, own⟩
  have waits := pending_of_dead member defines dead
  have here : unit ∈ involved := List.mem_filter.mpr ⟨waits, decide_eq_true (.inl defines)⟩
  rw [idle involved among sufficient] at here
  cases here

end

/-- No function is defined twice, every call of a materialized unit is answered, and what is
materialized is in the image. -/
structure Tidy (platform : Platform) (linker : Linker) : Prop where
  distinct (unit other : CompiledUnit) (member : unit ∈ linker.units)
    (memberToo : other ∈ linker.units) (name : String) (defines : name ∈ unit.defined)
    (definesToo : name ∈ other.defined) : unit = other
  supported : Supported platform (fun _ => False) linker
  imaged : Imaged linker

namespace Tidy

variable {platform : Platform} {linker : Linker} {name needed : String} {unit : CompiledUnit}

/-- A unit that defines a live function is the materialized one, since no other defines it. -/
theorem materialized_of_live (tidy : Tidy platform linker) (member : unit ∈ linker.units)
    (defines : name ∈ unit.defined) (live : name ∈ linker.liveDefinitions) :
    unit ∈ linker.materialized := by
  obtain ⟨other, there, definesToo⟩ := List.mem_flatMap.mp live
  rwa [tidy.distinct unit other member (List.mem_append_right _ there) name defines definesToo]

/-- What a live function calls is live or the host's. -/
theorem answered_of_live (tidy : Tidy platform linker) (member : unit ∈ linker.units)
    (defines : name ∈ unit.defined) (live : name ∈ linker.liveDefinitions)
    (requires : needed ∈ unit.required) :
    needed ∈ linker.liveDefinitions ∨ platform.provides needed = true :=
  (tidy.supported unit (tidy.materialized_of_live member defines live) needed requires).imp_right
    (Or.resolve_right · id)

/-- The pending unit that defines a function is the one that is found. -/
theorem pendingUnit?_eq (tidy : Tidy platform linker) (waits : unit ∈ linker.pending)
    (defines : name ∈ unit.defined) : linker.pendingUnit? name = some unit := by
  cases found : linker.pendingUnit? name with
  | none =>
    have missed := List.find?_eq_none.mp found unit (List.mem_reverse.mpr waits)
    exact (missed (decide_eq_true defines)).elim
  | some other =>
    obtain ⟨there, definesToo⟩ := of_pendingUnit? found
    exact congrArg some (tidy.distinct other unit (List.mem_append_left _ there)
      (List.mem_append_left _ waits) name definesToo defines)

/-- The walk goes on from a pending function to what it calls, unless that is answered already. -/
theorem mem_needs_iff (tidy : Tidy platform linker) :
    needed ∈ linker.needs platform name ↔
      (∃ unit ∈ linker.pending, name ∈ unit.defined ∧ needed ∈ unit.required) ∧
        needed ∉ linker.liveDefinitions ∧ platform.provides needed = false := by
  unfold needs
  constructor
  · cases found : linker.pendingUnit? name with
    | none => exact fun absurd => by cases absurd
    | some unit =>
      intro member
      obtain ⟨requires, unanswered⟩ := List.mem_filter.mp member
      obtain ⟨waits, defines⟩ := of_pendingUnit? found
      refine ⟨⟨unit, waits, defines, requires⟩, ?_⟩
      simpa using unanswered
  · rintro ⟨⟨unit, waits, defines, requires⟩, dead, foreign⟩
    rw [tidy.pendingUnit?_eq waits defines]
    exact List.mem_filter.mpr ⟨requires, by simp [dead, foreign]⟩

/-- The walk is finished when it stops. -/
theorem reachable_closed (tidy : Tidy platform linker) {middle : String}
    (reached : middle ∈ linker.reachable platform name)
    (needs : needed ∈ linker.needs platform middle) :
    needed ∈ linker.reachable platform name := by
  have bounded (name : String) :
      linker.needs platform name ⊆ linker.pending.flatMap (·.required) := by
    intro needed member
    obtain ⟨⟨unit, waits, _, requires⟩, _⟩ := tidy.mem_needs_iff.mp member
    exact List.mem_flatMap.mpr ⟨unit, waits, requires⟩
  exact reach_closed _ bounded _ [name] (List.length_filter_le ..) middle reached needs

/-- A live function lacks nothing. -/
theorem not_lacks_of_live (tidy : Tidy platform linker) (live : name ∈ linker.liveDefinitions) :
    ¬ Lacks platform linker.units name needed := by
  have answered {reached : String} (leads : LeadsPast platform linker.units name reached) :
      reached ∈ linker.liveDefinitions ∨ platform.provides reached = true := by
    induction leads with
    | directly member defines requires => exact tidy.answered_of_live member defines live requires
    | onward _ foreign member defines requires inductionHypothesis =>
      have there := inductionHypothesis.resolve_right (by simp [foreign])
      exact tidy.answered_of_live member defines there requires
  intro lacks
  rcases answered lacks.leads with there | host
  · obtain ⟨unit, member, defines⟩ := List.mem_flatMap.mp there
    exact lacks.undefined unit (List.mem_append_right _ member) defines
  · rw [lacks.foreign] at host
    cases host

/-- The walk from a function that is not live finds exactly what the function lacks. -/
theorem mem_unresolved_iff (tidy : Tidy platform linker) (member : unit ∈ linker.units)
    (defines : name ∈ unit.defined) (dead : name ∉ linker.liveDefinitions) :
    needed ∈ linker.unresolved platform name ↔ Lacks platform linker.units name needed := by
  have waits := pending_of_dead member defines dead
  unfold unresolved
  rw [List.mem_filter, Option.isNone_iff_eq_none]
  constructor
  · rintro ⟨reached, unknown⟩
    -- Apart from where it starts, the walk comes only to what nothing has answered.
    have found : needed = name ∨ LeadsPast platform linker.units name needed ∧
        needed ∉ linker.liveDefinitions ∧ platform.provides needed = false := by
      refine reach_all (fun reached => reached = name ∨
        LeadsPast platform linker.units name reached ∧ reached ∉ linker.liveDefinitions ∧
          platform.provides reached = false) _ _ ?_ ?_ needed reached
      · exact fun start among => .inl (List.mem_singleton.mp among)
      · intro middle before onward next
        obtain ⟨⟨caller, there, own, requires⟩, unanswered⟩ := tidy.mem_needs_iff.mp next
        refine .inr ⟨?_, unanswered⟩
        rcases before with rfl | ⟨leads, _, foreign⟩
        · exact .directly (List.mem_append_left _ there) own requires
        · exact .onward leads foreign (List.mem_append_left _ there) own requires
    rcases found with rfl | ⟨leads, absent, foreign⟩
    · rw [tidy.pendingUnit?_eq waits defines] at unknown
      cases unknown
    · refine ⟨leads, fun other there own => ?_, foreign⟩
      rw [tidy.pendingUnit?_eq (pending_of_dead there own absent) own] at unknown
      cases unknown
  · intro lacks
    have start : name ∈ linker.reachable platform name :=
      subset_reach _ _ (List.mem_singleton_self _)
    have unanswered {caller : CompiledUnit} {middle next : String}
        (reached : middle ∈ linker.liveDefinitions ∨ middle ∈ linker.reachable platform name)
        (there : caller ∈ linker.units) (own : middle ∈ caller.defined)
        (requires : next ∈ caller.required) :
        next ∈ linker.liveDefinitions ∨ platform.provides next = true ∨
          next ∈ linker.reachable platform name := by
      by_cases live : middle ∈ linker.liveDefinitions
      · exact (tidy.answered_of_live there own live requires).imp_right .inl
      · by_cases answered : next ∈ linker.liveDefinitions ∨ platform.provides next = true
        · exact answered.imp_right .inl
        · obtain ⟨absent, foreign⟩ := not_or.mp answered
          refine .inr (.inr (tidy.reachable_closed (reached.resolve_left live) ?_))
          exact tidy.mem_needs_iff.mpr ⟨⟨caller, pending_of_dead there own live, own, requires⟩,
            absent, Bool.eq_false_iff.mpr foreign⟩
    have found {reached : String} (leads : LeadsPast platform linker.units name reached) :
        reached ∈ linker.liveDefinitions ∨ platform.provides reached = true ∨
          reached ∈ linker.reachable platform name := by
      induction leads with
      | directly there own requires => exact unanswered (.inr start) there own requires
      | onward _ foreign there own requires inductionHypothesis =>
        refine unanswered (inductionHypothesis.imp_right fun either => ?_) there own requires
        exact either.resolve_left (by simp [foreign])
    have absent : needed ∉ linker.liveDefinitions := by
      intro live
      obtain ⟨other, there, own⟩ := List.mem_flatMap.mp live
      exact lacks.undefined other (List.mem_append_right _ there) own
    refine ⟨((found lacks.leads).resolve_left absent).resolve_left (by simp [lacks.foreign]), ?_⟩
    cases held : linker.pendingUnit? needed with
    | none => rfl
    | some other =>
      obtain ⟨there, own⟩ := of_pendingUnit? held
      exact (lacks.undefined other (List.mem_append_left _ there) own).elim

end Tidy

/-- A function of a unit that was handed off has an address exactly if it lacks nothing. If it lacks
something, the names that are reported are what it lacks, each once. -/
theorem address_exact {platform : Platform} {linker : Linker} {name : String}
    (distinct : (linker.pending.map (·.number)).Nodup)
    (tidy : Tidy platform (linker.materialize platform).2)
    (handed : ∃ unit ∈ linker.units, name ∈ unit.defined) :
    ∃ names : List String, names.Nodup ∧
      (∀ needed, needed ∈ names ↔ Lacks platform linker.units name needed) ∧
      ((names = [] ∧ ∃ position after, address platform name linker = .ok position after ∧
          DefinesAt after.image position name) ∨
        (names ≠ [] ∧ ∃ after,
          address platform name linker = .error (.run (.unresolved names name)) after)) := by
  let next := (linker.materialize platform).2
  have same : (next.units.map handedOff).Perm (linker.units.map handedOff) :=
    handedOff_materialize platform distinct
  obtain ⟨unit, member, defines⟩ : ∃ unit ∈ next.units, name ∈ unit.defined := by
    obtain ⟨unit, member, defines⟩ := handed
    obtain ⟨other, there, equal⟩ :=
      List.mem_map.mp (same.symm.subset (List.mem_map_of_mem member))
    exact ⟨other, there, (eq_of_handedOff equal).2.1 ▸ defines⟩
  by_cases live : name ∈ next.liveDefinitions
  · refine ⟨[], List.nodup_nil, fun needed => ?_, .inl ⟨rfl, ?_⟩⟩
    · have none : ¬ Lacks platform next.units name needed := tidy.not_lacks_of_live live
      rw [lacks_congr same] at none
      simp [none]
    · obtain ⟨position, found⟩ := tidy.imaged.position?_of_live live
      refine ⟨position, next, ?_, definesAt_of_position? found⟩
      change (if name ∈ next.liveDefinitions then _ else _ : Action Linker Nat) next = _
      rw [if_pos live, found]
      rfl
  · have lacking (needed : String) : needed ∈ next.unresolved platform name ↔
        Lacks platform linker.units name needed :=
      (tidy.mem_unresolved_iff member defines live).trans (lacks_congr same)
    refine ⟨next.unresolved platform name, ?_, lacking, .inr ⟨?_, ?_⟩⟩
    · exact (nodup_reach _ (List.nodup_singleton name)).filter _
    · obtain ⟨needed, lacks⟩ := exists_lacks
        (fun _ among sufficient => eq_nil_of_suffices among sufficient) member defines live
      exact List.ne_nil_of_mem ((tidy.mem_unresolved_iff member defines live).mpr lacks)
    · refine ⟨next.withHostSymbols
        ((next.reachable platform name).flatMap (next.hostNeeds platform)), ?_⟩
      change (if name ∈ next.liveDefinitions then _ else _ : Action Linker Nat) next = _
      rw [if_neg live]
      rfl

end Linker

end Reckon
