import Reckon.Proofs.Linker.Loading
import Reckon.Proofs.Pairing.Linking

/-!
# Where units stand

A linker keeps the units of each state apart. A unit stands where its state belongs if it is
there once, says so itself, and is nowhere else. Taking in other units leaves it where it is,
materializing may move it on from the pending units, and giving it up moves it to the released
ones, where it stays.
-/

namespace Reckon

open Reckon.Action

/-- How a unit comes from one state to another, if it changes its state at all. -/
inductive UnitState.Moves : UnitState → UnitState → Prop
  | stays (state : UnitState) : Moves state state
  | loads : Moves .pending .materialized
  | goes {state : UnitState} (live : state ≠ .released) : Moves state .released

namespace Linker

/-- The units that are kept for a state. -/
def shelf (linker : Linker) : UnitState → List CompiledUnit
  | .pending => linker.pending
  | .materialized => linker.materialized
  | .released => linker.released

/-- One unit of the number is kept for this state and says so; none is kept for another state. -/
structure Stands (linker : Linker) (number : Nat) (state : UnitState) : Prop where
  once : ∃ unit, (linker.shelf state).filter (·.number = number) = [unit] ∧ unit.state = state
  nowhereElse (place : UnitState) (other : place ≠ state) :
    ∀ unit ∈ linker.shelf place, unit.number ≠ number

/-- Nothing is found for a number exactly if no unit has it. -/
theorem filter_number_eq_nil_iff {units : List CompiledUnit} {number : Nat} :
    units.filter (·.number = number) = [] ↔ ∀ unit ∈ units, unit.number ≠ number := by
  simp [List.filter_eq_nil_iff]

/-- At the beginning all shelves are empty. -/
theorem shelf_initial (place : UnitState) : Linker.initial.shelf place = [] := by
  cases place <;> rfl

/-- To remember host functions moves no unit. -/
theorem shelf_withHostSymbols (linker : Linker) (names : List String) (place : UnitState) :
    (linker.withHostSymbols names).shelf place = linker.shelf place := by
  cases place <;> rfl

/-- The units are those on the shelves of states other than that of released units. -/
theorem mem_units_iff (linker : Linker) (unit : CompiledUnit) :
    unit ∈ linker.units ↔ ∃ state, state ≠ .released ∧ unit ∈ linker.shelf state := by
  rw [units, List.mem_append]
  constructor
  · rintro (pending | materialized)
    · exact ⟨.pending, by decide, pending⟩
    · exact ⟨.materialized, by decide, materialized⟩
  · rintro ⟨state, live, member⟩
    cases state with
    | pending => exact .inl member
    | materialized => exact .inr member
    | released => exact (live rfl).elim

/-- Materializing loads some of the pending units. -/
theorem shelf_materialize (platform : Platform) (linker : Linker) :
    ∃ ready, ready.Sublist linker.pending ∧ ∀ place,
      ((linker.materialize platform).2).shelf place = (linker.load ready).shelf place := by
  obtain ⟨ready, names, sublist, _, _, same⟩ := materialize_eq platform linker
  refine ⟨ready, sublist, fun place => ?_⟩
  rw [same]
  split
  case isTrue none =>
    rw [List.isEmpty_iff.mp none]
    cases place <;> simp [shelf, load, withHostSymbols]
  case isFalse => cases place <;> rfl

/-- A number of which no unit is live is not given up, and the attempt changes nothing. -/
theorem release_of_absent {linker : Linker} {number : Nat}
    (absent : ∀ unit ∈ linker.units, unit.number ≠ number) :
    release number linker = .error (.run (.alreadyReleased (unitName number))) linker := by
  have missed (among : List CompiledUnit) (part : among ⊆ linker.units) :
      among.find? (·.number = number) = none := by
    rw [List.find?_eq_none]
    intro unit member
    simpa using absent unit (part member)
  unfold release
  rw [get_bind, missed _ (List.subset_append_right ..), missed _ (List.subset_append_left ..)]
  rfl

namespace Stands

variable {linker : Linker} {number : Nat} {state : UnitState}

/-- Only the units of the number count. -/
theorem congr (stands : linker.Stands number state) {other : Linker}
    (same : ∀ place, (other.shelf place).filter (·.number = number) =
      (linker.shelf place).filter (·.number = number)) : other.Stands number state := by
  constructor
  case once =>
    rw [same]
    exact stands.once
  case nowhereElse =>
    intro place apart unit member own
    have there : unit ∈ (other.shelf place).filter (·.number = number) :=
      List.mem_filter.mpr ⟨member, decide_eq_true own⟩
    rw [same] at there
    exact stands.nowhereElse place apart unit (List.mem_filter.mp there).1 own

/-- Where a number stands has nothing to do with host functions. -/
theorem withHostSymbols (stands : linker.Stands number state) (names : List String) :
    (linker.withHostSymbols names).Stands number state :=
  stands.congr fun place => by rw [shelf_withHostSymbols]

/-- A unit of the number stands in one place. -/
theorem place_eq (stands : linker.Stands number state) {place : UnitState} {unit : CompiledUnit}
    (member : unit ∈ linker.shelf place) (own : unit.number = number) : place = state := by
  by_contra apart
  exact stands.nowhereElse place apart unit member own

/-- There is one unit of the number. -/
theorem eq_of_number (stands : linker.Stands number state) {place placeToo : UnitState}
    {unit other : CompiledUnit} (member : unit ∈ linker.shelf place)
    (memberToo : other ∈ linker.shelf placeToo) (own : unit.number = number)
    (ownToo : other.number = number) : unit = other := by
  obtain rfl := stands.place_eq member own
  obtain rfl := stands.place_eq memberToo ownToo
  obtain ⟨one, only, _⟩ := stands.once
  have there (unit : CompiledUnit) (member : unit ∈ linker.shelf placeToo)
      (own : unit.number = number) : unit = one := by
    have chosen : unit ∈ (linker.shelf placeToo).filter (·.number = number) :=
      List.mem_filter.mpr ⟨member, decide_eq_true own⟩
    exact List.mem_singleton.mp (only ▸ chosen)
  exact (there unit member own).trans (there other memberToo ownToo).symm

/-! ## Taking in -/

/-- Another unit that comes in leaves the unit where it is. -/
theorem add (stands : linker.Stands number state) {unit : CompiledUnit}
    (other : unit.number ≠ number) : (linker.add unit).Stands number state := by
  apply stands.congr
  intro place
  cases place with
  | pending => simp [shelf, Linker.add, List.filter_append, other]
  | materialized => rfl
  | released => rfl

/-- A unit with a new number comes in as pending. -/
theorem of_add {unit : CompiledUnit} (pending : unit.state = .pending)
    (fresh : ∀ place, ∀ other ∈ linker.shelf place, other.number ≠ unit.number) :
    (linker.add unit).Stands unit.number .pending := by
  constructor
  case once =>
    have none : linker.pending.filter (·.number = unit.number) = [] :=
      filter_number_eq_nil_iff.mpr (fresh .pending)
    exact ⟨unit, by simp [shelf, Linker.add, List.filter_append, none], pending⟩
  case nowhereElse =>
    intro place apart
    cases place with
    | pending => exact (apart rfl).elim
    | materialized => exact fresh .materialized
    | released => exact fresh .released

/-! ## Materializing -/

/-- A unit that is not among those that are loaded stays where it is. -/
theorem load_of_not_mem (stands : linker.Stands number state) {ready : List CompiledUnit}
    (absent : number ∉ ready.map (·.number)) : (linker.load ready).Stands number state := by
  apply stands.congr
  intro place
  cases place with
  | pending =>
    simp only [shelf, Linker.load, List.filter_filter]
    apply List.filter_congr
    intro unit _
    by_cases own : unit.number = number <;> simp_all
  | materialized =>
    have none : (ready.map loadedUnit).filter (·.number = number) = [] := by
      rw [filter_number_eq_nil_iff]
      simpa [loadedUnit] using absent
    simp only [shelf, Linker.load, List.filter_append, none, List.append_nil]
  | released => rfl

/-- A pending unit that is loaded stands among the materialized ones. -/
theorem load_of_mem (stands : linker.Stands number .pending) {ready : List CompiledUnit}
    (sublist : ready.Sublist linker.pending) (chosen : number ∈ ready.map (·.number)) :
    (linker.load ready).Stands number .materialized := by
  obtain ⟨unit, only, _⟩ := stands.once
  obtain ⟨picked, member, own⟩ := List.mem_map.mp chosen
  have loaded : ready.filter (·.number = number) = [unit] := by
    have part := sublist.filter fun unit => decide (unit.number = number)
    rw [show linker.pending.filter (·.number = number) = [unit] from only] at part
    have some : picked ∈ ready.filter (·.number = number) :=
      List.mem_filter.mpr ⟨member, decide_eq_true own⟩
    exact (List.sublist_singleton.mp part).resolve_left (List.ne_nil_of_mem some)
  have older : linker.materialized.filter (·.number = number) = [] :=
    filter_number_eq_nil_iff.mpr (stands.nowhereElse .materialized (by decide))
  have newer : (ready.map loadedUnit).filter (·.number = number) = [loadedUnit unit] := by
    rw [List.filter_map]
    exact congrArg (List.map loadedUnit) loaded
  constructor
  case once =>
    refine ⟨loadedUnit unit, ?_, rfl⟩
    simp only [shelf, Linker.load, List.filter_append, older, newer, List.nil_append]
  case nowhereElse =>
    intro place apart
    cases place with
    | pending =>
      rintro other there rfl
      have left := (List.mem_filter.mp there).2
      simp only [decide_eq_true_eq] at left
      exact left chosen
    | materialized => exact (apart rfl).elim
    | released => exact stands.nowhereElse .released (by decide)

/-- Materializing leaves a unit where it is, or loads it. -/
theorem materialize (stands : linker.Stands number state) (platform : Platform) :
    ∃ next, (linker.materialize platform).2.Stands number next ∧ state.Moves next := by
  obtain ⟨ready, sublist, shelves⟩ := shelf_materialize platform linker
  by_cases chosen : number ∈ ready.map (·.number)
  · obtain ⟨unit, member, own⟩ := List.mem_map.mp chosen
    have pending : unit ∈ linker.shelf .pending := sublist.subset member
    obtain rfl := stands.place_eq pending own
    refine ⟨.materialized, ?_, .loads⟩
    exact (stands.load_of_mem sublist chosen).congr fun place => by rw [shelves]
  · refine ⟨state, ?_, .stays state⟩
    exact (stands.load_of_not_mem chosen).congr fun place => by rw [shelves]

/-! ## Giving up -/

/-- Giving up a unit that is live succeeds and gives what the unit defines. -/
theorem release_eq (stands : linker.Stands number state) (live : state ≠ .released) :
    ∃ unit ∈ linker.shelf state, unit.number = number ∧
      release number linker = .ok unit.defined (linker.giveUp unit) := by
  obtain ⟨unit, only, _⟩ := stands.once
  have there : unit ∈ (linker.shelf state).filter (·.number = number) := only ▸ List.mem_cons_self
  obtain ⟨member, own⟩ := List.mem_filter.mp there
  obtain rfl := of_decide_eq_true own
  have found : (linker.shelf state).find? (·.number = unit.number) = some unit := by
    rw [← List.head?_filter, only, List.head?_cons]
  have missed (place : UnitState) (other : place ≠ state) :
      (linker.shelf place).find? (·.number = unit.number) = none := by
    rw [List.find?_eq_none]
    simpa using stands.nowhereElse place other
  have kept (place : UnitState) (other : place ≠ state) :
      (linker.shelf place).filter (·.number ≠ unit.number) = linker.shelf place := by
    rw [List.filter_eq_self]
    simpa using stands.nowhereElse place other
  refine ⟨unit, member, rfl, ?_⟩
  unfold release
  rw [get_bind]
  cases state with
  | pending =>
    have absent := missed .materialized (by decide)
    have same := kept .materialized (by decide)
    simp only [shelf] at found absent same
    rw [absent, found, giveUp, same]
    rfl
  | materialized =>
    have same := kept .pending (by decide)
    simp only [shelf] at found same
    rw [found, giveUp, same]
    rfl
  | released => exact (live rfl).elim

/-- A unit that is given up stands among the released ones. -/
theorem giveUp (stands : linker.Stands number state) (live : state ≠ .released)
    {unit : CompiledUnit} (own : unit.number = number) :
    (linker.giveUp unit).Stands number .released := by
  have older : linker.released.filter (·.number = number) = [] :=
    filter_number_eq_nil_iff.mpr (stands.nowhereElse .released live.symm)
  constructor
  case once =>
    refine ⟨{ unit with state := .released }, ?_, rfl⟩
    simp [shelf, Linker.giveUp, List.filter_append, older, own]
  case nowhereElse =>
    intro place apart other member
    cases place with
    | pending => simpa [own] using (List.mem_filter.mp member).2
    | materialized => simpa [own] using (List.mem_filter.mp member).2
    | released => exact (apart rfl).elim

/-- Giving up another unit leaves the unit where it is. -/
theorem giveUp_other (stands : linker.Stands number state) {unit : CompiledUnit}
    (other : unit.number ≠ number) : (linker.giveUp unit).Stands number state := by
  apply stands.congr
  have among (units : List CompiledUnit) :
      (units.filter (·.number ≠ unit.number)).filter (·.number = number) =
        units.filter (·.number = number) := by
    rw [List.filter_filter]
    apply List.filter_congr
    intro older _
    by_cases own : older.number = number
    · simp [own, other.symm]
    · simp [own]
  intro place
  cases place with
  | pending => exact among linker.pending
  | materialized => exact among linker.materialized
  | released => simp [shelf, Linker.giveUp, List.filter_append, other]

end Stands

/-! ## What live units define -/

/-- A live unit of the number defines the name. -/
def Defines (linker : Linker) (number : Nat) (name : String) : Prop :=
  ∃ unit ∈ linker.units, unit.number = number ∧ name ∈ unit.defined

/-- Live units are told apart by their numbers. -/
def Numbered (linker : Linker) : Prop :=
  ∀ unit ∈ linker.units, ∀ other ∈ linker.units, unit.number = other.number → unit = other

/-- A unit that is added defines its own names, and the others still define theirs. -/
theorem defines_add (linker : Linker) (unit : CompiledUnit) (number : Nat) (name : String) :
    (linker.add unit).Defines number name ↔
      linker.Defines number name ∨ unit.number = number ∧ name ∈ unit.defined := by
  have among (other : CompiledUnit) :
      other ∈ (linker.add unit).units ↔ other ∈ linker.units ∨ other = unit := by
    simp only [units, Linker.add, List.mem_append, List.mem_singleton]
    rw [or_right_comm]
  simp only [Defines, among, or_and_right, exists_or, exists_eq_left]

/-- A unit that is given up defines nothing any more, and the others still define theirs. -/
theorem defines_giveUp (linker : Linker) (unit : CompiledUnit) (number : Nat) (name : String) :
    (linker.giveUp unit).Defines number name ↔
      linker.Defines number name ∧ number ≠ unit.number := by
  simp only [Defines, mem_units_giveUp]
  constructor
  · rintro ⟨other, ⟨member, apart⟩, rfl, defines⟩
    exact ⟨⟨other, member, rfl, defines⟩, apart⟩
  · rintro ⟨⟨other, member, rfl, defines⟩, apart⟩
    exact ⟨other, ⟨member, apart⟩, rfl, defines⟩

/-- Units are live before they are materialized, and define the same. -/
theorem Numbered.defines_materialize {linker : Linker} (numbered : linker.Numbered)
    (platform : Platform) (number : Nat) (name : String) :
    (linker.materialize platform).2.Defines number name ↔ linker.Defines number name := by
  obtain ⟨ready, sublist, _, _, pending, materialized⟩ := units_materialize platform linker
  simp only [Defines, units, pending, materialized, List.mem_append, List.mem_filter]
  constructor
  · rintro ⟨unit, ⟨older, _⟩ | older | loaded, own, defines⟩
    · exact ⟨unit, .inl older, own, defines⟩
    · exact ⟨unit, .inr older, own, defines⟩
    · obtain ⟨other, newer, rfl⟩ := List.mem_map.mp loaded
      exact ⟨other, .inl (sublist.subset newer), own, defines⟩
  · rintro ⟨unit, older | older, own, defines⟩
    · by_cases chosen : unit.number ∈ ready.map (·.number)
      · obtain ⟨other, newer, same⟩ := List.mem_map.mp chosen
        obtain rfl := numbered other (List.mem_append_left _ (sublist.subset newer)) unit
          (List.mem_append_left _ older) same
        exact ⟨loadedUnit other, .inr (.inr (List.mem_map_of_mem newer)), own, defines⟩
      · exact ⟨unit, .inl ⟨older, decide_eq_true chosen⟩, own, defines⟩
    · exact ⟨unit, .inr (.inl older), own, defines⟩

/-! ## All units -/

/-- The units of the linker are those of the numbers that were returned, which are below the next
one, and each stands where its state belongs. -/
structure Shelves (returned : List Nat) (next : Nat) (linker : Linker) : Prop where
  once : returned.Nodup
  earlier (number : Nat) (member : number ∈ returned) : number < next
  stands (number : Nat) (member : number ∈ returned) : ∃ state, linker.Stands number state
  listed (place : UnitState) (unit : CompiledUnit) (member : unit ∈ linker.shelf place) :
    unit.number ∈ returned

namespace Shelves

variable {returned : List Nat} {next : Nat} {linker : Linker}

/-- At the beginning no number has been returned, and no unit is there. -/
theorem initial (next : Nat) : Shelves [] next .initial := by
  constructor
  case once => exact List.nodup_nil
  case earlier => exact nofun
  case stands => exact nofun
  case listed =>
    intro place unit member
    rw [shelf_initial] at member
    cases member

/-- Units that stand where their numbers say are told apart by them. -/
theorem numbered (shelves : Shelves returned next linker) : linker.Numbered := by
  intro unit member other memberToo same
  obtain ⟨place, _, there⟩ := (mem_units_iff ..).mp member
  obtain ⟨_, _, thereToo⟩ := (mem_units_iff ..).mp memberToo
  obtain ⟨state, stands⟩ := shelves.stands _ (shelves.listed place unit there)
  exact stands.eq_of_number there thereToo rfl same.symm

/-- A number may be left out. -/
theorem skip (shelves : Shelves returned next linker) : Shelves returned (next + 1) linker :=
  { shelves with
    earlier := fun number member => Nat.lt_succ_of_lt (shelves.earlier number member) }

/-- The next unit comes in. -/
theorem add (shelves : Shelves returned next linker) {unit : CompiledUnit}
    (own : unit.number = next) (pending : unit.state = .pending) :
    Shelves (returned ++ [next]) (next + 1) (linker.add unit) := by
  subst own
  have fresh : unit.number ∉ returned := fun member => Nat.lt_irrefl _ (shelves.earlier _ member)
  constructor
  case once =>
    refine List.nodup_append.mpr ⟨shelves.once, by simp, ?_⟩
    rintro number older _ last rfl
    exact fresh (List.mem_singleton.mp last ▸ older)
  case earlier =>
    intro number member
    rcases List.mem_append.mp member with older | last
    · exact Nat.lt_succ_of_lt (shelves.earlier number older)
    · exact Nat.lt_succ_of_le (Nat.le_of_eq (List.mem_singleton.mp last))
  case stands =>
    intro number member
    rcases List.mem_append.mp member with older | last
    · obtain ⟨state, stands⟩ := shelves.stands number older
      exact ⟨state, stands.add fun same => fresh (same ▸ older)⟩
    · rw [List.mem_singleton.mp last]
      refine ⟨.pending, .of_add pending fun place other there same => ?_⟩
      exact fresh (same ▸ shelves.listed place other there)
  case listed =>
    intro place other member
    cases place with
    | pending =>
      rcases List.mem_append.mp member with older | last
      · exact List.mem_append_left _ (shelves.listed .pending other older)
      · rw [List.mem_singleton.mp last]
        exact List.mem_append_right _ List.mem_cons_self
    | materialized => exact List.mem_append_left _ (shelves.listed .materialized other member)
    | released => exact List.mem_append_left _ (shelves.listed .released other member)

/-- To materialize moves units along, and each stands where it belongs afterwards. -/
theorem materialize (shelves : Shelves returned next linker) (platform : Platform) :
    Shelves returned next (linker.materialize platform).2 := by
  constructor
  case once => exact shelves.once
  case earlier => exact shelves.earlier
  case stands =>
    intro number member
    obtain ⟨state, stands⟩ := shelves.stands number member
    obtain ⟨later, there, _⟩ := stands.materialize platform
    exact ⟨later, there⟩
  case listed =>
    obtain ⟨ready, sublist, loaded⟩ := shelf_materialize platform linker
    intro place unit member
    rw [loaded] at member
    cases place with
    | pending => exact shelves.listed .pending unit (List.mem_filter.mp member).1
    | materialized =>
      rcases List.mem_append.mp member with older | newer
      · exact shelves.listed .materialized unit older
      · obtain ⟨waiting, among, rfl⟩ := List.mem_map.mp newer
        exact shelves.listed .pending waiting (sublist.subset among)
    | released => exact shelves.listed .released unit member

/-- To remember host functions leaves every unit where it belongs. -/
theorem withHostSymbols (shelves : Shelves returned next linker) (names : List String) :
    Shelves returned next (linker.withHostSymbols names) := by
  constructor
  case once => exact shelves.once
  case earlier => exact shelves.earlier
  case stands =>
    intro number member
    obtain ⟨state, stands⟩ := shelves.stands number member
    exact ⟨state, stands.withHostSymbols names⟩
  case listed =>
    intro place unit member
    rw [shelf_withHostSymbols] at member
    exact shelves.listed place unit member

/-- A unit is given up. -/
theorem giveUp (shelves : Shelves returned next linker) {unit : CompiledUnit}
    (live : unit ∈ linker.units) : Shelves returned next (linker.giveUp unit) := by
  obtain ⟨place, there, member⟩ := (mem_units_iff ..).mp live
  constructor
  case once => exact shelves.once
  case earlier => exact shelves.earlier
  case stands =>
    intro number among
    obtain ⟨state, stands⟩ := shelves.stands number among
    by_cases own : unit.number = number
    · obtain rfl := stands.place_eq member own
      exact ⟨.released, stands.giveUp there own⟩
    · exact ⟨state, stands.giveUp_other own⟩
  case listed =>
    intro shelf other among
    cases shelf with
    | pending => exact shelves.listed .pending other (List.mem_filter.mp among).1
    | materialized => exact shelves.listed .materialized other (List.mem_filter.mp among).1
    | released =>
      rcases List.mem_append.mp among with older | last
      · exact shelves.listed .released other older
      · rw [List.mem_singleton.mp last]
        exact shelves.listed place unit member

/-- A unit of the number is live and is given up, or there is none and nothing happens. -/
theorem release_cases (shelves : Shelves returned next linker) (number : Nat) :
    (∃ unit ∈ linker.units, unit.number = number ∧
      release number linker = .ok unit.defined (linker.giveUp unit)) ∨
    release number linker = .error (.run (.alreadyReleased (unitName number))) linker := by
  by_cases live : ∃ unit ∈ linker.units, unit.number = number
  · obtain ⟨unit, member, rfl⟩ := live
    obtain ⟨place, there, among⟩ := (mem_units_iff ..).mp member
    obtain ⟨state, stands⟩ := shelves.stands _ (shelves.listed place unit among)
    obtain rfl := stands.place_eq among rfl
    obtain ⟨other, amongToo, own, done⟩ := stands.release_eq there
    exact .inl ⟨other, (mem_units_iff ..).mpr ⟨_, there, amongToo⟩, own, done⟩
  · refine .inr (release_of_absent fun unit member own => ?_)
    exact live ⟨unit, member, own⟩

end Shelves

end Linker

end Reckon
