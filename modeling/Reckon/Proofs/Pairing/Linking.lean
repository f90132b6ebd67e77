import Mathlib.Data.List.Nodup
import Reckon.Proofs.Linker.Binding
import Reckon.Proofs.Pairing.Units

/-!
# The linker beside a set of definitions

The pending and the materialized units are the embodiments of the definitions that hold,
one for each. The image holds the materialized units, and beside them only wrapped
expressions whose symbols no definition has any more. In the image no function is
defined twice, and every call is bound or left to the host. All of this is kept when a
unit is added, when pending units are materialized, and when a unit is given up.
-/

namespace Reckon

namespace Linker

/-- The units that have not been given up. -/
def units (linker : Linker) : List CompiledUnit := linker.pending ++ linker.materialized

/-- Pending units are told apart by their numbers if all units are. -/
theorem nodup_pending {linker : Linker} (numbered : (linker.units.map (·.number)).Nodup) :
    (linker.pending.map (·.number)).Nodup := by
  rw [units, List.map_append] at numbered
  exact (List.nodup_append.mp numbered).1

/-- The linker holds the definitions, in units with smaller numbers than the next. -/
structure Linking (platform : Platform) (holds : String → Nat → Code → Prop) (next : Nat)
    (linker : Linker) : Prop where
  numbers : (linker.units.map (·.number)).Nodup
  earlier (unit : CompiledUnit) (member : unit ∈ linker.units) : unit.number < next
  numbered (unit : CompiledUnit) (member : unit ∈ linker.units) (number : Nat)
    (defines : anonymousSymbol number ∈ unit.defined) : unit.number = number
  embodied (unit : CompiledUnit) (member : unit ∈ linker.units) :
    ∃ symbol arity code, holds symbol arity code ∧ Embodies unit symbol arity code
  present (symbol : String) (arity : Nat) (code : Code) (defines : holds symbol arity code) :
    ∃ unit ∈ linker.units, Embodies unit symbol arity code
  distinct (unit other : CompiledUnit) (member : unit ∈ linker.units)
    (memberToo : other ∈ linker.units) (name : String) (defines : name ∈ unit.defined)
    (definesToo : name ∈ other.defined) : unit = other
  imaged (unit : CompiledUnit) (member : unit ∈ linker.materialized) :
    ∃ loaded ∈ linker.image, loaded.unit = unit
  image (loaded : Loaded) (member : loaded ∈ linker.image) :
    loaded.unit ∈ linker.materialized ∨ ∃ number code, number < next ∧
      Embodies loaded.unit (anonymousSymbol number) 0 code ∧
      ∀ arity code, ¬ holds (anonymousSymbol number) arity code
  sole (position other : Nat) (name : String) (defines : DefinesAt linker.image position name)
    (definesToo : DefinesAt linker.image other name) : position = other
  batches (loaded : Loaded) (member : loaded ∈ linker.image) : loaded.batch < linker.batches
  answered (position : Nat) (loaded : Loaded) (there : linker.image[position]? = some loaded)
    (name : String) (required : name ∈ loaded.unit.required) :
    (bound? linker.image position name).isSome = true ∨ platform.provides name = true

namespace Linking

variable {platform : Platform} {holds : String → Nat → Code → Prop} {next : Nat} {linker : Linker}

/-- A linker without units holds no definitions. -/
theorem initial (platform : Platform) (holds : String → Nat → Code → Prop) (next : Nat)
    (none : ∀ symbol arity code, ¬ holds symbol arity code) :
    Linking platform holds next .initial := by
  constructor
  case numbers => exact List.nodup_nil
  case present => exact fun symbol arity code defines => (none symbol arity code defines).elim
  case sole => exact fun position other name ⟨loaded, there, _⟩ => by cases there
  case answered => exact fun position loaded there => by cases there
  case distinct => intro unit other member; cases member
  all_goals intro unit member
  all_goals cases member

/-- The same definitions may be told in another way. -/
theorem congr (linking : Linking platform holds next linker)
    {others : String → Nat → Code → Prop}
    (same : ∀ symbol arity code, holds symbol arity code ↔ others symbol arity code) :
    Linking platform others next linker := by
  have equal : holds = others := by
    funext symbol arity code
    exact propext (same symbol arity code)
  exact equal ▸ linking

/-- Host functions that were found change nothing. -/
theorem withHostSymbols (linking : Linking platform holds next linker) (names : List String) :
    Linking platform holds next (linker.withHostSymbols names) :=
  { linking with }

/-- A unit determines what it embodies by its name. -/
theorem eq_of_number (linking : Linking platform holds next linker) {unit other : CompiledUnit}
    (member : unit ∈ linker.units) (memberToo : other ∈ linker.units)
    (same : unit.number = other.number) : unit = other :=
  List.inj_on_of_nodup_map linking.numbers member memberToo same

/-- A pending unit is not materialized. -/
theorem not_materialized (linking : Linking platform holds next linker) {unit : CompiledUnit}
    (pending : unit ∈ linker.pending) : unit ∉ linker.materialized := by
  intro materialized
  have distinct := linking.numbers
  rw [units, List.map_append] at distinct
  have apart := (List.nodup_append.mp distinct).2.2
  exact apart _ (List.mem_map_of_mem pending) _ (List.mem_map_of_mem materialized) rfl

/-- Handing a unit off adds what it embodies. -/
theorem add (linking : Linking platform holds next linker) {unit : CompiledUnit} {symbol : String}
    {arity : Nat} {code : Code} (number : unit.number = next)
    (embodies : Embodies unit symbol arity code)
    (fresh : ∀ arity code, ¬ holds symbol arity code)
    (own : ∀ number, symbol = anonymousSymbol number → number = next) :
    Linking platform
      (fun name given body => holds name given body ∨ name = symbol ∧ given = arity ∧ body = code)
      (next + 1) (linker.add unit) := by
  have among (other : CompiledUnit) :
      other ∈ (linker.add unit).units ↔ other ∈ linker.units ∨ other = unit := by
    simp only [units, Linker.add, List.mem_append, List.mem_singleton]
    rw [or_right_comm]
  have absent (other : CompiledUnit) (member : other ∈ linker.units) : symbol ∉ other.defined := by
    intro defines
    obtain ⟨name, given, body, held, embodiesOther⟩ := linking.embodied other member
    rw [embodiesOther.mem_defined_iff] at defines
    exact fresh given body (defines ▸ held)
  have last : unit.number ∉ linker.units.map (·.number) := by
    intro member
    obtain ⟨other, present, same⟩ := List.mem_map.mp member
    have less := linking.earlier other present
    omega
  constructor
  case numbers =>
    have perm : ((linker.add unit).units.map (·.number)).Perm
        (unit.number :: linker.units.map (·.number)) := by
      simp only [units, Linker.add, List.map_append, List.map_cons, List.append_assoc,
        List.singleton_append]
      exact List.perm_middle
    exact perm.nodup_iff.mpr (List.nodup_cons.mpr ⟨last, linking.numbers⟩)
  case earlier =>
    intro other member
    rcases (among other).mp member with older | rfl
    · have less := linking.earlier other older
      omega
    · omega
  case numbered =>
    intro other member wrapped defines
    rcases (among other).mp member with older | rfl
    · exact linking.numbered other older wrapped defines
    · have same := (embodies.mem_defined_iff _).mp defines
      rw [number, own wrapped same.symm]
  case embodied =>
    intro other member
    rcases (among other).mp member with older | rfl
    · obtain ⟨name, given, body, held, embodiesOther⟩ := linking.embodied other older
      exact ⟨name, given, body, .inl held, embodiesOther⟩
    · exact ⟨symbol, arity, code, .inr ⟨rfl, rfl, rfl⟩, embodies⟩
  case present =>
    rintro name given body (held | ⟨rfl, rfl, rfl⟩)
    · obtain ⟨other, member, embodiesOther⟩ := linking.present name given body held
      exact ⟨other, (among other).mpr (.inl member), embodiesOther⟩
    · exact ⟨unit, (among unit).mpr (.inr rfl), embodies⟩
  case distinct =>
    intro first second member memberToo name defines definesToo
    rcases (among first).mp member with older | rfl
    · rcases (among second).mp memberToo with olderToo | rfl
      · exact linking.distinct first second older olderToo name defines definesToo
      · rw [embodies.mem_defined_iff] at definesToo
        exact (absent first older (definesToo ▸ defines)).elim
    · rcases (among second).mp memberToo with olderToo | rfl
      · rw [embodies.mem_defined_iff] at defines
        exact (absent second olderToo (defines ▸ definesToo)).elim
      · rfl
  case image =>
    intro loaded member
    rcases linking.image loaded member with live | ⟨wrapped, body, less, embodiesOther, gone⟩
    · exact .inl live
    · refine .inr ⟨wrapped, body, by omega, embodiesOther, ?_⟩
      rintro given inner (held | ⟨same, _, _⟩)
      · exact gone given inner held
      · have itself := own wrapped same.symm
        omega
  case imaged => exact linking.imaged
  case sole => exact linking.sole
  case batches => exact linking.batches
  case answered => exact linking.answered

end Linking

/-! ## Giving units up -/

/-- The linker without a unit, whether it was pending or materialized. -/
def giveUp (linker : Linker) (unit : CompiledUnit) : Linker :=
  { linker with
    pending := linker.pending.filter (·.number ≠ unit.number)
    materialized := linker.materialized.filter (·.number ≠ unit.number)
    released := linker.released ++ [{ unit with state := .released }] }

/-- The units that are left are those with other numbers. -/
theorem mem_units_giveUp {linker : Linker} {unit other : CompiledUnit} :
    other ∈ (linker.giveUp unit).units ↔ other ∈ linker.units ∧ other.number ≠ unit.number := by
  simp only [units, giveUp, ← List.filter_append, List.mem_filter, decide_eq_true_eq]

namespace Linking

variable {platform : Platform} {holds : String → Nat → Code → Prop} {next : Nat} {linker : Linker}

/-- Looking for the number of a unit finds that unit alone. -/
theorem find?_of_mem (linking : Linking platform holds next linker) {unit : CompiledUnit}
    {among : List CompiledUnit} (part : among ⊆ linker.units) (member : unit ∈ among) :
    among.find? (·.number = unit.number) = some unit :=
  find?_eq_of_sole member rfl fun _ memberToo same =>
    linking.eq_of_number (part memberToo) (part member) same

/-- No other unit has the number of a unit. -/
theorem number_ne (linking : Linking platform holds next linker) {unit : CompiledUnit}
    (member : unit ∈ linker.units) {among : List CompiledUnit} (part : among ⊆ linker.units)
    (absent : unit ∉ among) : ∀ other ∈ among, other.number ≠ unit.number := by
  intro other there same
  exact absent (linking.eq_of_number (part there) member same ▸ there)

/-- Giving a unit up succeeds and gives what the unit defines. -/
theorem release_eq (linking : Linking platform holds next linker) {unit : CompiledUnit}
    (member : unit ∈ linker.units) :
    release unit.number linker = .ok unit.defined (linker.giveUp unit) := by
  have pending := List.subset_append_left linker.pending linker.materialized
  have materialized := List.subset_append_right linker.pending linker.materialized
  have kept (others : List CompiledUnit) (part : others ⊆ linker.units) (absent : unit ∉ others) :
      others.filter (·.number ≠ unit.number) = others :=
    List.filter_eq_self.mpr fun other there =>
      decide_eq_true (linking.number_ne member part absent other there)
  unfold release
  apply (Action.get_bind ..).trans
  by_cases loaded : unit ∈ linker.materialized
  · have absent : unit ∉ linker.pending := fun waiting => linking.not_materialized waiting loaded
    rw [linking.find?_of_mem materialized loaded, giveUp, kept _ pending absent]
    rfl
  · have waiting : unit ∈ linker.pending := (List.mem_append.mp member).resolve_right loaded
    have missed : linker.materialized.find? (·.number = unit.number) = none := by
      refine List.find?_eq_none.mpr fun other there => ?_
      simpa using linking.number_ne member materialized loaded other there
    rw [missed, linking.find?_of_mem pending waiting, giveUp, kept _ materialized loaded]
    rfl

/-- Without the unit of a wrapped expression the linker holds the other definitions. -/
theorem giveUp (linking : Linking platform holds next linker) {unit : CompiledUnit}
    (member : unit ∈ linker.units) {number : Nat} {code : Code} (less : number < next)
    (embodies : Embodies unit (anonymousSymbol number) 0 code) :
    Linking platform
      (fun symbol given body => holds symbol given body ∧ symbol ≠ anonymousSymbol number) next
      (linker.giveUp unit) := by
  constructor
  case numbers =>
    have among : (linker.giveUp unit).units.Sublist linker.units := by
      simp only [units, Linker.giveUp, ← List.filter_append]
      exact List.filter_sublist
    exact linking.numbers.sublist (among.map _)
  case earlier => exact fun other there => linking.earlier other (mem_units_giveUp.mp there).1
  case numbered => exact fun other there => linking.numbered other (mem_units_giveUp.mp there).1
  case embodied =>
    intro other there
    obtain ⟨older, differs⟩ := mem_units_giveUp.mp there
    obtain ⟨symbol, given, body, held, embodiesToo⟩ := linking.embodied other older
    refine ⟨symbol, given, body, ⟨held, ?_⟩, embodiesToo⟩
    rintro rfl
    have same := linking.distinct other unit older member (anonymousSymbol number)
      ((embodiesToo.mem_defined_iff _).mpr rfl) ((embodies.mem_defined_iff _).mpr rfl)
    exact differs (congrArg (·.number) same)
  case present =>
    rintro symbol given body ⟨held, differs⟩
    obtain ⟨other, there, embodiesToo⟩ := linking.present symbol given body held
    refine ⟨other, mem_units_giveUp.mpr ⟨there, fun same => differs ?_⟩, embodiesToo⟩
    have itself := linking.eq_of_number there member same
    have defines := (embodiesToo.mem_defined_iff symbol).mpr rfl
    rw [itself] at defines
    exact (embodies.mem_defined_iff symbol).mp defines
  case distinct =>
    intro first second there thereToo
    exact linking.distinct first second (mem_units_giveUp.mp there).1
      (mem_units_giveUp.mp thereToo).1
  case imaged => exact fun other there => linking.imaged other (List.mem_filter.mp there).1
  case image =>
    intro loaded there
    rcases linking.image loaded there with live | ⟨other, body, lessToo, embodiesToo, gone⟩
    · by_cases itself : loaded.unit.number = unit.number
      · have same := linking.eq_of_number (List.mem_append_right _ live) member itself
        exact .inr ⟨number, code, less, same ▸ embodies, fun given body held => held.2 rfl⟩
      · exact .inl (List.mem_filter.mpr ⟨live, decide_eq_true itself⟩)
    · exact .inr ⟨other, body, lessToo, embodiesToo, fun given inner held =>
        gone given inner held.1⟩
  case sole => exact linking.sole
  case batches => exact linking.batches
  case answered => exact linking.answered

end Linking

end Linker

end Reckon
