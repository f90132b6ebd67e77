import Reckon.Proofs.Linker.Loading
import Reckon.Proofs.Pairing.Linking

/-!
# Loading units

Materializing loads pending units as one batch. Each call of theirs is answered by what
was live, by the batch itself, or by the host, and none of them defines what the image
defines already. So the linker goes on holding the same definitions.
-/

namespace Reckon

namespace Linker

namespace Linking

variable {platform : Platform} {holds : String → Nat → Code → Prop} {next : Nat} {linker : Linker}

section Load

variable {ready : List CompiledUnit}

/-- Where a unit comes from when pending ones are loaded. -/
theorem origin (unit : CompiledUnit) (member : unit ∈ (linker.load ready).units)
    (among : ready ⊆ linker.pending) :
    ∃ old ∈ linker.units, unit = { old with state := unit.state } := by
  simp only [units, load, List.mem_append, List.mem_filter, List.mem_map] at member
  rcases member with ⟨pending, _⟩ | materialized | ⟨old, member, rfl⟩
  · exact ⟨unit, List.mem_append_left _ pending, rfl⟩
  · exact ⟨unit, List.mem_append_right _ materialized, rfl⟩
  · exact ⟨old, List.mem_append_left _ (among member), rfl⟩

/-- Loading gives no number a second time. -/
theorem numbers_load (linking : Linking platform holds next linker)
    (sublist : ready.Sublist linker.pending) :
    ((linker.load ready).units.map (·.number)).Nodup := by
  have distinct := linking.numbers
  rw [units, List.map_append, List.nodup_append] at distinct
  obtain ⟨pending, materialized, apart⟩ := distinct
  have same : (ready.map loadedUnit).map (·.number) = ready.map (·.number) := by
    rw [List.map_map]
    rfl
  simp only [units, load, List.map_append, same, List.nodup_append]
  refine ⟨pending.sublist (List.filter_sublist.map _), ⟨materialized,
    pending.sublist (sublist.map _), ?_⟩, ?_⟩
  · intro number member other loaded same
    obtain ⟨unit, there, rfl⟩ := List.mem_map.mp loaded
    exact apart _ (List.mem_map_of_mem (sublist.subset there)) _ member same.symm
  · intro number member other later same
    obtain ⟨unit, there, rfl⟩ := List.mem_map.mp member
    obtain ⟨left, kept⟩ := List.mem_filter.mp there
    rcases List.mem_append.mp later with older | loaded
    · exact apart _ (List.mem_map_of_mem left) _ older same
    · rw [← same] at loaded
      exact (of_decide_eq_true kept) loaded

/-- A unit that is loaded defines nothing that the image defines. -/
theorem apart (linking : Linking platform holds next linker) (among : ready ⊆ linker.pending)
    {unit : CompiledUnit} (member : unit ∈ ready) {name : String} (defines : name ∈ unit.defined)
    (position : Nat) : ¬ DefinesAt linker.image position name := by
  rintro ⟨loaded, there, definesToo⟩
  have pending := List.mem_append_left linker.materialized (among member)
  rcases linking.image loaded (List.mem_of_getElem? there) with
    live | ⟨number, code, _, embodies, gone⟩
  · have same := linking.distinct unit loaded.unit pending (List.mem_append_right _ live) name
      defines definesToo
    exact linking.not_materialized (among member) (same ▸ live)
  · obtain ⟨symbol, arity, body, held, embodiesToo⟩ := linking.embodied unit pending
    rw [embodies.mem_defined_iff] at definesToo
    rw [embodiesToo.mem_defined_iff, definesToo] at defines
    exact gone arity body (defines ▸ held)

/-- What is in the image after loading was there before, or is loaded. -/
theorem getElem?_load {position : Nat} {loaded : Loaded}
    (there : (linker.load ready).image[position]? = some loaded) :
    linker.image[position]? = some loaded ∨
      ∃ index unit, position = linker.image.length + index ∧ ready[index]? = some unit ∧
        loaded = { unit := loadedUnit unit, batch := linker.batches } := by
  simp only [load] at there
  rw [List.getElem?_append] at there
  by_cases before : position < linker.image.length
  · rw [if_pos before] at there
    exact .inl there
  · rw [if_neg before] at there
    simp only [List.getElem?_map, Option.map_map, Option.map_eq_some_iff] at there
    obtain ⟨unit, found, rfl⟩ := there
    exact .inr ⟨position - linker.image.length, unit, by omega, found, rfl⟩

/-- After loading, a function is still defined at one position of the image only. -/
theorem sole_load (linking : Linking platform holds next linker)
    (sublist : ready.Sublist linker.pending) {position other : Nat} {name : String}
    (defines : DefinesAt (linker.load ready).image position name)
    (definesToo : DefinesAt (linker.load ready).image other name) : position = other := by
  have among := sublist.subset
  obtain ⟨loaded, there, names⟩ := defines
  obtain ⟨loadedToo, thereToo, namesToo⟩ := definesToo
  rcases getElem?_load there with old | ⟨index, unit, rfl, found, rfl⟩
  · rcases getElem?_load thereToo with oldToo | ⟨index, unit, rfl, found, rfl⟩
    · exact linking.sole _ _ name ⟨loaded, old, names⟩ ⟨loadedToo, oldToo, namesToo⟩
    · have member := List.mem_of_getElem? found
      exact (linking.apart among member namesToo position ⟨loaded, old, names⟩).elim
  · rcases getElem?_load thereToo with oldToo | ⟨indexToo, unitToo, rfl, foundToo, rfl⟩
    · have member := List.mem_of_getElem? found
      exact (linking.apart among member names other ⟨loadedToo, oldToo, namesToo⟩).elim
    · have same := linking.distinct unit unitToo
        (List.mem_append_left _ (among (List.mem_of_getElem? found)))
        (List.mem_append_left _ (among (List.mem_of_getElem? foundToo))) name names namesToo
      subst same
      have numbers := linking.numbers
      rw [units, List.map_append, List.nodup_append] at numbers
      have distinct : ready.Nodup := (numbers.1.of_map _).sublist sublist
      obtain ⟨less, _⟩ := List.getElem?_eq_some_iff.mp found
      rw [(List.getElem?_inj less distinct).mp (found.trans foundToo.symm)]

/-- What was loaded before stays bound as it was. -/
theorem bound?_load (linking : Linking platform holds next linker) {position : Nat}
    {loaded : Loaded} (old : linker.image[position]? = some loaded) (name : String) :
    bound? (linker.load ready).image position name = bound? linker.image position name := by
  refine bound?_append old ?_
  intro other member
  obtain ⟨unit, _, rfl⟩ := List.mem_map.mp member
  exact Nat.ne_of_gt (linking.batches loaded (List.mem_of_getElem? old))

/-- After loading, every call in the image is bound or left to the host. -/
theorem answered_load (linking : Linking platform holds next linker)
    (answers : ∀ unit ∈ ready, Answered platform (offered linker.liveDefinitions ready) unit)
    (position : Nat) (loaded : Loaded)
    (there : (linker.load ready).image[position]? = some loaded) (name : String)
    (required : name ∈ loaded.unit.required) :
    (bound? (linker.load ready).image position name).isSome = true ∨
      platform.provides name = true := by
  rcases getElem?_load there with old | ⟨index, unit, rfl, found, rfl⟩
  · rw [linking.bound?_load old]
    exact linking.answered position loaded old name required
  · refine (answers unit (List.mem_of_getElem? found) name required).imp ?_ id
    intro member
    rcases List.mem_append.mp member with live | together
    · obtain ⟨holder, materialized, defines⟩ := List.mem_flatMap.mp live
      obtain ⟨other, imaged, rfl⟩ := linking.imaged holder materialized
      obtain ⟨target, at_⟩ := List.mem_iff_getElem?.mp imaged
      have before := (List.getElem?_eq_some_iff.mp at_).1
      have found : (linker.load ready).image[target]? = some other :=
        (List.getElem?_append_left before).trans at_
      exact bound?_isSome there found defines (.inl (by omega))
    · obtain ⟨holder, member, defines⟩ := List.mem_flatMap.mp together
      obtain ⟨target, at_⟩ := List.mem_iff_getElem?.mp member
      have found : (linker.load ready).image[linker.image.length + target]? =
          some { unit := loadedUnit holder, batch := linker.batches } := by
        simp only [load]
        rw [List.getElem?_append_right (Nat.le_add_right _ _), Nat.add_sub_cancel_left]
        simp [at_]
      exact bound?_isSome there found defines (.inr rfl)

/-- Loading pending units whose calls are answered keeps the definitions that are held. -/
theorem load (linking : Linking platform holds next linker) (sublist : ready.Sublist linker.pending)
    (answers : ∀ unit ∈ ready, Answered platform (offered linker.liveDefinitions ready) unit) :
    Linking platform holds next (linker.load ready) := by
  have among := sublist.subset
  have numbers := linking.numbers_load sublist
  constructor
  case numbers => exact numbers
  case earlier =>
    intro unit member
    obtain ⟨old, there, same⟩ := origin unit member among
    rw [same]
    exact linking.earlier old there
  case numbered =>
    intro unit member number defines
    obtain ⟨old, there, same⟩ := origin unit member among
    rw [same] at defines ⊢
    exact linking.numbered old there number defines
  case embodied =>
    intro unit member
    obtain ⟨old, there, same⟩ := origin unit member among
    obtain ⟨symbol, arity, code, held, embodies⟩ := linking.embodied old there
    rw [same]
    exact ⟨symbol, arity, code, held, embodies.withState _⟩
  case present =>
    intro symbol arity code defines
    obtain ⟨unit, member, embodies⟩ := linking.present symbol arity code defines
    simp only [units, Linker.load, List.mem_append, List.mem_filter, List.mem_map]
    rcases List.mem_append.mp member with pending | materialized
    · by_cases loads : unit ∈ ready
      · exact ⟨loadedUnit unit, .inr (.inr ⟨unit, loads, rfl⟩), embodies.withState _⟩
      · refine ⟨unit, .inl ⟨pending, decide_eq_true ?_⟩, embodies⟩
        rintro ⟨other, there, same⟩
        have itself := linking.eq_of_number (List.mem_append_left _ (among there)) member same
        exact loads (itself ▸ there)
    · exact ⟨unit, .inr (.inl materialized), embodies⟩
  case distinct =>
    intro unit other member memberToo name defines definesToo
    obtain ⟨old, there, same⟩ := origin unit member among
    obtain ⟨oldToo, thereToo, sameToo⟩ := origin other memberToo among
    rw [same] at defines
    rw [sameToo] at definesToo
    have itself := linking.distinct old oldToo there thereToo name defines definesToo
    apply List.inj_on_of_nodup_map numbers member memberToo
    rw [same, sameToo, itself]
  case imaged =>
    intro unit member
    rcases List.mem_append.mp member with old | new
    · obtain ⟨loaded, there, same⟩ := linking.imaged unit old
      exact ⟨loaded, List.mem_append_left _ there, same⟩
    · exact ⟨_, List.mem_append_right _ (List.mem_map_of_mem new), rfl⟩
  case image =>
    intro loaded member
    rcases List.mem_append.mp member with old | new
    · exact (linking.image loaded old).imp (List.mem_append_left _) id
    · obtain ⟨unit, there, rfl⟩ := List.mem_map.mp new
      exact .inl (List.mem_append_right _ there)
  case sole => exact fun _ _ _ defines definesToo => linking.sole_load sublist defines definesToo
  case batches =>
    intro loaded member
    rcases List.mem_append.mp member with old | new
    · exact Nat.lt_succ_of_lt (linking.batches loaded old)
    · obtain ⟨unit, _, rfl⟩ := List.mem_map.mp new
      exact Nat.lt_succ_self _
  case answered => exact linking.answered_load answers

end Load

/-- Materializing keeps the definitions that are held. -/
theorem materialize (linking : Linking platform holds next linker) :
    Linking platform holds next (linker.materialize platform).2 := by
  obtain ⟨ready, names, sublist, answers, _, same⟩ := materialize_eq platform linker
  rw [same]
  split
  · exact linking.withHostSymbols names
  · exact (linking.load sublist answers).withHostSymbols names

end Linking

end Linker

end Reckon
