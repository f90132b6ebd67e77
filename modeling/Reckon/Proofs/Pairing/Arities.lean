import Reckon.Proofs.Pairing.Loading

/-!
# Call sites and parameters

Where a call in the image is bound, its target should have as many parameters as the
call has arguments. If the calls of the definitions that are held fit their callees,
then loading keeps the calls in the image fitting: those loaded before stay bound as
they were, and those of the batch are bound to what is held.
-/

namespace Reckon

open Instruction

namespace Linker

/-- Every bound call in the image has as many arguments as its target has parameters, unless it is
excused. -/
def Fits (image : List Loaded) (excused : String → String → Prop) : Prop :=
  ∀ position loaded, image[position]? = some loaded →
    ∀ routine ∈ loaded.unit.routines, ∀ block, routine.block = some block →
      ∀ name given, (name, given) ∈ block.calls →
        ∀ target parameters content, bound? image position name = some target →
          image[target]?.bind (·.unit.block? name) = some (parameters, content) →
            parameters.length = given ∨ excused routine.symbol name

/-- Every call of a definition that is held fits the definition of its callee. -/
def Consistent (holds : String → Nat → Code → Prop) (excused : String → String → Prop) : Prop :=
  ∀ symbol arity code, holds symbol arity code → ∀ name given, (name, given) ∈ code.calls →
    ∀ expected inner, holds name expected inner → expected = given ∨ excused symbol name

/-- What fits fits with more excuses. -/
theorem Fits.weaken {image : List Loaded} {excused more : String → String → Prop}
    (fits : Fits image excused)
    (implies : ∀ caller callee, excused caller callee → more caller callee) :
    Fits image more := by
  intro position loaded there routine member block held name given made target parameters content
    bound found
  exact (fits position loaded there routine member block held name given made target parameters
    content bound found).imp id (implies _ _)

namespace Linking

variable {platform : Platform} {holds : String → Nat → Code → Prop} {next : Nat} {linker : Linker}
  {excused : String → String → Prop} {ready : List CompiledUnit}

/-- Loading keeps the calls in the image fitting. -/
theorem fits_load (linking : Linking platform holds next linker)
    (loads : Linking platform holds next (linker.load ready)) (among : ready ⊆ linker.pending)
    (words : ∀ symbol arity code, holds symbol arity code → ∀ call ∈ code.calls, IsWord call.1)
    (consistent : Consistent holds excused) (fits : Fits linker.image excused) :
    Fits (linker.load ready).image excused := by
  intro position loaded there routine member block held name given made target parameters content
    bound found
  rcases getElem?_load there with old | ⟨index, unit, _, itself, rfl⟩
  · rw [linking.bound?_load old] at bound
    have before := (definesAt_of_bound? bound).lt
    have same : (linker.load ready).image[target]? = linker.image[target]? :=
      List.getElem?_append_left before
    rw [same] at found
    exact fits position loaded old routine member block held name given made target parameters
      content bound found
  · obtain ⟨symbol, arity, code, holding, embodies⟩ := linking.embodied unit
      (List.mem_append_left _ (among (List.mem_of_getElem? itself)))
    obtain ⟨only, routines, named, renders⟩ := embodies.routine
    have single : routine ∈ unit.routines := member
    rw [routines, List.mem_singleton] at single
    subst single
    obtain ⟨same, _, _, heldToo, _, calls, _⟩ := renders.block
    rw [held] at heldToo
    cases heldToo
    rw [calls] at made
    obtain ⟨other, at_, defines⟩ := definesAt_of_bound? bound
    rw [at_] at found
    have word := words symbol arity code holding _ made
    rcases loads.image other (List.mem_of_getElem? at_) with live | ⟨number, _, _, embodiesToo, _⟩
    · obtain ⟨owner, expected, inner, holdingToo, embodiesToo⟩ :=
        loads.embodied other.unit (List.mem_append_right _ live)
      obtain rfl := (embodiesToo.mem_defined_iff name).mp defines
      obtain ⟨callee, body, blocks, _, rendersToo⟩ := embodiesToo.block?
      rw [Option.bind_some, blocks] at found
      cases found
      rw [rendersToo.parameters, named]
      exact consistent symbol arity code holding name given made expected inner holdingToo
    · rw [embodiesToo.mem_defined_iff] at defines
      exact (word.ne_of_anonymous_append _ defines).elim

/-- If calls fit what they find, those in the image still do after more is loaded. -/
theorem fits_materialize (linking : Linking platform holds next linker)
    (words : ∀ symbol arity code, holds symbol arity code → ∀ call ∈ code.calls, IsWord call.1)
    (consistent : Consistent holds excused) (fits : Fits linker.image excused) :
    Fits (linker.materialize platform).2.image excused := by
  obtain ⟨ready, names, sublist, answers, _, same⟩ := materialize_eq platform linker
  rw [same]
  split
  · exact fits
  · exact linking.fits_load (linking.load sublist answers) sublist.subset words consistent fits

end Linking

end Linker

end Reckon
