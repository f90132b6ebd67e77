import Reckon.Linker.State
import Reckon.Node
import Reckon.Token.Scan

/-!
# Names that programs spell

An identifier is a word of letters and digits. No word is one of the names that are
reserved for wrapped expressions, for their symbols, or for functions of the machine,
because each of these contains a character that is neither.
-/

namespace Reckon

/-- A name that a program can spell. -/
structure IsWord (name : String) : Prop where
  nonempty : name ≠ ""
  parts : ∀ c ∈ name.toList, isWordPart c = true

/-- Identifiers are words. -/
theorem Cursor.isWord_of_identifier {cursor : Cursor}
    (kind : cursor.nextToken.kind = .identifier) : IsWord cursor.nextToken.lexeme := by
  simp only [nextToken] at kind ⊢
  generalize cursor.pastGap.rest = text at kind ⊢
  cases text with
  | nil => cases kind
  | cons c rest =>
    simp only [lexemeInFront] at kind ⊢
    split at kind
    case isTrue letter =>
      rw [if_pos letter]
      refine ⟨by simp, ?_⟩
      intro part member
      simp only [String.toList_ofList, List.mem_cons] at member
      rcases member with rfl | later
      · simp [isWordPart, Char.isAlphanum, letter]
      · have all := List.all_takeWhile (p := isWordPart) (l := rest)
        exact List.all_eq_true.mp all part later
    case isFalse => split at kind <;> cases kind

/-- A name with some other character in it is no word. -/
theorem not_isWord {name : String} {c : Char} (member : c ∈ name.toList)
    (other : isWordPart c = false) : ¬ IsWord name := by
  intro word
  have part := word.parts c member
  rw [other] at part
  cases part

namespace IsWord

variable {name : String}

/-- A word is not the reserved name. -/
theorem ne_anonymousName (word : IsWord name) : name ≠ anonymousName := by
  rintro rfl
  exact not_isWord (c := '_') (by decide) (by decide) word

/-- Nor does it begin with the reserved name. -/
theorem ne_of_anonymous_append (word : IsWord name) (suffix : String) :
    name ≠ anonymousName ++ suffix := by
  rintro rfl
  refine not_isWord (c := '_') ?_ (by decide) word
  rw [String.toList_append]
  exact List.mem_append_left _ (by decide)

/-- Nor is it the name of an intrinsic function. -/
theorem not_isIntrinsic (word : IsWord name) : isIntrinsic name = false := by
  cases found : isIntrinsic name with
  | false => rfl
  | true =>
    obtain ⟨rest, whole⟩ := List.isPrefixOf_iff_prefix.mp found
    refine (not_isWord (c := '.') ?_ (by decide) word).elim
    rw [← whole]
    exact List.mem_append_left _ (by decide)

end IsWord

end Reckon
