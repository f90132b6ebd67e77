/-!
# How much two texts resemble each other

Two texts share the longest run of characters that occurs in both, and beside it whatever
the parts before it share and the parts after it share. Of several longest runs the one
that starts first in the left text is taken, and of these the one that starts first in
the right text. Texts resemble each other if, of the characters of both together, at least
three in five are shared.
-/

namespace Reckon

namespace Text

/-- A run that occurs in two texts: where it starts in each, and its length. -/
structure SharedRun where
  left : Nat
  right : Nat
  length : Nat
  deriving DecidableEq, Repr

/-- How many characters two texts have in common at their front. -/
def commonFront : List Char → List Char → Nat
  | a :: left, b :: right => if a = b then commonFront left right + 1 else 0
  | _, _ => 0

/-- For every pair of starts, the longest run that occurs there. -/
def sharedRuns (left right : List Char) : List SharedRun :=
  (List.range left.length).flatMap fun i =>
    (List.range right.length).map fun j => ⟨i, j, commonFront (left.drop i) (right.drop j)⟩

/-- The longest of several runs, the first one if there are more. -/
def longestOf (runs : List SharedRun) : SharedRun :=
  runs.foldl (fun best run => if best.length < run.length then run else best) ⟨0, 0, 0⟩

/-- The longest run that occurs in both texts. -/
def longestRun (left right : List Char) : SharedRun := longestOf (sharedRuns left right)

/-- The common front is part of the left text. -/
theorem commonFront_le_length (left right : List Char) :
    commonFront left right ≤ left.length := by
  fun_induction commonFront left right with
  | case1 => simpa
  | case2 => exact Nat.zero_le _
  | case3 => exact Nat.zero_le _

/-- The longest run is one of the runs, unless it is empty. -/
theorem longestOf_mem (runs : List SharedRun) :
    longestOf runs ∈ runs ∨ longestOf runs = ⟨0, 0, 0⟩ := by
  have kept (best : SharedRun) :
      runs.foldl (fun best run => if best.length < run.length then run else best) best ∈ runs ∨
        runs.foldl (fun best run => if best.length < run.length then run else best) best
          = best := by
    induction runs generalizing best with
    | nil => exact Or.inr rfl
    | cons run rest inductionHypothesis =>
      rw [List.foldl_cons]
      cases inductionHypothesis (if best.length < run.length then run else best) with
      | inl later => exact Or.inl (List.mem_cons_of_mem _ later)
      | inr same =>
        rw [same]
        split
        · exact Or.inl List.mem_cons_self
        · exact Or.inr rfl
  exact kept ⟨0, 0, 0⟩

/-- The longest run ends inside the left text. -/
theorem longestRun_le_length (left right : List Char) :
    (longestRun left right).left + (longestRun left right).length ≤ left.length := by
  cases longestOf_mem (sharedRuns left right) with
  | inl member =>
    rw [← longestRun] at member
    simp only [sharedRuns, List.mem_flatMap, List.mem_map, List.mem_range] at member
    obtain ⟨i, inside, j, _, run⟩ := member
    have front := commonFront_le_length (left.drop i) (right.drop j)
    rw [List.length_drop] at front
    rw [← run]
    show i + commonFront (left.drop i) (right.drop j) ≤ left.length
    omega
  | inr nothing =>
    rw [longestRun, nothing]
    exact Nat.zero_le _

/-- How many characters of the left text are shared. -/
def sharedLength (left right : List Char) : Nat :=
  match found : longestRun left right with
  | ⟨_, _, 0⟩ => 0
  | ⟨i, j, more + 1⟩ =>
    sharedLength (left.take i) (right.take j) + (more + 1) +
      sharedLength (left.drop (i + (more + 1))) (right.drop (j + (more + 1)))
termination_by left.length
decreasing_by
  all_goals
    have fits := longestRun_le_length left right
    simp only [found] at fits
    simp only [List.length_take, List.length_drop]
    omega

/-- Whether at least three in five characters are shared. -/
def resembles (left right : List Char) : Bool :=
  3 * (left.length + right.length) ≤ 10 * sharedLength left right

/-- Whether the first text resembles a given one strictly more than the second. -/
def resemblesMore (given first second : List Char) : Bool :=
  sharedLength second given * (first.length + given.length) <
    sharedLength first given * (second.length + given.length)

end Text

end Reckon
