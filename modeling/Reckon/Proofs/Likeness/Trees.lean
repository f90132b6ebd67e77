import Mathlib.Data.List.Forall2
import Reckon.Node.Comparison
import Reckon.Reading.Program

/-!
# Trees that differ in their places

The same words at another place of a text are read as the same tree with other places in
it. Two trees are alike if they differ in nothing else. A unit that stands where an
expression belongs is alike to none: no such tree is read.
-/

namespace Reckon

/-- A prototype without its place. -/
def Prototype.bare (prototype : Prototype) : Prototype := { prototype with location := none }

/-- The same name and the same parameters. -/
structure Prototype.Alike (left right : Prototype) : Prop where
  name : left.name = right.name
  parameters : left.parameters = right.parameters

/-- Prototypes are alike exactly if they are the same without their places. -/
theorem Prototype.alike_iff (left right : Prototype) :
    left.Alike right ↔ left.bare = right.bare := by
  constructor
  · rintro ⟨name, parameters⟩
    simp [bare, name, parameters]
  · intro same
    simp only [bare, Prototype.mk.injEq] at same
    exact ⟨same.1, same.2.1⟩

/-- Prototypes that are alike have as many parameters. -/
theorem Prototype.Alike.arity {left right : Prototype} (alike : left.Alike right) :
    left.arity = right.arity := congrArg List.length alike.parameters

/-- The same tree but for the places in it. -/
inductive Node.Alike : Node → Node → Prop
  | number (value : Float) (location other : Option Location) :
      Alike (.number value location) (.number value other)
  | reference (name : String) (location other : Option Location) :
      Alike (.reference name location) (.reference name other)
  | binary (operator : String) {left right leftToo rightToo : Node}
      (location other : Option Location) (alikeLeft : Alike left leftToo)
      (alikeRight : Alike right rightToo) :
      Alike (.binary operator left right location) (.binary operator leftToo rightToo other)
  | call (callee : String) {arguments argumentsToo : List Node} (location other : Option Location)
      (length : arguments.length = argumentsToo.length)
      (alike : ∀ pair ∈ arguments.zip argumentsToo, Alike pair.1 pair.2) :
      Alike (.call callee arguments location) (.call callee argumentsToo other)

/-- Trees that are alike one by one. -/
abbrev Node.AllAlike : List Node → List Node → Prop := List.Forall₂ Node.Alike

/-- Calls with arguments that are alike one by one are alike. -/
theorem Node.AllAlike.call {arguments argumentsToo : List Node}
    (alike : Node.AllAlike arguments argumentsToo) (callee : String)
    (location other : Option Location) :
    Node.Alike (.call callee arguments location) (.call callee argumentsToo other) :=
  .call callee location other alike.length_eq fun _ => List.forall₂_zip alike

/-- Trees that are the same one by one. -/
theorem Node.allSame_iff {left right : List Node} :
    Node.allSame left right = true ↔
      List.Forall₂ (fun tree other => tree.same other = true) left right := by
  induction left generalizing right with
  | nil => cases right <;> simp [Node.allSame]
  | cons tree left inductionHypothesis =>
    cases right with
    | nil => simp [Node.allSame]
    | cons other right => simp [Node.allSame, inductionHypothesis]

/-- The same function but for the places in it. -/
structure Definition.Alike (left right : Definition) : Prop where
  prototype : left.prototype.Alike right.prototype
  body : left.body.Alike right.body

/-- Bare expressions with bodies that are alike are alike. -/
theorem Definition.alike_anonymous {left right : Node} (alike : left.Alike right) :
    (Definition.anonymous left).Alike (.anonymous right) := ⟨⟨rfl, rfl⟩, alike⟩

/-- The same unit of a program but for the places in it. -/
inductive ProgramUnit.Alike : ProgramUnit → ProgramUnit → Prop
  | definition {left right : Definition} (alike : left.Alike right) :
      Alike (.definition left) (.definition right)
  | declaration {left right : Prototype} (alike : left.Alike right) :
      Alike (.declaration left) (.declaration right)
  | expression {left right : Definition} (alike : left.Alike right) :
      Alike (.expression left) (.expression right)

end Reckon
