import Reckon.NameSet

/-!
# Platforms

What programs compute with is given from outside: the arithmetic of doubles, the
comparison, the functions that no program defines, and how deep calls may nest.
Everything else about running a program is independent of the platform.
-/

namespace Reckon

/-- The operations with a double as their result. -/
inductive Arithmetic where
  | add
  | subtract
  | multiply
  deriving DecidableEq, Repr

/-- The operations that the four operators stand for. -/
inductive Operation where
  | arithmetic (kind : Arithmetic)
  | below
  deriving DecidableEq, Repr

/-- The meaning of an operator, if it has one. -/
def Operation.ofOperator? (operator : String) : Option Operation :=
  if operator = "+" then some (.arithmetic .add)
  else if operator = "-" then some (.arithmetic .subtract)
  else if operator = "*" then some (.arithmetic .multiply)
  else if operator = "<" then some .below
  else none

/-- An interpretation of the operations, the host functions by name, and how deep calls may nest.

The machine settles the last by the room on its stack. Operands take some of that room as well as
calls do, and so does whatever runs the program, so the number of calls that fit is not the same
for every expression. No property of programs rests on a particular number: what is said of
running them is said of every depth. -/
structure Platform where
  arithmetic : Arithmetic → Float → Float → Float
  below : Float → Float → Bool
  hostFunction? : String → Option (List Float → Float)
  depth : Nat

namespace Platform

/-- The same platform with room for another depth of calls. -/
def within (platform : Platform) (depth : Nat) : Platform := { platform with depth }

/-- Room is changed to what is asked for. -/
@[simp] theorem within_depth (platform : Platform) (depth : Nat) :
    (platform.within depth).depth = depth := rfl

example (platform : Platform) : platform.within platform.depth = platform := rfl

/-- Whether there is a host function of this name. -/
def provides (platform : Platform) (name : String) : Bool := (platform.hostFunction? name).isSome

/-- How much room there is has nothing to do with the functions of the host. -/
@[simp] theorem within_provides (platform : Platform) (depth : Nat) :
    (platform.within depth).provides = platform.provides := rfl

/-- Looks a host function up; a name that is found joins the names found before. -/
def lookUp (platform : Platform) (name : String) (found : NameSet) :
    Option (List Float → Float) × NameSet :=
  match platform.hostFunction? name with
  | some function => (some function, found.insert name)
  | none => (none, found)

/-- A truth value as a number. -/
def ofBit (bit : Bool) : Float := if bit then 1.0 else 0.0

/-- The result of an operation. A comparison gives one or zero. -/
def apply (platform : Platform) (operation : Operation) (left right : Float) : Float :=
  match operation with
  | .arithmetic kind => platform.arithmetic kind left right
  | .below => ofBit (platform.below left right)

end Platform

end Reckon
