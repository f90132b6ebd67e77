import Reckon.Catalog

/-!
# Distinct names in a routine

Within a routine every parameter, block and register has a name of its own. A name
that is asked for and taken already gets a number after a point, counted up for each
name that is asked for. Names are never given back.

A routine starts with the empty name taken, and its parameters and its result ask for
the empty name before the parameters ask for their own.
-/

namespace Reckon

namespace Instruction

/-- The names in use, and how far each has been counted. -/
structure Names where
  taken : List String
  counts : Catalog String Nat

namespace Names

/-- The first numbered form of a name that is free, at most `limit` numbers on, and its number. -/
def numbered (taken : List String) (wanted : String) : Nat → Nat → String × Nat
  | 0, count => (wanted ++ "." ++ toString (count + 1), count + 1)
  | limit + 1, count =>
    let candidate := wanted ++ "." ++ toString (count + 1)
    if candidate ∈ taken then numbered taken wanted limit (count + 1) else (candidate, count + 1)

/-- Takes a name, or a numbered form of it if it is taken. As many numbers are tried as
names are taken, so one of them is free. -/
def take (names : Names) (wanted : String) : String × Names :=
  if wanted ∈ names.taken then
    let (name, count) :=
      numbered names.taken wanted names.taken.length ((names.counts.get? wanted).getD 0)
    (name, { taken := name :: names.taken, counts := names.counts.put wanted count })
  else (wanted, { names with taken := wanted :: names.taken })

/-- Takes several names in order. -/
def takeAll : List String → Names → List String × Names
  | [], names => ([], names)
  | wanted :: rest, names =>
    let (name, names) := names.take wanted
    let (others, names) := takeAll rest names
    (name :: others, names)

/-- The names of the parameters of a new routine, and the names in use after them. -/
def ofParameters (parameters : List String) : List String × Names :=
  let blank : Names := { taken := [""], counts := Catalog.empty }
  let places := (takeAll (parameters.map (fun _ => "") ++ [""]) blank).2
  takeAll parameters places

end Names

end Instruction

end Reckon
