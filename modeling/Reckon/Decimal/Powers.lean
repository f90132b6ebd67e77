/-!
# Powers of the two bases

Binary and decimal scaling use powers of two and of ten all the time. Both are
positive, so dividing by one never goes wrong.
-/

namespace Reckon.Decimal

/-- A power of two. -/
def twoTo (exponent : Nat) : Nat := Nat.pow 2 exponent

/-- A power of ten. -/
def tenTo (exponent : Nat) : Nat := Nat.pow 10 exponent

/-- Powers of two can be divided by. -/
theorem twoTo_pos (exponent : Nat) : 0 < twoTo exponent := Nat.pow_pos (by decide)

/-- Powers of ten can be divided by. -/
theorem tenTo_pos (exponent : Nat) : 0 < tenTo exponent := Nat.pow_pos (by decide)

end Reckon.Decimal
