/-!
# Powers of two and ten

Doubles are scaled by powers of two and decimals by powers of ten. The exponents are
integers of which only the positive part counts, so a power with a negative exponent
is stated as the pair of `twoTo e` and `twoTo (-e)`, a numerator and a denominator.
-/
namespace TypedTemplate

/-- The power of two with an exponent; one when the exponent is negative. -/
def twoTo (e : Int) : Nat := Nat.pow 2 e.toNat

/-- The power of ten with an exponent; one when the exponent is negative. -/
def tenTo (e : Int) : Nat := Nat.pow 10 e.toNat

theorem twoTo_pos (e : Int) : 0 < twoTo e := Nat.pow_pos (by decide)

theorem tenTo_pos (e : Int) : 0 < tenTo e := Nat.pow_pos (by decide)

end TypedTemplate
