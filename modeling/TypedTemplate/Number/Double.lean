import TypedTemplate.Number.Power

/-!
# Double-precision numbers

A double is held exactly: a sign, a whole mantissa and a power of two. Every
operation on doubles that templates need is a rounding of one quotient of natural
numbers to the nearest double, ties to the even mantissa, so arithmetic here is
arithmetic on natural numbers.
-/
namespace TypedTemplate

/-- A binary floating-point number. `finite s m e` is m · 2^e, negated when `s`
holds; the sign of zero is kept. -/
inductive Double where
  | nan
  | infinity (negative : Bool)
  | finite (negative : Bool) (mantissa : Nat) (exponent : Int)
  deriving DecidableEq, Repr, Inhabited

/-- The quotient rounded to the nearest natural number, a half to the even one. -/
def roundHalfEven (num den : Nat) : Nat :=
  let q := num / den
  let r := num % den
  if 2 * r < den then q
  else if den < 2 * r then q + 1
  else if q % 2 = 0 then q else q + 1

/-- The quotient rounded to the nearest natural number, a half upwards. -/
def roundHalfUp (num den : Nat) : Nat := (2 * num + den) / (2 * den)

namespace Double

def minExponent : Int := -1074

def maxExponent : Int := 971

def zero (negative : Bool) : Double := .finite negative 0 minExponent

/-- The whole part of the binary logarithm of a positive quotient. -/
def floorLog2 (num den : Nat) : Int :=
  let g : Int := num.log2 - den.log2
  if den * twoTo g ≤ num * twoTo (-g) then g else g - 1

/-- The double nearest to a quotient of natural numbers, infinite when it would
leave the range. -/
def ofRatio (negative : Bool) (num den : Nat) : Double :=
  if num = 0 then zero negative
  else
    let e := max (floorLog2 num den - 52) minExponent
    let m := roundHalfEven (num * twoTo (-e)) (den * twoTo e)
    let (m, e) := if m = twoTo 53 then (twoTo 52, e + 1) else (m, e)
    if maxExponent < e then .infinity negative else .finite negative m e

/-- Numerator and denominator of the magnitude m · 2^e. -/
def magnitude (m : Nat) (e : Int) : Nat × Nat := (m * twoTo e, twoTo (-e))

/-- The number as a quotient of a whole number and a positive denominator, when it
is finite. -/
def toRatio? : Double → Option (Int × Nat)
  | .nan | .infinity _ => none
  | .finite negative m e =>
    let (num, den) := magnitude m e
    some (if negative then -(num : Int) else num, den)

/-- Whether the number is finite and whole. -/
def isWhole (x : Double) : Bool :=
  match x.toRatio? with
  | some (num, den) => num % den == 0
  | none => false

/-- The number without its fraction, when it is finite. -/
def truncate? (x : Double) : Option Int :=
  x.toRatio?.map fun (num, den) => num.tdiv den

def isNaN : Double → Bool
  | .nan => true
  | _ => false

def isFinite : Double → Bool
  | .finite .. => true
  | _ => false

def isNegative : Double → Bool
  | .nan => false
  | .infinity negative | .finite negative _ _ => negative

/-- The quotient of two doubles, when the divisor is not zero. -/
def div? (x y : Double) : Option Double :=
  match y.toRatio? with
  | some (num, den) =>
    if num = 0 then none
    else
      match x with
      | .nan => some .nan
      | .infinity s => some (.infinity (s != y.isNegative))
      | .finite s m e =>
        let (n, d) := magnitude m e
        some (ofRatio (s != y.isNegative) (n * den) (d * num.natAbs))
  | none =>
    match x, y with
    | .finite s _ _, .infinity t => some (zero (s != t))
    | _, _ => some .nan

end Double

/-- The least magnitude of whole numbers that no double is nearest to. -/
def wholeLimit : Nat := twoTo 1024 - twoTo 970

example : Double.ofRatio false 1 10 = .finite false 7205759403792794 (-56) := by decide
example : Double.ofRatio true 1 (twoTo 1075) = .finite true 0 (-1074) := by decide +kernel
example : Double.ofRatio false wholeLimit 1 = .infinity false := by decide +kernel
example : (Double.ofRatio false (wholeLimit - 1) 1).isFinite = true := by decide +kernel

end TypedTemplate
