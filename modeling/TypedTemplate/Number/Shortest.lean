import TypedTemplate.Number.Double

/-!
# Shortest decimals

The decimal with the fewest digits among those that read back as a given double,
and of these the one nearest to it. Only two points of each decimal grid matter,
the neighbours of the value, so the grids of one to seventeen digits are examined
in turn with exact natural arithmetic.
-/
namespace TypedTemplate.Shortest

/-- The number of decimal digits of a natural number; none for zero. -/
def digitCount (n : Nat) : Nat := if n = 0 then 0 else (Nat.toDigits 10 n).length

/-- The whole part of the decimal logarithm of a positive quotient. -/
def floorLog10 (num den : Nat) : Int :=
  if den ≤ num then (digitCount (num / den) : Int) - 1
  else -(digitCount ((den + num - 1) / num - 1) : Int)

/-- The interval of reals that round to a positive double, with the double itself,
as three numerators over one denominator. The ends belong to it when the mantissa
is even. -/
structure Interval where
  low : Nat
  value : Nat
  high : Nat
  den : Nat
  closed : Bool
  deriving Repr

/-- The interval of m · 2^e. Below a power of two the neighbour is half as far. -/
def interval (m : Nat) (e : Int) : Interval :=
  let below := if m = twoTo 52 ∧ Double.minExponent < e then 1 else 2
  let up := twoTo (e - 2)
  { low := (4 * m - below) * up, value := 4 * m * up, high := (4 * m + 2) * up,
    den := twoTo (2 - e), closed := m % 2 = 0 }

/-- Whether c · 10^k lies in an interval. -/
def Interval.holds (i : Interval) (c : Nat) (k : Int) : Bool :=
  let x := c * tenTo k * i.den
  let p := tenTo (-k)
  if i.closed then i.low * p ≤ x && x ≤ i.high * p else i.low * p < x && x < i.high * p

/-- The distance of c · 10^k from the value, in a unit that depends on k alone. -/
def Interval.distance (i : Interval) (c : Nat) (k : Int) : Nat :=
  let x : Int := (c * tenTo k * i.den : Nat)
  (x - (i.value * tenTo (-k) : Nat)).natAbs

/-- The better of the two neighbours of the value on the grid of 10^k, if one of
them lies in the interval. A tie goes to the even one. -/
def Interval.onGrid (i : Interval) (k : Int) : Option Nat :=
  let c := i.value * tenTo (-k) / (i.den * tenTo k)
  match i.holds c k, i.holds (c + 1) k with
  | true, true =>
    let a := i.distance c k
    let b := i.distance (c + 1) k
    if a < b then some c else if b < a then some (c + 1)
    else if c % 2 = 0 then some c else some (c + 1)
  | true, false => some c
  | false, true => some (c + 1)
  | false, false => none

/-- A number without the zeros at its end, and how many there were. The first
argument bounds their number. -/
def stripZeros : Nat → Nat → Nat × Nat
  | 0, c => (c, 0)
  | fuel + 1, c =>
    if c % 10 = 0 then
      let (d, k) := stripZeros fuel (c / 10)
      (d, k + 1)
    else (c, 0)

/-- The shortest decimal `d` · 10^`k` of a positive double m · 2^e. -/
def decimal (m : Nat) (e : Int) : Nat × Int :=
  let i := interval m e
  let top := floorLog10 i.value i.den
  let search := (List.range 17).findSome? fun (n : Nat) =>
    (i.onGrid (top - n)).map fun c => (c, top - n)
  match search with
  | some (c, k) =>
    let (d, z) := stripZeros 20 c
    (d, k + z)
  | none => (i.value / i.den, 0)

example : decimal 7205759403792794 (-56) = (1, -1) := by decide +kernel
example : decimal 1 (-1074) = (5, -324) := by decide +kernel
example : decimal (2 ^ 53 - 1) 971 = (17976931348623157, 292) := by decide +kernel

end TypedTemplate.Shortest
