import TypedTemplate.Number.Shortest
import TypedTemplate.Text.Basic

/-!
# Numerals

How decimals are written: positional or with an exponent, with or without a
fraction, with groups of three digits. One record states the choices of a format;
the writers take it as an argument.
-/
namespace TypedTemplate

/-- The choices of a numeral format. -/
structure NumeralStyle where
  /-- The least decimal exponent that is written positionally. -/
  positionalFrom : Int
  /-- The first decimal exponent that is no longer written positionally. -/
  positionalBelow : Int
  /-- What follows a positional numeral without a fraction. -/
  wholeSuffix : Text
  /-- The least number of digits of an exponent. -/
  exponentWidth : Nat
  deriving Repr

namespace Numeral

/-- The format of printed doubles: positional from 0.0001 up to 16 digits, a
fraction always, the exponent signed and with two digits at least. -/
def printed : NumeralStyle := ⟨-4, 16, ".0", 2⟩

/-- Puts a separator before every group of three digits counted from the end. The
number is how many digits are left. -/
def groupFrom : Nat → Text → Text
  | _, [] => []
  | n, c :: rest =>
    if rest ≠ [] ∧ n % 3 = 1 then c :: ',' :: groupFrom (n - 1) rest
    else c :: groupFrom (n - 1) rest

/-- Digits in groups of three, the first with one to three. -/
def group (digits : Text) : Text := groupFrom digits.length digits

/-- The digits before and after the point of `d` · 10^`k`. -/
def parts (d : Nat) (k : Int) : Text × Text :=
  let digits := Text.ofNat d
  if 0 ≤ k then (digits ++ List.replicate k.toNat '0', [])
  else
    let places := (-k).toNat
    let padded := List.replicate (places + 1 - digits.length) '0' ++ digits
    (padded.take (padded.length - places), padded.drop (padded.length - places))

/-- A sign, whole digits and a fraction that may be empty. -/
def assemble (negative : Bool) (whole fraction : Text) : Text :=
  (if negative then ['-'] else []) ++ whole
    ++ (if fraction.isEmpty then [] else '.' :: fraction)

/-- `d` · 10^`k` with an exponent: one digit before the point. -/
def scientific (style : NumeralStyle) (d : Nat) (k : Int) : Text :=
  let digits := Text.ofNat d
  let exponent := k + digits.length - 1
  let width := Text.ofNat exponent.natAbs
  digits.take 1 ++ (if digits.length ≤ 1 then [] else '.' :: digits.drop 1) ++ ['e']
    ++ [if exponent < 0 then '-' else '+']
    ++ List.replicate (style.exponentWidth - width.length) '0' ++ width

/-- A finite double as its shortest decimal in a given style. -/
def ofFinite (style : NumeralStyle) (negative : Bool) (m : Nat) (e : Int) : Text :=
  let sign : Text := if negative then ['-'] else []
  if m = 0 then sign ++ ['0'] ++ style.wholeSuffix
  else
    let (d, k) := Shortest.decimal m e
    let top := k + (Text.ofNat d).length - 1
    if style.positionalFrom ≤ top ∧ top < style.positionalBelow then
      let (whole, fraction) := parts d k
      sign ++ whole ++ (if fraction.isEmpty then style.wholeSuffix else '.' :: fraction)
    else sign ++ scientific style d k

def ofDouble : Double → Text
  | .nan => "nan"
  | .infinity negative => if negative then "-inf" else "inf"
  | .finite negative m e => ofFinite printed negative m e

def groupedInt (n : Int) : Text :=
  (if n < 0 then ['-'] else []) ++ group (Text.ofNat n.natAbs)

/-- The shortest decimal of a finite double, positional, the whole part in groups. -/
def groupedFinite (negative : Bool) (m : Nat) (e : Int) : Text :=
  let (d, k) := if m = 0 then (0, 0) else Shortest.decimal m e
  let (whole, fraction) := parts d k
  assemble negative (group whole) fraction

/-- A quotient rounded to a number of decimal places, a half away from zero, written
with exactly that many digits after the point. -/
def fixedPlaces (negative : Bool) (num den places : Nat) : Text :=
  let scaled := roundHalfUp (num * tenTo places) den
  let (whole, fraction) := parts scaled (-(places : Int))
  assemble negative whole fraction

example : ofDouble (Double.ofRatio false (tenTo 16) 1) = "1e+16".toList := by decide +kernel
example : ofDouble (Double.ofRatio true 1 100000) = "-1e-05".toList := by decide +kernel
example : ofDouble (Double.ofRatio false 1 10000) = "0.0001".toList := by decide +kernel
example : groupedInt (-1234567) = "-1,234,567".toList := by decide +kernel
example : fixedPlaces true 5 1000 2 = "-0.01".toList := by decide +kernel

end Numeral
end TypedTemplate
