import TypedTemplate.Number.Numeral
import TypedTemplate.Text.Class

/-!
# Decimal literals

A decimal literal is an optional sign, digits with at most one point among them
(at least one digit on either side), and an optional exponent. Digits of every
script are read. A literal keeps its exact value; the nearest double is taken from
that value, so reading never rounds twice.
-/
namespace TypedTemplate

/-- The exact content of a decimal literal: `digits` · 10^`exponent`, negated when
`negative` holds. `plain` records that neither point nor exponent was written. -/
structure Decimal where
  negative : Bool
  digits : Nat
  exponent : Int
  plain : Bool
  deriving DecidableEq, Repr

namespace Decimal

/-- The values of the digits at the beginning of a text, and what follows them. -/
def takeDigits : Text → List Nat × Text
  | [] => ([], [])
  | c :: rest =>
    match digitValue? c with
    | some d =>
      let (ds, tail) := takeDigits rest
      (d :: ds, tail)
    | none => ([], c :: rest)

def value (digits : List Nat) : Nat := digits.foldl (fun n d => 10 * n + d) 0

/-- The sign at the beginning of a text, if one is there, and what follows it. -/
def takeSign : Text → Bool × Text
  | '-' :: rest => (true, rest)
  | '+' :: rest => (false, rest)
  | t => (false, t)

/-- The digits of a literal before the exponent: the whole part, the fraction if a
point is written, and what follows. -/
def takeMantissa? (t : Text) : Option (List Nat × Option (List Nat) × Text) :=
  match takeDigits t with
  | ([], '.' :: rest) =>
    match takeDigits rest with
    | ([], _) => none
    | (fraction, tail) => some ([], some fraction, tail)
  | ([], _) => none
  | (whole, '.' :: rest) =>
    let (fraction, tail) := takeDigits rest
    some (whole, some fraction, tail)
  | (whole, tail) => some (whole, none, tail)

/-- The exponent that fills the rest of a literal; none is written when the rest is
empty. -/
def readExponent? : Text → Option (Option Int)
  | [] => some none
  | c :: rest =>
    if c == 'e' || c == 'E' then
      let (negative, digits) := takeSign rest
      match takeDigits digits with
      | ([], _) => none
      | (ds, []) => some (some (if negative then -(value ds : Int) else value ds))
      | _ => none
    else none

/-- The whole number that a text writes between blanks: a sign, and digits with single
underscores between them. -/
def whole? (t : Text) : Option Int :=
  let (negative, digits) := takeSign t.trim
  let groups := (Text.splitOn '_' digits).map takeDigits
  let n := value (groups.flatMap (·.1))
  if groups.all fun (ds, rest) => !ds.isEmpty && rest.isEmpty then
    some (if negative then -(n : Int) else n)
  else none

/-- Reads a text that is a decimal literal and nothing else. -/
def read? (t : Text) : Option Decimal := do
  let (negative, rest) := takeSign t
  let (whole, fraction, tail) ← takeMantissa? rest
  let exponent ← readExponent? tail
  some
    { negative
      digits := value (whole ++ fraction.getD [])
      exponent := exponent.getD 0 - (fraction.getD []).length
      plain := fraction.isNone && exponent.isNone }

/-- The double nearest to the value. Values far outside the range are settled by
their size alone. -/
def toDouble (d : Decimal) : Double :=
  let top := d.exponent + Shortest.digitCount d.digits
  if d.digits = 0 then Double.zero d.negative
  else if 400 < top then .infinity d.negative
  else if top < -400 then Double.zero d.negative
  else
    Double.ofRatio d.negative (d.digits * tenTo d.exponent) (tenTo (-d.exponent))

def toInt (d : Decimal) : Int := if d.negative then -(d.digits : Int) else d.digits

example : read? "-.5e3" = some ⟨true, 5, 2, false⟩ := by decide
example : read? "1.e" = none := by decide
example : read? "+007" = some ⟨false, 7, 0, true⟩ := by decide

end Decimal
end TypedTemplate
