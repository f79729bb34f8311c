import TypedTemplate.Number.Decimal

/-!
# Numbers

A number is whole, with any number of digits, or a double. Comparisons between the
two kinds are exact. Texts are read leniently: what is no numeral is not a number.
-/
namespace TypedTemplate

inductive Number where
  | whole (n : Int)
  | real (x : Double)
  deriving DecidableEq, Repr

namespace Number

/-- A number on the extended line, for comparisons. -/
inductive Place where
  | below
  | exactly (num : Int) (den : Nat)
  | above
  deriving DecidableEq, Repr

/-- Where a number lies; nowhere when it is not a number. -/
def place? : Number → Option Place
  | .whole n => some (.exactly n 1)
  | .real .nan => none
  | .real (.infinity negative) => some (if negative then .below else .above)
  | .real x => x.toRatio?.map fun (num, den) => .exactly num den

def Place.lt : Place → Place → Bool
  | .exactly a b, .exactly c d => a * d < c * b
  | .below, .below => false
  | .below, _ => true
  | .exactly .., .above => true
  | _, _ => false

/-- Strictly less, by value. -/
def lt (a b : Number) : Bool :=
  match a.place?, b.place? with
  | some p, some q => p.lt q
  | _, _ => false

/-- Equal by value: 1 and 1.0 are equal, and something that is not a number equals
nothing. -/
def same (a b : Number) : Bool :=
  match a.place?, b.place? with
  | some p, some q => !p.lt q && !q.lt p
  | _, _ => false

def isNaN : Number → Bool
  | .real x => x.isNaN
  | .whole _ => false

def isWhole : Number → Bool
  | .whole _ => true
  | .real x => x.isWhole

def exceedsDouble : Number → Bool
  | .whole n => wholeLimit ≤ n.natAbs
  | .real _ => false

/-- The nearest double, unless the number is too large. -/
def toDouble? : Number → Option Double
  | .whole n =>
    if wholeLimit ≤ n.natAbs then none else some (Double.ofRatio (n < 0) n.natAbs 1)
  | .real x => some x

def printed : Number → Text
  | .whole n => Text.ofInt n
  | .real x => Numeral.ofDouble x

/-- The greatest number of digits of a numeral that is read as a whole number, zeros
in front included. It is a bound that the host sets on numerals, and may lift. It is kept
for texts that stand for numbers; in constraints, in row counts and where whole numbers
are shown no bound is set. -/
def longestWhole : Nat := 4300

/-- The number that a text without surrounding blanks stands for: a decimal literal,
or a word for infinity. Digit separators are not read, and a numeral with very many
digits is taken as the nearest double. -/
def ofTrimmed (t : Text) : Number :=
  match Decimal.read? t with
  | some d =>
    if d.plain && (Decimal.takeSign t).2.length ≤ longestWhole then .whole d.toInt
    else .real d.toDouble
  | none =>
    let (negative, word) := Decimal.takeSign t
    let word := word.map Char.toLower
    if word = "inf" ∨ word = "infinity" then .real (.infinity negative) else .real .nan

/-- The number that a text stands for; a blank text is zero. -/
def ofText (t : Text) : Number :=
  let t := t.trim
  if t.isEmpty then .whole 0 else ofTrimmed t

/-- The number without its fraction, and zero when it is not finite. -/
def toIntLenient : Number → Int
  | .whole n => n
  | .real x => x.truncate?.getD 0

example : (Number.whole 1).same (.real (Double.ofRatio false 1 1)) = true := by decide
example : (Number.real .nan).same (.real .nan) = false := by decide
example : ofText " 12 " = .whole 12 := by decide
example : ofText "1_0" = .real .nan := by decide

end Number
end TypedTemplate
