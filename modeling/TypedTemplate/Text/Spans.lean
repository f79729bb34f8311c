import TypedTemplate.Text.Basic

/-!
# Spans of characters

A character class that follows no short rule is a list of spans of code points.
Such lists are written as lines of hexadecimal numbers, `1f0-1ff 2c6`, and read
into spans once.
-/
namespace TypedTemplate

/-- The code points from `first` to `last`, both included. -/
structure Span where
  first : Nat
  last : Nat
  deriving DecidableEq, Repr

def hexValue? (c : Char) : Option Nat :=
  let n := c.toNat
  if 48 ≤ n ∧ n ≤ 57 then some (n - 48)
  else if 97 ≤ n ∧ n ≤ 102 then some (n - 87)
  else if 65 ≤ n ∧ n ≤ 70 then some (n - 55)
  else none

/-- The value of a hexadecimal numeral; other characters count as zero. -/
def hexNumber (t : Text) : Nat :=
  t.foldl (fun n c => 16 * n + (hexValue? c).getD 0) 0

/-- The words of some lines, as they are separated by single spaces. -/
def wordsOfLines (lines : List String) : List Text :=
  lines.flatMap fun (line : String) => Text.splitOn ' ' line.toList

namespace Span

def contains (s : Span) (n : Nat) : Bool := s.first ≤ n && n ≤ s.last

/-- Reads `first-last`, or a single number that is both. -/
def ofWord (word : Text) : Span :=
  match Text.cut '-' word with
  | (one, none) => ⟨hexNumber one, hexNumber one⟩
  | (first, some last) => ⟨hexNumber first, hexNumber last⟩

def readLines (lines : List String) : List Span :=
  (wordsOfLines lines).map ofWord

end Span

/-- Whether a code point lies in one of the spans. -/
def inSpans (spans : List Span) (n : Nat) : Bool := spans.any (·.contains n)

/-- Characters `step` apart, from `first` to `last`, whose counterparts all lie at
the same distance from them. -/
structure CaseRun where
  first : Nat
  last : Nat
  step : Nat
  distance : Int
  deriving DecidableEq, Repr

namespace CaseRun

def counterpart? (r : CaseRun) (n : Nat) : Option Nat :=
  if r.first ≤ n ∧ n ≤ r.last ∧ (n - r.first) % r.step = 0 then
    some ((n : Int) + r.distance).toNat
  else none

/-- The member of the run that has a given counterpart. -/
def source? (r : CaseRun) (n : Nat) : Option Nat :=
  let member := ((n : Int) - r.distance).toNat
  if r.counterpart? member = some n then some member else none

/-- Reads `first-last/step+distance`, where the distance may carry a minus sign. -/
def ofWord (word : Text) : CaseRun :=
  let (span, tail) := Text.cut '/' word
  let s := Span.ofWord span
  match Text.cut '+' (tail.getD []) with
  | (step, some distance) => ⟨s.first, s.last, hexNumber step, hexNumber distance⟩
  | (signed, none) =>
    let (step, distance) := Text.cut '-' signed
    ⟨s.first, s.last, hexNumber step, -(hexNumber (distance.getD []) : Int)⟩

def readLines (lines : List String) : List CaseRun :=
  (wordsOfLines lines).map ofWord

/-- Reads `code=code,code` into a character and the characters it expands to. -/
def readExpansions (lines : List String) : List (Nat × List Nat) :=
  (wordsOfLines lines).map fun word =>
    let (code, tail) := Text.cut '=' word
    (hexNumber code, (Text.splitOn ',' (tail.getD [])).map hexNumber)

end CaseRun
end TypedTemplate
