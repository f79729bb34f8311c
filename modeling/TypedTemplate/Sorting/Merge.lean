import TypedTemplate.Sorting.Search

/-!
# Merging two runs

Two neighbouring runs are merged from the front when the first is the shorter, and else
from the back, with both in reverse. Items are taken in turn, each from the run whose
first item is due. When one run has been chosen several times in a row, the runs are
searched for the items that are due together, until that pays no longer. How many times
is the patience of the sort; it falls while the searches pay and rises when they stop.

Of equal items, one of the first run comes before one of the second.
-/
namespace TypedTemplate.Sorting

/-- A merge in progress: the items merged so far, the latest first, and what is left of
the two runs. -/
structure Merge (α : Type) where
  merged : List α
  shorter : List α
  longer : List α

variable {α : Type}

namespace Merge

def takeShorter (m : Merge α) (count : Nat) : Merge α where
  merged := (m.shorter.take count).reverse ++ m.merged
  shorter := m.shorter.drop count
  longer := m.longer

def takeLonger (m : Merge α) (count : Nat) : Merge α where
  merged := (m.longer.take count).reverse ++ m.merged
  shorter := m.shorter
  longer := m.longer.drop count

/-- A merge is over when the longer run is used up, and when at most one item of the
shorter run is left: the last item of that run comes last of all. -/
def isOver (m : Merge α) : Bool :=
  match m.longer, m.shorter with
  | [], _ => true
  | _, [] => true
  | _, [_] => true
  | _, _ => false

/-- The merged list, once the merge is over. -/
def result (m : Merge α) : List α := m.merged.reverse ++ m.longer ++ m.shorter

def left (m : Merge α) : Nat := m.shorter.length + m.longer.length

end Merge

/-- Whether an item of the longer run is due before one of the shorter run. The shorter
run is the first of the two when they are merged from the front. -/
def Side.longerFirst (before? : α → α → Option Bool) : Side → α → α → Option Bool
  | .front, short, long => before? long short
  | .back, short, long => before? short long

namespace Merge

variable (longerFirst : α → α → Option Bool)

/-- Takes items in turn, until the merge is over or one run has been chosen as often in
a row as the patience says. The first number bounds the items, the others count how often
the shorter and the longer run were chosen last. -/
def inTurn (patience : Nat) : Nat → Nat → Nat → Merge α → Option (Merge α)
  | 0, _, _, m => some m
  | fuel + 1, ofShorter, ofLonger, m =>
    if m.isOver || patience ≤ max ofShorter ofLonger then some m
    else
      match m.shorter, m.longer with
      | short :: _, long :: _ => do
        if ← longerFirst short long then inTurn patience fuel 0 (ofLonger + 1) (m.takeLonger 1)
        else inTurn patience fuel (ofShorter + 1) 0 (m.takeShorter 1)
      | _, _ => some m

/-- Takes at once the items of the shorter run that are due before the longer run, and
then one of the longer run. Says how many were due. -/
def leapShorter (side : Side) (m : Merge α) : Option (Merge α × Nat) :=
  match m.longer with
  | [] => some (m, 0)
  | long :: _ => do
    let count ← countFirst (fun short => not <$> longerFirst short long) m.shorter side
    let m := m.takeShorter count
    return (if m.isOver then m else m.takeLonger 1, count)

/-- Takes at once the items of the longer run that are due before the shorter run, and
then one of the shorter run. Says how many were due. -/
def leapLonger (side : Side) (m : Merge α) : Option (Merge α × Nat) :=
  match m.shorter with
  | [] => some (m, 0)
  | short :: _ => do
    let count ← countFirst (fun long => longerFirst short long) m.longer side
    let m := m.takeLonger count
    return (if m.isOver then m else m.takeShorter 1, count)

/-- Searches both runs once, the one that came first in the list before the other. Says
how many items the longer of the two leaps took. -/
def leap (side : Side) (m : Merge α) : Option (Merge α × Nat) := do
  let (one, other) := match side with
    | .front => (leapShorter longerFirst side, leapLonger longerFirst side)
    | .back => (leapLonger longerFirst side, leapShorter longerFirst side)
  let (m, count) ← one m
  if m.isOver then return (m, count)
  let (m, count') ← other m
  return (m, max count count')

end Merge

/-- A leap that takes this many items pays. A sort begins with this patience. -/
def longLeap : Nat := 7

namespace Merge

variable (longerFirst : α → α → Option Bool)

/-- Searches the runs again and again, as long as that pays. The first number bounds the
searches, the second is the patience. -/
def leaps (side : Side) : Nat → Nat → Merge α → Option (Merge α × Nat)
  | 0, patience, m => some (m, patience)
  | fuel + 1, patience, m => do
    let (m, count) ← leap longerFirst side m
    if m.isOver then return (m, patience)
    else if longLeap ≤ count then leaps side fuel (max 1 (patience - 1)) m
    else return (m, patience + 1)

/-- Takes items in turn and by searches, until the merge is over. The first number bounds
the changes between the two, the second is the patience. -/
def complete (side : Side) : Nat → Nat → Merge α → Option (Merge α × Nat)
  | 0, patience, m => some (m, patience)
  | fuel + 1, patience, m => do
    let m ← inTurn longerFirst patience m.left 0 0 m
    if m.isOver then return (m, patience)
    let (m, patience) ← leaps longerFirst side m.left patience m
    if m.isOver then return (m, patience) else complete side fuel patience m

/-- Merges a shorter and a longer run, of which the longer has the first item. -/
def ofRuns (side : Side) (patience : Nat) (shorter longer : List α) :
    Option (List α × Nat) := do
  let m := takeLonger ⟨[], shorter, longer⟩ 1
  let (m, patience) ← complete longerFirst side m.left patience m
  return (m.result, patience)

end Merge

/-- Merges two neighbouring runs. The items of the first that come before all of the
second stay where they are, and so do those of the second that come after all of the
first. Says what patience the sort is left with. -/
def merge (before? : α → α → Option Bool) (patience : Nat) (first second : List α) :
    Option (List α × Nat) :=
  match second with
  | [] => some (first, patience)
  | x :: _ => do
    let settled ← countFirst (fun y => not <$> before? x y) first .front
    let head := first.take settled
    let first := first.drop settled
    match first.getLast? with
    | none => return (head ++ second, patience)
    | some x =>
      let settled ← countFirst (fun y => not <$> before? y x) second.reverse .back
      let tail := second.drop (second.length - settled)
      let second := second.take (second.length - settled)
      if first.length ≤ second.length then
        let (merged, patience) ←
          Merge.ofRuns (Side.front.longerFirst before?) .front patience first second
        return (head ++ merged ++ tail, patience)
      else
        let (merged, patience) ←
          Merge.ofRuns (Side.back.longerFirst before?) .back patience second.reverse first.reverse
        return (head ++ merged.reverse ++ tail, patience)

end TypedTemplate.Sorting
