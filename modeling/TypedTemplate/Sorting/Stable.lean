import TypedTemplate.Sorting.Merge
import TypedTemplate.Sorting.Run

/-!
# Stable sorting

A list is cut into runs, and neighbouring runs are merged until one is left. The runs
are merged as the leaves of a tree are that halves the list: the boundary between two
runs has a power, the depth at which such a halving tells their middles apart, and of two
boundaries the one of the greater power is merged first.

For items without a consistent order the result depends on which of them are compared,
and this sort is fixed to the comparison. It fails when a comparison does.
-/
namespace TypedTemplate.Sorting

/-- The binary place at which two numbers below two first differ, each given as a
multiple of the same fraction; the first place is the one before the point. The first
argument bounds the places. -/
def firstDifference (unit : Nat) : Nat → Nat → Nat → Nat
  | 0, _, _ => 0
  | fuel + 1, low, high =>
    if unit ≤ low then firstDifference unit fuel (2 * (low - unit)) (2 * (high - unit)) + 1
    else if unit ≤ high then 1
    else firstDifference unit fuel (2 * low) (2 * high) + 1

/-- The power of the boundary between two neighbouring runs, by the place at which the
first starts and the lengths of the two. -/
def boundaryPower (total start first second : Nat) : Nat :=
  let middle := 2 * start + first
  firstDifference total total middle (middle + first + second)

/-- A run that waits for a merge, and the power of the boundary after it. -/
structure Waiting (α : Type) where
  items : List α
  power : Nat

variable {α : Type} (before? : α → α → Option Bool)

/-- Merges a run with those that wait before it, the nearest first, while the boundaries
between them are of more than a given power. -/
def mergeAbove (power : Nat) : List (Waiting α) → List α → Nat →
    Option (List α × List (Waiting α) × Nat)
  | [], run, patience => some (run, [], patience)
  | nearest :: waiting, run, patience => do
    if power < nearest.power then
      let (run, patience) ← merge before? patience nearest.items run
      mergeAbove power waiting run patience
    else return (run, nearest :: waiting, patience)

/-- Merges the runs that wait, the nearest first, with the last two of the list. The
earlier of the two is merged with the run before it when that is shorter than the last. -/
def mergeRest : List (Waiting α) → List α → List α → Nat → Option (List α)
  | [], first, second, patience => Prod.fst <$> merge before? patience first second
  | nearest :: waiting, first, second, patience => do
    if nearest.items.length < second.length then
      let (first, patience) ← merge before? patience nearest.items first
      mergeRest waiting first second patience
    else
      let (second, patience) ← merge before? patience first second
      mergeRest waiting nearest.items second patience

/-- Merges the runs that wait, the run that starts at a place, and those after it. -/
def mergeRuns (total : Nat) : List (List α) → Nat → List α → List (Waiting α) → Nat →
    Option (List α)
  | [], _, run, [], _ => some run
  | [], _, run, nearest :: waiting, patience =>
    mergeRest before? waiting nearest.items run patience
  | next :: runs, start, run, waiting, patience => do
    let power := boundaryPower total start run.length next.length
    let (merged, waiting, patience) ← mergeAbove before? power waiting run patience
    mergeRuns total runs (start + run.length) next (⟨merged, power⟩ :: waiting) patience

/-- The items in order, if they have one. Equal items keep their places. -/
def sort? (items : List α) : Option (List α) := do
  match ← runs? before? (leastRun items.length) items.length items with
  | [] => return []
  | run :: runs => mergeRuns before? items.length runs 0 run [] longLeap

end TypedTemplate.Sorting
