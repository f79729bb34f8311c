import TypedTemplate.Sorting.Search

/-!
# Runs

A run is a sorted stretch of a list. A list is cut into runs of a least length: the run
with which it begins is kept, or reversed when it strictly descends, and a run that is
too short takes in the items after it, each at the place that halving finds.

Whether an item comes strictly before another is asked of `before?`, which fails for
two items without an order.
-/
namespace TypedTemplate.Sorting

variable {α : Type} (before? : α → α → Option Bool)

/-- The items that go on as a run does that ends with a given item, and the rest. -/
def takeRun (goesOn : α → α → Option Bool) : α → List α → Option (List α × List α)
  | _, [] => some ([], [])
  | last, x :: rest => do
    if ← goesOn last x then
      let (run, rest) ← takeRun goesOn x rest
      return (x :: run, rest)
    else return ([], x :: rest)

/-- The sorted run with which a list begins, and the rest. -/
def firstRun : List α → Option (List α × List α)
  | [] => some ([], [])
  | [x] => some ([x], [])
  | x :: y :: rest => do
    if ← before? y x then
      let (run, rest) ← takeRun (fun last next => before? next last) y rest
      return ((x :: y :: run).reverse, rest)
    else
      let (run, rest) ← takeRun (fun last next => not <$> before? next last) y rest
      return (x :: y :: run, rest)

/-- Inserts items one after another into a run; an item stands after its equals. -/
def insertAll (run : List α) : List α → Option (List α)
  | [] => some run
  | x :: rest => do
    let place ← halve (fun y => not <$> before? x y) run .front (run.length + 1) 0 run.length
    insertAll (run.take place ++ x :: run.drop place) rest

/-- The least length of a run, for a list of a given length: the length itself below 64,
and else the length divided by the power of two that brings it to between 32 and 64,
rounded up. The first argument bounds the halvings, the last is 1 if any of them left a
remainder. -/
def leastRunFrom : Nat → Nat → Nat → Nat
  | 0, length, excess => length + excess
  | fuel + 1, length, excess =>
    if length < 64 then length + excess
    else leastRunFrom fuel (length / 2) (max excess (length % 2))

def leastRun (length : Nat) : Nat := leastRunFrom length length 0

/-- Cuts a list into sorted runs. The last may be shorter than the least length. The
second argument bounds the number of runs. -/
def runs? (least : Nat) : Nat → List α → Option (List (List α))
  | _, [] => some []
  | 0, items => some [items]
  | fuel + 1, items => do
    let (run, rest) ← firstRun before? items
    let missing := least - run.length
    let run ← insertAll before? run (rest.take missing)
    let runs ← runs? least fuel (rest.drop missing)
    return run :: runs

example : leastRun 63 = 63 ∧ leastRun 64 = 32 ∧ leastRun 127 = 64 ∧ leastRun 1000 = 63 := by
  decide

end TypedTemplate.Sorting
