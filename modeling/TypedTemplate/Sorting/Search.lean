/-!
# Searching a run

A search finds how many of the first items of a list have a property, on the
understanding that the items that have it come first. Only some items are asked about,
so for a list that breaks the understanding the answer depends on which ones. They are
fixed here: `gallop` asks about the items 1, 3, 7, 15 and so on until one lacks the
property, and `halve` asks about middle items.

Asking about an item can fail, and then the search fails.
-/
namespace TypedTemplate.Sorting

/-- The end of a list from which it is read. A list read from its back is given in
reverse. -/
inductive Side
  | front
  | back
deriving DecidableEq, Repr

/-- The middle place between two places. Where there are two middle places, it is the
later one in the list as it stands before any reversal. -/
def Side.middle : Side → Nat → Nat → Nat
  | .front, first, last => first + (last - first) / 2
  | .back, first, last => first + (last - first - 1) / 2

variable {α : Type} (stays : α → Option Bool) (items : List α)

/-- The number of items that have a property, when it is between two numbers. The first
argument bounds the halvings. -/
def halve (side : Side) : Nat → Nat → Nat → Option Nat
  | 0, first, _ => some first
  | fuel + 1, first, last =>
    if last ≤ first then some first
    else
      match items[side.middle first last]? with
      | none => some first
      | some x => do
        if ← stays x then halve side fuel (side.middle first last + 1) last
        else halve side fuel first (side.middle first last)

/-- The last item known to have a property, and the first that lacks it or the end,
among the items asked about in strides that double. The first argument bounds the
strides. -/
def gallop : Nat → Nat → Nat → Option (Nat × Nat)
  | 0, last, next => some (last, next)
  | fuel + 1, last, next =>
    match items[next]? with
    | none => some (last, items.length)
    | some x => do
      if ← stays x then gallop fuel next (2 * next + 1) else return (last, next)

/-- The number of items that have a property, found by doubling strides and then by
halving. -/
def countFirst (side : Side) : Option Nat :=
  match items with
  | [] => some 0
  | x :: _ => do
    if ← stays x then
      let (last, next) ← gallop stays items items.length 0 1
      halve stays items side items.length (last + 1) next
    else return 0

example : countFirst (fun x => some (decide (x < 6))) (List.range 9) .front = some 6 := by
  decide

end TypedTemplate.Sorting
