import TypedTemplate.Sorting.Stable
import TypedTemplate.Value.Basic

/-!
# Order of values

Texts are ordered by code point, numbers by value, and lists by their first items
that differ, a shorter list before its continuations. A boolean counts as 0 or 1.
Other values have no order, and lists have one only where those items have one.

Something that is not a number is neither before nor after a number. How a list that
holds it is sorted depends on which of its items are compared, so all lists of values are
sorted by the one sort `Sorting.sort?`.
-/
namespace TypedTemplate

/-- Whether a text comes before another or equals it, by code points. -/
def Text.le : Text → Text → Bool
  | [], _ => true
  | _ :: _, [] => false
  | a :: as, b :: bs => if a = b then le as bs else decide (a < b)

namespace Value

/-- The number that a value counts as: a boolean is 0 or 1. -/
def amount? : Value → Option Number
  | .bool b => some (.whole (if b then 1 else 0))
  | .number n => some n
  | _ => none

mutual

/-- Equality by value in which a boolean equals the number that it counts as. -/
def alike : Value → Value → Bool
  | .null, .null => true
  | .text a, .text b => a == b
  | .list xs, .list ys => alikeItems xs ys
  | .object fs, .object gs => fs.length == gs.length && alikeFields fs gs
  | v, w =>
    match v.amount?, w.amount? with
    | some m, some n => m.same n
    | _, _ => false

def alikeItems : List Value → List Value → Bool
  | [], [] => true
  | v :: vs, w :: ws => alike v w && alikeItems vs ws
  | _, _ => false

/-- Whether every field of the first object is in the second with a value alike. -/
def alikeFields : List (Text × Value) → List (Text × Value) → Bool
  | [], _ => true
  | (k, v) :: rest, gs =>
    (match Keyed.get? k gs with
      | some w => alike v w
      | none => false)
    && alikeFields rest gs

end

mutual

/-- Whether a value comes strictly before another, if the two have an order. -/
def before? : Value → Value → Option Bool
  | .text a, .text b => some (!Text.le b a)
  | .list xs, .list ys => beforeItems? xs ys
  | v, w =>
    match v.amount?, w.amount? with
    | some m, some n => some (m.lt n)
    | _, _ => none

def beforeItems? : List Value → List Value → Option Bool
  | _, [] => some false
  | [], _ :: _ => some true
  | v :: vs, w :: ws => if alike v w then beforeItems? vs ws else before? v w

end

/-- The values in order, if they have one. Equal values keep their places. -/
def sort? (values : List Value) : Option (List Value) := Sorting.sort? before? values

/-- Whether neighbours are different. -/
def neighboursDiffer : List Value → Bool
  | v :: w :: rest => !v.same w && neighboursDiffer (w :: rest)
  | _ => true

/-- Whether each two values are different. -/
def allDiffer : List Value → Bool
  | [] => true
  | v :: rest => rest.all (fun w => !v.same w) && allDiffer rest

def isBool : Value → Bool
  | .bool _ => true
  | _ => false

/-- Whether a list has no two equal values. Values that have an order are sorted, and
neighbours compared; booleans have none here. -/
def areDistinct (values : List Value) : Bool :=
  match if values.any isBool then none else sort? values with
  | some sorted => neighboursDiffer sorted
  | none => allDiffer values

example : sort? [.ofInt 2, .bool true, .ofInt 0, .bool false] =
    some [.ofInt 0, .bool false, .bool true, .ofInt 2] := by decide
example : sort? [.list [.ofInt 1, .null], .list [.ofInt 1], .list []] =
    some [.list [], .list [.ofInt 1], .list [.ofInt 1, .null]] := by decide
example : sort? [.null, .text "a"] = none := by decide

end Value
end TypedTemplate
