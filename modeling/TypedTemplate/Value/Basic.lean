import TypedTemplate.Number.Basic
import TypedTemplate.Text.Keyed

/-!
# Values

The data that templates are filled with, and the schemas compiled from them: null,
booleans, numbers, texts, lists, and objects that keep the order of their keys.
-/
namespace TypedTemplate

inductive Value where
  | null
  | bool (b : Bool)
  | number (n : Number)
  | text (t : Text)
  | list (items : List Value)
  | object (fields : List (Text × Value))
  deriving Repr, Inhabited

namespace Value

def ofInt (n : Int) : Value := .number (.whole n)

/-- The value at a key of an object; anything else has no keys. -/
def field? (key : Text) : Value → Option Value
  | .object fields => Keyed.get? key fields
  | _ => none

/-- Whether a value has parts. -/
def isNested : Value → Bool
  | .list _ | .object _ => true
  | _ => false

mutual

/-- Equality by value: numbers are equal when they lie at the same place, objects
when they have the same keys with equal values in any order. Booleans are no
numbers. -/
def same : Value → Value → Bool
  | .null, .null => true
  | .bool a, .bool b => a == b
  | .number a, .number b => a.same b
  | .text a, .text b => a == b
  | .list xs, .list ys => sameItems xs ys
  | .object fs, .object gs => fs.length == gs.length && sameFields fs gs
  | _, _ => false

def sameItems : List Value → List Value → Bool
  | [], [] => true
  | x :: xs, y :: ys => same x y && sameItems xs ys
  | _, _ => false

/-- Whether every field of the first object is in the second with an equal value. -/
def sameFields : List (Text × Value) → List (Text × Value) → Bool
  | [], _ => true
  | (k, v) :: rest, gs =>
    (match Keyed.get? k gs with
      | some w => same v w
      | none => false)
    && sameFields rest gs

end

mutual

/-- Equality as written: two values are equal when they have the same form. -/
def decEq : (a b : Value) → Decidable (a = b)
  | .null, b => match b with
    | .null => isTrue rfl
    | .bool _ | .number _ | .text _ | .list _ | .object _ => isFalse nofun
  | .bool x, b => match b with
    | .bool y => if h : x = y then isTrue (h ▸ rfl) else isFalse (by simpa using h)
    | .null | .number _ | .text _ | .list _ | .object _ => isFalse nofun
  | .number x, b => match b with
    | .number y => if h : x = y then isTrue (h ▸ rfl) else isFalse (by simpa using h)
    | .null | .bool _ | .text _ | .list _ | .object _ => isFalse nofun
  | .text x, b => match b with
    | .text y => if h : x = y then isTrue (h ▸ rfl) else isFalse (by simpa using h)
    | .null | .bool _ | .number _ | .list _ | .object _ => isFalse nofun
  | .list xs, b => match b with
    | .list ys => match decEqItems xs ys with
      | isTrue h => isTrue (h ▸ rfl)
      | isFalse h => isFalse (by simpa using h)
    | .null | .bool _ | .number _ | .text _ | .object _ => isFalse nofun
  | .object fs, b => match b with
    | .object gs => match decEqFields fs gs with
      | isTrue h => isTrue (h ▸ rfl)
      | isFalse h => isFalse (by simpa using h)
    | .null | .bool _ | .number _ | .text _ | .list _ => isFalse nofun

def decEqItems : (xs ys : List Value) → Decidable (xs = ys)
  | [], [] => isTrue rfl
  | [], _ :: _ => isFalse nofun
  | _ :: _, [] => isFalse nofun
  | x :: xs, y :: ys => match decEq x y, decEqItems xs ys with
    | isTrue h, isTrue h' => isTrue (h ▸ h' ▸ rfl)
    | isFalse h, _ => isFalse (by simp [h])
    | _, isFalse h => isFalse (by simp [h])

def decEqFields : (fs gs : List (Text × Value)) → Decidable (fs = gs)
  | [], [] => isTrue rfl
  | [], _ :: _ => isFalse nofun
  | _ :: _, [] => isFalse nofun
  | (k, v) :: fs, (l, w) :: gs =>
    if hk : k = l then
      match decEq v w, decEqFields fs gs with
      | isTrue h, isTrue h' => isTrue (hk ▸ h ▸ h' ▸ rfl)
      | isFalse h, _ => isFalse (by simp [h])
      | _, isFalse h => isFalse (by simp [h])
    else isFalse (by simp [hk])

end

instance : DecidableEq Value := decEq

end Value
end TypedTemplate
