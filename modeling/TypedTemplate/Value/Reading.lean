import TypedTemplate.Fault
import TypedTemplate.Value.Printed

/-!
# Reading values

How template expressions take a value: as a condition, as the text that is shown,
and as a number. The rules follow what template authors expect of data: an empty
list is no false condition, whole numbers show no fraction.
-/
namespace TypedTemplate.Value

/-- Whether a value counts as false: null, false, zero, what is not a number, and
the empty text. A whole number beyond the range of doubles cannot be tested. -/
def isFalsy : Value → Except Fault Bool
  | .null => .ok true
  | .bool b => .ok !b
  | .text t => .ok t.isEmpty
  | .number n =>
    if n.exceedsDouble then .error .numberTooLarge
    else .ok (n.isNaN || n.same (.whole 0))
  | .list _ | .object _ => .ok false

/-- The text of a number: a whole number shows no fraction, whatever its form. All its
digits are shown: the host's bound `Number.longestWhole` is left out. -/
def displayNumber : Number → Text
  | .whole n => Text.ofInt n
  | .real .nan => "NaN"
  | .real (.infinity negative) => if negative then "-Infinity" else "Infinity"
  | .real x =>
    match x.isWhole, x.truncate? with
    | true, some n => Text.ofInt n
    | _, _ => Numeral.ofDouble x

def display : Value → Text
  | .null => []
  | .bool b => if b then "true" else "false"
  | .number n => displayNumber n
  | .text t => t
  | v => v.printed

/-- The number that a value stands for; lists and objects stand for none. -/
def toNumber : Value → Number
  | .null => .whole 0
  | .bool b => .whole (if b then 1 else 0)
  | .number n => n
  | .text t => Number.ofText t
  | .list _ | .object _ => .real .nan

@[simp] theorem display_text (t : Text) : display (.text t) = t := rfl

end TypedTemplate.Value
