import TypedTemplate.Pattern.Match
import TypedTemplate.Pattern.Reader
import TypedTemplate.Schema.Format
import TypedTemplate.Schema.Violation

/-!
# Assertions

The keywords that hold a value against an operand without holding its parts against
other schemas. Each says something about values of one kind only and lets all others
pass. An operand that a keyword cannot use is a fault, met only where it is used. Lists
and objects are no names of anything.
-/
namespace TypedTemplate.Assertion

def amount (operand : Value) : Except Fault Number :=
  match operand.amount? with
  | some n => .ok n
  | none => .error .unfitOperand

/-- What an operand lists: the items of a list, the keys of an object, the characters
of a text. -/
def entries : Value → Except Fault (List Value)
  | .list items => .ok items
  | .object fields => .ok (fields.map fun field => .text field.1)
  | .text t => .ok (t.map fun c => .text [c])
  | _ => .error .unfitOperand

/-- Whether an operand counts as being there: null, false, zero and what is empty do
not. -/
def isOn : Value → Bool
  | .null => false
  | .bool b => b
  | .number n => !n.same (.whole 0)
  | .text t => !t.isEmpty
  | .list items => !items.isEmpty
  | .object fields => !fields.isEmpty

/-- Whether a value has a JSON type. A double without a fraction is an integer. -/
def hasType (type : Text) (v : Value) : Except Fault Bool :=
  if type = "array" then .ok (match v with
    | .list _ => true
    | _ => false)
  else if type = "boolean" then .ok (match v with
    | .bool _ => true
    | _ => false)
  else if type = "integer" then .ok (match v with
    | .number n => n.isWhole
    | _ => false)
  else if type = "null" then .ok (v == .null)
  else if type = "number" then .ok (match v with
    | .number _ => true
    | _ => false)
  else if type = "object" then .ok (match v with
    | .object _ => true
    | _ => false)
  else if type = "string" then .ok (match v with
    | .text _ => true
    | _ => false)
  else .error .unknownSchemaType

/-- Whether a value has one of some types. -/
def hasSomeType : List Value → Value → Except Fault Bool
  | [], _ => .ok false
  | .text type :: rest, v => do if ← hasType type v then return true else hasSomeType rest v
  | type :: _, _ => .error (if type.isNested then .unfitOperand else .unknownSchemaType)

/-- The types that an operand names: a text is one type. -/
def namedTypes : Value → Except Fault (List Value)
  | .text type => .ok [.text type]
  | operand => entries operand

def type (operand v : Value) : Report := .ofExcept do
  let types ← namedTypes operand
  return .require (← hasSomeType types v) (.type v types)

def enum (operand v : Value) : Report := .ofExcept do
  let choices ← entries operand
  return .require (choices.any (·.same v)) (.choices v operand)

def const (operand v : Value) : Report := .require (v.same operand) (.constant operand)

def minimum (operand : Value) : Value → Report
  | .number n => .ofExcept do
    let bound ← amount operand
    return .require (!n.lt bound) (.belowMinimum n operand)
  | _ => .empty

def maximum (operand : Value) : Value → Report
  | .number n => .ofExcept do
    let bound ← amount operand
    return .require (!bound.lt n) (.aboveMaximum n operand)
  | _ => .empty

def exclusiveMinimum (operand : Value) : Value → Report
  | .number n => .ofExcept do
    let bound ← amount operand
    return .require (!(n.lt bound || n.same bound)) (.notAboveMinimum n operand)
  | _ => .empty

def exclusiveMaximum (operand : Value) : Value → Report
  | .number n => .ofExcept do
    let bound ← amount operand
    return .require (!(bound.lt n || n.same bound)) (.notBelowMaximum n operand)
  | _ => .empty

/-- Whether a double is a whole multiple of another one; only finite ones can be. -/
def isMultipleExactly (x step : Double) : Bool :=
  match x.toRatio?, step.toRatio? with
  | some (a, b), some (c, d) => a * d % (b * c) == 0
  | _, _ => false

/-- Whether a number is a multiple of a whole step. A double is divided by the double
nearest to the step. -/
def isMultipleOfWhole (n : Number) (step : Int) : Except Fault Bool :=
  if step = 0 then .error .multipleOfZero
  else
    match n with
    | .whole n => .ok (n % step == 0)
    | .real x =>
      match (Number.whole step).toDouble? with
      | none => .error .numberTooLarge
      | some s => .ok (isMultipleExactly x s)

/-- Whether the quotient of a number and a step, as a double, is whole. A quotient too
large for a double is taken exactly. -/
def isMultipleOfReal (n : Number) (step : Double) : Except Fault Bool :=
  match n.toDouble? with
  | none => .error .numberTooLarge
  | some x =>
    match x.div? step with
    | none => .error .multipleOfZero
    | some .nan => .error .quotientNotANumber
    | some (.infinity _) =>
      match n.place?, step.toRatio? with
      | some (.exactly a b), some (c, d) => .ok (a * d % (b * c) == 0)
      | _, _ => .error .numberTooLarge
    | some q => .ok q.isWhole

/-- Whether a number is a multiple of a step. -/
def isMultiple (n : Number) : Number → Except Fault Bool
  | .whole step => isMultipleOfWhole n step
  | .real step => isMultipleOfReal n step

def multipleOf (operand : Value) : Value → Report
  | .number n => .ofExcept do
    let step ← amount operand
    return .require (← isMultiple n step) (.multiple n operand)
  | _ => .empty

/-- A violation unless a size reaches an operand. -/
def atLeast (size : Nat) (operand : Value) (b : Breach) : Report := .ofExcept do
  let bound ← amount operand
  return .require (!(Number.whole size).lt bound) b

/-- A violation if a size exceeds an operand. -/
def atMost (size : Nat) (operand : Value) (b : Breach) : Report := .ofExcept do
  let bound ← amount operand
  return .require (!bound.lt (.whole size)) b

def minLength (operand : Value) : Value → Report
  | .text t => atLeast t.length operand (.tooShort (.text t) operand)
  | _ => .empty

def maxLength (operand : Value) : Value → Report
  | .text t => atMost t.length operand (.tooLong (.text t) operand)
  | _ => .empty

def minItems (operand : Value) : Value → Report
  | .list items => atLeast items.length operand (.tooShort (.list items) operand)
  | _ => .empty

def maxItems (operand : Value) : Value → Report
  | .list items => atMost items.length operand (.tooLong (.list items) operand)
  | _ => .empty

def minProperties (operand : Value) : Value → Report
  | .object fields => atLeast fields.length operand (.tooFewFields (.object fields) operand)
  | _ => .empty

def maxProperties (operand : Value) : Value → Report
  | .object fields => atMost fields.length operand (.tooManyFields (.object fields) operand)
  | _ => .empty

/-- Whether a pattern is found in a text. -/
def isFound (source t : Text) : Except Fault Bool := do
  return (← Pattern.read source).found t

example : isFound "^(foo|bar)?$" "bar" = .ok true := rfl
example : isFound "(?i)abc" "xABC" = .ok true := rfl
example : isFound "(a)(?<=a)\\1$" "baa" = .ok true := rfl

def pattern (operand : Value) : Value → Report
  | .text t =>
    match operand with
    | .text source => .ofExcept do return .require (← isFound source t) (.pattern t source)
    | _ => .fail .unfitOperand
  | _ => .empty

def format (operand v : Value) : Report :=
  if operand.isNested then .fail .unfitOperand
  else
    match operand, v with
    | .text f, .text t => .require (Format.accepts f t) (.format t f)
    | _, _ => .empty

def uniqueItems (operand : Value) : Value → Report
  | .list items =>
    .require (!isOn operand || Value.areDistinct items) (.repeatedItems (.list items))
  | _ => .empty

/-- Whether an object has a property of some name. Only texts name properties. -/
def hasProperty (fields : Keyed Value) : Value → Bool
  | .text name => Keyed.has name fields
  | _ => false

def required (operand : Value) : Value → Report
  | .object fields => .ofExcept do
    let names ← entries operand
    return names |> .each fun name =>
      if name.isNested then .fail .unfitOperand
      else .require (hasProperty fields name) (.missing name names)
  | _ => .empty

def dependencies (fields : Keyed Value) (dependent : Text) (needed : List Value) : Report :=
  needed |> .each fun name =>
    if name.isNested then .fail .unfitOperand
    else .require (hasProperty fields name) (.missingDependency name dependent)

def dependentRequired (operand : Value) : Value → Report
  | .object fields =>
    match operand with
    | .object needs =>
      needs |> .each fun (dependent, needed) =>
        if Keyed.has dependent fields then
          .ofExcept (dependencies fields dependent <$> entries needed)
        else .empty
    | _ => .fail .notASchema
  | _ => .empty

end TypedTemplate.Assertion
