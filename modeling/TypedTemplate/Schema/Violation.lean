import TypedTemplate.Fault
import TypedTemplate.Value.Order
import TypedTemplate.Value.Printed

/-!
# Violations

What data can violate in a schema, where it does, and how both are worded. A report
lists the violations of a check in the order in which they are met; a fault ends it.
Only the first violation of a report counts, and a fault only when no violation comes
before it. A check succeeds when its report is empty.
-/
namespace TypedTemplate

/-- A step into data: a key of an object or an index of a list. -/
inductive DataStep where
  | key (name : Text)
  | index (n : Int)
  deriving DecidableEq, Repr

def DataStep.written : DataStep → Text
  | .key name => '.' :: name
  | .index n => '[' :: Text.ofInt n ++ [']']

def dataPath (steps : List DataStep) : Text := "$data" ++ steps.flatMap DataStep.written

/-- What is violated. -/
inductive Breach where
  | type (value : Value) (types : List Value)
  | choices (value choices : Value)
  | constant (expected : Value)
  | belowMinimum (value : Number) (bound : Value)
  | aboveMaximum (value : Number) (bound : Value)
  | notAboveMinimum (value : Number) (bound : Value)
  | notBelowMaximum (value : Number) (bound : Value)
  | multiple (value : Number) (step : Value)
  | pattern (value pattern : Text)
  | format (value format : Text)
  /-- A text or a list has too little in it. -/
  | tooShort (value least : Value)
  /-- A text or a list has too much in it. -/
  | tooLong (value greatest : Value)
  | tooFewFields (value least : Value)
  | tooManyFields (value greatest : Value)
  /-- An object lacks one of the properties that are required of it. -/
  | missing (name : Value) (required : List Value)
  /-- An object lacks what another of its properties needs. -/
  | missingDependency (name : Value) (dependent : Text)
  /-- The schema `false` allows nothing. -/
  | nothingAllowed (value : Value)
  /-- A list has items beyond those that are allowed. -/
  | extraItems (allowed : Nat) (extra : List Value)
  | repeatedItems (value : Value)
  | noItemMatching (value : Value)
  | tooFewMatching (least : Value) (found : Nat)
  | tooManyMatching (greatest : Value)
  /-- An object has properties beyond those that are named. -/
  | extraFields (names : List Text)
  /-- An object has properties beyond those that are named or match a pattern. -/
  | unmatchedFields (names patterns : List Text)
  /-- A list has items that nothing in a schema speaks of. -/
  | unevaluatedItems (items : List Value)
  /-- An object has properties that nothing in a schema speaks of. -/
  | unevaluatedFields (names : List Text)
  /-- The same, where another schema speaks of them and is violated. -/
  | unfitUnevaluatedFields (names : List Text)
  | noneValid (value : Value)
  | severalValid (value : Value) (schemas : List Value)
  | excluded (value schema : Value)
  deriving DecidableEq

namespace Breach

def printedText (t : Text) : Text := Value.printed (.text t)

/-- Printed forms, with commas between them. -/
def printedAll (values : List Value) : Text := Text.join ", " (values.map Value.printed)

/-- Printed texts, with commas between them. -/
def printedTexts (texts : List Text) : Text := Text.join ", " (texts.map printedText)

/-- Whether a bound counts as the number `n`. -/
def isBound (n : Int) (bound : Value) : Bool := bound.amount?.any (·.same (.whole n))

/-- The items beyond those that are allowed: a single one stands for itself. -/
def printedExtra : List Value → Text
  | [v] => v.printed
  | extra => (Value.list extra).printed

/-- The end of a message about things that were found to be something. -/
def found (printed : Text) (count : Nat) (what : Text) : Text :=
  printed ++ (if count = 1 then " was " else " were ") ++ what ++ ")"

def message : Breach → Text
  | .type v types => v.printed ++ " is not of type " ++ printedAll types
  | .choices v given => v.printed ++ " is not one of " ++ given.printed
  | .constant expected => expected.printed ++ " was expected"
  | .belowMinimum v bound => v.printed ++ " is less than the minimum of " ++ bound.printed
  | .aboveMaximum v bound => v.printed ++ " is greater than the maximum of " ++ bound.printed
  | .notAboveMinimum v bound =>
    v.printed ++ " is less than or equal to the minimum of " ++ bound.printed
  | .notBelowMaximum v bound =>
    v.printed ++ " is greater than or equal to the maximum of " ++ bound.printed
  | .multiple v step => v.printed ++ " is not a multiple of " ++ step.printed
  | .pattern v p => printedText v ++ " does not match " ++ printedText p
  | .format v f => printedText v ++ " is not a " ++ printedText f
  | .tooShort v least =>
    v.printed ++ (if isBound 1 least then " should be non-empty" else " is too short")
  | .tooLong v greatest =>
    v.printed ++ (if isBound 0 greatest then " is expected to be empty" else " is too long")
  | .tooFewFields v least =>
    v.printed
      ++ (if isBound 1 least then " should be non-empty" else " does not have enough properties")
  | .tooManyFields v greatest =>
    v.printed
      ++ (if isBound 0 greatest then " is expected to be empty" else " has too many properties")
  | .missing name _ => name.printed ++ " is a required property"
  | .missingDependency name dependent =>
    name.printed ++ " is a dependency of " ++ printedText dependent
  | .nothingAllowed v => "False schema does not allow " ++ v.printed
  | .extraItems allowed extra =>
    "Expected at most " ++ Text.ofNat allowed ++ (if allowed = 1 then " item" else " items")
      ++ " but found " ++ Text.ofNat extra.length ++ " extra: " ++ printedExtra extra
  | .repeatedItems v => v.printed ++ " has non-unique elements"
  | .noItemMatching v => v.printed ++ " does not contain items matching the given schema"
  | .tooFewMatching least found =>
    "Too few items match the given schema (expected at least " ++ least.printed ++ " but only "
      ++ Text.ofNat found ++ " matched)"
  | .tooManyMatching greatest =>
    "Too many items match the given schema (expected at most " ++ greatest.printed ++ ")"
  | .extraFields names =>
    "Additional properties are not allowed ("
      ++ found (printedTexts names) names.length "unexpected"
  | .unmatchedFields names patterns =>
    printedTexts names ++ (if names.length = 1 then " does" else " do")
      ++ " not match any of the regexes: " ++ printedTexts patterns
  | .unevaluatedItems items =>
    "Unevaluated items are not allowed (" ++ found (printedAll items) items.length "unexpected"
  | .unevaluatedFields names =>
    "Unevaluated properties are not allowed ("
      ++ found (printedTexts names) names.length "unexpected"
  | .unfitUnevaluatedFields names =>
    "Unevaluated properties are not valid under the given schema ("
      ++ found (printedTexts names) names.length "unevaluated and invalid"
  | .noneValid v => v.printed ++ " is not valid under any of the given schemas"
  | .severalValid v schemas => v.printed ++ " is valid under each of " ++ printedAll schemas
  | .excluded v schema => v.printed ++ " should not be valid under " ++ schema.printed

end Breach

/-- A violation and the place where it was met. -/
structure Violation where
  location : List DataStep
  breach : Breach
  deriving DecidableEq

namespace Violation

/-- The place of an absent property, as it is written after the place of the object. -/
def absentPlace : Value → Text
  | .text name => DataStep.written (.key name)
  | .number (.whole n) => DataStep.written (.index n)
  | .bool b => '[' :: (Value.bool b).printed ++ [']']
  | name => '.' :: name.printed

/-- The path that is reported: a missing property is reported at its own path. -/
def path (v : Violation) : Text :=
  match v.breach with
  | .missing name _ => dataPath v.location ++ absentPlace name
  | _ => dataPath v.location

/-- The fault that reports a violation. To find what is missing, all required names are
looked at, and one of them that is no name is reported instead. -/
def toFault (v : Violation) : Fault :=
  match v.breach with
  | .missing _ required =>
    if required.any Value.isNested then .unfitOperand else .violation v.path v.breach.message
  | _ => .violation v.path v.breach.message

def inside (step : DataStep) (v : Violation) : Violation :=
  { v with location := step :: v.location }

end Violation

/-- The violations of a check in the order in which they are met, up to the end of the check
or the fault that ends it. What comes after a violation is found only when it is asked
for. -/
inductive Report where
  | empty
  | fail (f : Fault)
  | violated (v : Violation) (rest : Unit → Report)

namespace Report

/-- A single violation, met at the value itself. -/
def of (b : Breach) : Report := .violated ⟨[], b⟩ fun _ => .empty

/-- A violation unless a test succeeds. -/
def require (holds : Bool) (b : Breach) : Report := if holds then .empty else of b

def ofExcept : Except Fault Report → Report
  | .ok r => r
  | .error f => .fail f

/-- One check after another; after a fault nothing is checked. -/
def andThen : Report → (Unit → Report) → Report
  | .empty, next => next ()
  | .fail f, _ => .fail f
  | .violated v rest, next => .violated v fun _ => (rest ()).andThen next

def each {α : Type} (check : α → Report) : List α → Report
  | [] => .empty
  | x :: rest => (check x).andThen fun _ => each check rest

/-- The same report on a value met one step further in. -/
def inside (step : DataStep) : Report → Report
  | .empty => .empty
  | .fail f => .fail f
  | .violated v rest => .violated (v.inside step) fun _ => (rest ()).inside step

/-- The violation that counts, if there is one. -/
def first? : Report → Except Fault (Option Violation)
  | .empty => .ok none
  | .fail f => .error f
  | .violated v _ => .ok (some v)

def all : Report → Except Fault (List Violation)
  | .empty => .ok []
  | .fail f => .error f
  | .violated v rest => (v :: ·) <$> (rest ()).all

/-- Whether there is no violation, told as soon as it is known. -/
def succeeds (r : Report) : Except Fault Bool := do return (← r.first?).isNone

/-- Whether there is no violation, told at the end of the whole check. -/
def succeedsWhole (r : Report) : Except Fault Bool := do return (← r.all).isEmpty

theorem first?_eq_none_iff {r : Report} : r.first? = .ok none ↔ r = .empty := by
  cases r <;> simp [first?]

theorem andThen_eq_empty_iff {r : Report} {next : Unit → Report} :
    r.andThen next = .empty ↔ r = .empty ∧ next () = .empty := by
  cases r <;> simp [andThen]

/-- A check of several things succeeds when the check of each of them does. -/
theorem each_eq_empty_iff {α : Type} {check : α → Report} {l : List α} :
    each check l = .empty ↔ ∀ x ∈ l, check x = .empty := by
  induction l with
  | nil => simp [each]
  | cons x rest ih => simp [each, andThen_eq_empty_iff, ih]

theorem inside_eq_empty_iff {step : DataStep} {r : Report} :
    r.inside step = .empty ↔ r = .empty := by
  cases r <;> simp [inside]

theorem require_eq_empty_iff {holds : Bool} {b : Breach} :
    require holds b = .empty ↔ holds = true := by
  cases holds <;> simp [require, of]

end Report
end TypedTemplate
