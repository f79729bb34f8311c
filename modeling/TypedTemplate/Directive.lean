import TypedTemplate.Path
import TypedTemplate.Text.Keyed
import TypedTemplate.Number.Decimal

/-!
# Directives

An element may be repeated over a list, as pages or as rows, and shown under a
condition. The attributes that say so are read when the element is built. Pages
take precedence over rows; an empty attribute counts as absent.
-/
namespace TypedTemplate

abbrev Attributes := Keyed Text

inductive IterationKind where
  | page | row
  deriving DecidableEq, Repr

namespace IterationKind

def attributeName : IterationKind → Text
  | .page => "data-page"
  | .row => "data-repeat"

/-- The name of the item when the attribute gives none. -/
def defaultItemName : IterationKind → Text
  | .page => "page"
  | .row => "item"

end IterationKind

/-- An iteration over the list at a path, with bounds on the number of rows: at
least `fixedRows` are shown, and at most `maxRows` items are taken. -/
structure Iteration where
  kind : IterationKind
  source : Text
  itemName : Text
  fixedRows : Option Nat
  maxRows : Option Nat
  deriving DecidableEq, Repr

namespace Directive

/-- The source and the alias of an iteration, `path` or `path as alias`. -/
def readIteration (expression defaultItemName : Text) : Except Fault (Text × Text) :=
  let t := expression.trim
  let isPathChar (c : Char) : Bool := Path.isIdentifierChar c || c == '.'
  let path := t.takeWhile isPathChar
  let rest := t.dropWhile isPathChar
  let fault : Fault := .grammar .invalidIteration (some expression)
  if !Path.isChain path then .error fault
  else if rest.isEmpty then .ok (path, defaultItemName)
  else
    match Text.after? "as" (Text.trimLeft rest) with
    | none => .error fault
    | some tail =>
      let itemName := Text.trimLeft tail
      if rest.head?.any isBlank && tail.head?.any isBlank && Path.isIdentifier itemName then
        .ok (path, itemName)
      else .error fault

/-- The row count that an attribute states: a positive whole number, without the host's
bound `Number.longestWhole` on its digits. -/
def readRowCount (attributes : Attributes) (name : Text) : Except Fault (Option Nat) :=
  match Keyed.get? name attributes with
  | none => .ok none
  | some raw =>
    let t := raw.trim
    let fault : Fault := .grammar (.notPositive name) (some raw)
    if t.isEmpty || !t.all isAnyDigit then .error fault
    else if !t.all isDecimal then .error .rowCountUnreadable
    else
      match Decimal.value (Decimal.takeDigits t).1 with
      | 0 => .error fault
      | n + 1 => .ok (some (n + 1))

/-- The iteration of one kind, if its attribute is there and not empty. -/
def readKind (attributes : Attributes) (kind : IterationKind) :
    Except Fault (Option Iteration) := do
  match Keyed.get? kind.attributeName attributes with
  | none | some [] => return none
  | some expression =>
    let (source, itemName) ← readIteration expression kind.defaultItemName
    let fixedRows ← readRowCount attributes "data-fixed-rows"
    let maxRows ← readRowCount attributes "data-max-rows"
    return some { kind, source, itemName, fixedRows, maxRows }

/-- The condition path, if one is stated. -/
def readCondition (attributes : Attributes) : Except Fault (Option Text) := do
  let condition := ((Keyed.get? "data-if" attributes).getD []).trim
  if condition.isEmpty then
    return none
  Path.check condition "conditional path"
  return some condition

/-- The iteration and the condition that the attributes of an element state. -/
def readAll (attributes : Attributes) : Except Fault (Option Iteration × Option Text) := do
  let pages ← readKind attributes .page
  let iteration ← match pages with
    | some i => pure (some i)
    | none => readKind attributes .row
  let condition ← readCondition attributes
  return (iteration, condition)

example : readIteration "a.b as c" "item" = .ok ("a.b".toList, "c".toList) := by rfl

end Directive
end TypedTemplate
