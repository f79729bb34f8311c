import TypedTemplate.Expression.Basic
import TypedTemplate.Schema.Semantics

/-!
# Schema keywords

How types, constraints and annotations are stated in a JSON Schema.
-/
namespace TypedTemplate.Keywords

def jsonType : DataType → Text
  | .integer => "integer"
  | .number => "number"
  | .boolean => "boolean"
  | .string | .date | .time | .datetime => "string"

def format? : DataType → Option Text
  | .date => some "date"
  | .time => some "time"
  | .datetime => some "date-time"
  | _ => none

/-- The keywords of a type; null is admitted beside it when asked for. -/
def ofType (type : DataType) (nullable : Bool) : Keyed Value :=
  let base : Value := .text (jsonType type)
  ("type", if nullable then .list [base, .text "null"] else base)
    :: (format? type).toList.map fun format => ("format", .text format)

/-- The keywords of constraints; of a repeated kind the last one counts. -/
def ofConstraints (constraints : List Constraint) : Keyed Value :=
  Keyed.ofEntries (constraints.map fun c => (c.kind.schemaKeyword, c.operand))

/-- The keyword of a text, unless it is empty or absent. -/
def ofText (keyword : Text) : Option Text → Keyed Value
  | none | some [] => []
  | some t => [(keyword, .text t)]

/-- The keywords of an annotation; empty parts state nothing. -/
def ofSemantics (a : Semantics) : Keyed Value :=
  ofText "description" a.description ++ ofText "x-instruction" a.instruction
    ++ match a.examples with
      | none | some [] => []
      | some examples => [("examples", .list (examples.map Value.text))]

end TypedTemplate.Keywords
