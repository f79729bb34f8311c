import TypedTemplate.Schema.Assertion
import TypedTemplate.Schema.Reference

/-!
# Parts of schemas

The operand of a keyword may itself be a schema, a list of schemas or a table of schemas.
Each of these stands here for what it says of a value, so that what a keyword asks is said
without recursion: the report that it makes, and the items and properties that it
evaluates, that is, speaks of when it succeeds. All of it depends on the standpoint from
which references are read.
-/
namespace TypedTemplate

/-- A schema and what it says. -/
structure Subschema where
  schema : Value
  report : Standpoint → Value → Report
  /-- The places of the items of a list that the schema evaluates. -/
  evaluatedItems : Standpoint → List Value → Except Fault (List Nat)
  /-- The names of the properties of an object that the schema evaluates. -/
  evaluatedNames : Standpoint → Keyed Value → Except Fault (List Text)

/-- The operand of a keyword as a schema, as a list of schemas and as a table of
schemas. -/
structure Operand where
  whole : Subschema
  each : Except Fault (List Subschema)
  named : Except Fault (Keyed Subschema)

abbrev Follow := Standpoint → Value → Except Fault (Subschema × Standpoint)

/-- Looks into something that stands in the place of a schema. Null and numbers cannot be
looked into. -/
def examine : Value → Except Fault Unit
  | .null | .number _ => .error .unfitOperand
  | _ => .ok ()

namespace Subschema

/-- The schemas `true` and `false`. -/
def ofBool (b : Bool) : Subschema where
  schema := .bool b
  report _ v := .require b (.nothingAllowed v)
  evaluatedItems _ _ := .ok []
  evaluatedNames _ _ := .ok []

/-- Something that stands in the place of a schema and is none. -/
def unreadable (v : Value) : Subschema where
  schema := v
  report _ _ := .ofExcept do
    examine v
    throw .notASchema
  evaluatedItems _ _ := do
    examine v
    throw .notASchema
  evaluatedNames _ _ := .error .notASchema

/-- The report on a value. References in the schema are read from its own identifier. -/
def held (s : Subschema) (here : Standpoint) (v : Value) : Report :=
  .ofExcept do return s.report (← here.enter s.schema) v

/-- The report on a part of the data that a step leads to. Where the schema is `false`, the
violation is reported at the whole whose part it is. -/
def descend (s : Subschema) (here : Standpoint) (step : DataStep) (v : Value) : Report :=
  match s.schema with
  | .bool false => s.held here v
  | _ => (s.held here v).inside step

/-- Whether a condition holds of a value. References in it are read from where it stands,
whatever its own identifier. -/
def accepts (s : Subschema) (here : Standpoint) (v : Value) : Except Fault Bool :=
  (s.report here v).succeeds

end Subschema

def prefixLength (siblings : Keyed Operand) : Except Fault Nat :=
  match Keyed.get? "prefixItems" siblings with
  | none => .ok 0
  | some operand => List.length <$> operand.each

/-- What is found for the members of a list, in order. -/
def gather {α β : Type} (find : α → Except Fault (List β)) : List α → Except Fault (List β)
  | [] => .ok []
  | x :: rest => do return (← find x) ++ (← gather find rest)

end TypedTemplate
