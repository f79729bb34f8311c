import TypedTemplate.Schema.Subschema

/-!
# Evaluated parts

A schema evaluates the items and properties that its keywords speak of, also through the
schemas that it refers to or combines. Of alternatives and conditions only those count
that hold of the whole value. What nothing evaluates is left for the keywords
`unevaluatedItems` and `unevaluatedProperties`, which evaluate what they accept.
-/
namespace TypedTemplate.Evaluated

variable {α : Type} (follow : Follow) (siblings : Keyed Operand) (here : Standpoint)

/-- A fault of a reference as one of the search for what a schema evaluates. -/
def located : Fault → Fault
  | .unresolvedReference missing => .unevaluatedReference missing
  | fault => fault

/-- What is found in the schemas that references lead to. -/
def inReferences (find : Subschema → Standpoint → Except Fault (List α)) :
    Except Fault (List α) :=
  [("$ref" : Text), "$dynamicRef"] |> gather fun keyword =>
    match Keyed.get? keyword siblings with
    | none => .ok []
    | some operand =>
      if operand.whole.schema = .null then .ok []
      else do
        let (s, there) ← (follow here operand.whole.schema).mapError located
        find s there

/-- What is found in the alternatives that hold of a value. -/
def inAlternatives (v : Value) (find : Subschema → Except Fault (List α)) :
    Except Fault (List α) :=
  [("allOf" : Text), "oneOf", "anyOf"] |> gather fun keyword =>
    match Keyed.get? keyword siblings with
    | none => .ok []
    | some operand => do
      (← operand.each) |> gather fun s => do
        if ← (s.held here v).succeeds then find s else return []

def beside (keyword : Text) (find : Subschema → Except Fault (List α)) :
    Except Fault (List α) :=
  match Keyed.get? keyword siblings with
  | none => .ok []
  | some operand => find operand.whole

/-- What is found in a condition that holds of a value and in its consequence, or in the
consequence of its failure. -/
def inCondition (v : Value) (find : Subschema → Except Fault (List α)) :
    Except Fault (List α) :=
  beside siblings "if" fun condition => do
    if ← condition.accepts here v then
      return (← find condition) ++ (← beside siblings "then" find)
    else beside siblings "else" find

def accepted (s : Subschema) : Nat → List Value → Except Fault (List Nat)
  | _, [] => .ok []
  | i, v :: rest => do
    let accepts ← s.accepts here v
    let others ← accepted s (i + 1) rest
    return if accepts then i :: others else others

def items (vs : List Value) : Except Fault (List Nat) := do
  if Keyed.has "items" siblings then return List.range vs.length
  let referred ← inReferences follow siblings here fun s there => s.evaluatedItems there vs
  let first := List.range (← prefixLength siblings)
  let conditional ← inCondition siblings here (.list vs) fun s => s.evaluatedItems here vs
  let single ← [("contains" : Text), "unevaluatedItems"] |> gather fun keyword =>
    beside siblings keyword fun s => accepted here s 0 vs
  let combined ← inAlternatives siblings here (.list vs) fun s => s.evaluatedItems here vs
  return referred ++ first ++ conditional ++ single ++ combined

/-- The names among those of an object that show a pattern of an operand. -/
def matching (operand : Value) (fields : Keyed Value) : Except Fault (List Text) :=
  fields |> gather fun (name, _) => do
    (← Assertion.entries operand) |> gather fun
      | .text source => do return if ← Assertion.isFound source name then [name] else []
      | _ => .error .unfitOperand

/-- The names of the evaluated properties of an object. -/
def names (fields : Keyed Value) : Except Fault (List Text) := do
  let referred ← inReferences follow siblings here fun s there => s.evaluatedNames there fields
  let named ← beside siblings "properties" fun s =>
    match s.schema with
    | .object table => .ok ((Keyed.keys table).filter (Keyed.has · fields))
    | _ => .ok []
  let fitting ← [("additionalProperties" : Text), "unevaluatedProperties"] |> gather fun keyword =>
    beside siblings keyword fun s =>
      if s.schema = .null then .ok []
      else
        fields |> gather fun (name, v) => do
          return if ← (s.held here v).succeeds then [name] else []
  let shown ← beside siblings "patternProperties" fun s => matching s.schema fields
  let dependent ← match Keyed.get? "dependentSchemas" siblings with
    | none => pure []
    | some operand => do
      (← operand.named) |> gather fun (name, s) =>
        if Keyed.has name fields then s.evaluatedNames here fields else .ok []
  let combined ← inAlternatives siblings here (.object fields) fun s =>
    s.evaluatedNames here fields
  let conditional ← inCondition siblings here (.object fields) fun s =>
    s.evaluatedNames here fields
  return referred ++ named ++ fitting ++ shown ++ dependent ++ combined ++ conditional

end TypedTemplate.Evaluated
