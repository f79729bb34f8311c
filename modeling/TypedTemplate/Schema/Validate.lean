import TypedTemplate.Schema.Evaluated
import TypedTemplate.Schema.Vocabulary

/-!
# Validation

Data is held against a schema keyword by keyword, in the order in which the schema
lists them. Some keywords also look at the operands of others beside them. References
are followed to a certain depth only, beyond which they count as endless.
-/
namespace TypedTemplate.Validate

/-- The reports of one schema on items, the first of which has a given index. -/
def descendItems (here : Standpoint) (s : Subschema) : Int → List Value → Report
  | _, [] => .empty
  | i, v :: rest => (s.descend here (.index i) v).andThen fun _ => descendItems here s (i + 1) rest

def items (siblings : Keyed Operand) (operand : Operand) (here : Standpoint) : Value → Report
  | .list vs => .ofExcept do
    let allowed ← prefixLength siblings
    let extra := vs.drop allowed
    match operand.whole.schema with
    | .bool false => return .require extra.isEmpty (.extraItems allowed extra)
    | _ => return descendItems here operand.whole allowed extra
  | _ => .empty

/-- The reports of schemas on the items at their places. -/
def descendEach (here : Standpoint) : Int → List Subschema → List Value → Report
  | i, s :: rest, v :: vs =>
    (s.descend here (.index i) v).andThen fun _ => descendEach here (i + 1) rest vs
  | _, _, _ => .empty

def prefixItems (operand : Operand) (here : Standpoint) : Value → Report
  | .list vs => .ofExcept do return descendEach here 0 (← operand.each) vs
  | _ => .empty

/-- Counts the items that a schema accepts, until there are too many of them. -/
def countMatching (here : Standpoint) (s : Subschema) (greatest : Option Value) :
    Nat → List Value → Except Fault (Nat × Option Breach)
  | found, [] => .ok (found, none)
  | found, v :: rest => do
    if ← s.accepts here v then
      match greatest with
      | none => countMatching here s greatest (found + 1) rest
      | some bound =>
        if (← Assertion.amount bound).lt (.whole (found + 1 : Nat)) then
          return (found + 1, some (.tooManyMatching bound))
        else countMatching here s greatest (found + 1) rest
    else countMatching here s greatest found rest

/-- The items that a schema accepts are neither too many nor too few; one of them is
enough if nothing else is said. -/
def contains (siblings : Keyed Operand) (operand : Operand) (here : Standpoint) :
    Value → Report
  | .list vs => .ofExcept do
    examine operand.whole.schema
    let bound (name : Text) : Option Value := (·.whole.schema) <$> Keyed.get? name siblings
    let (found, excess) ← countMatching here operand.whole (bound "maxContains") 0 vs
    let least := (bound "minContains").getD (.ofInt 1)
    match excess with
    | some breach => return .of breach
    | none =>
      return Assertion.atLeast found least
        (if found = 0 then .noItemMatching (.list vs) else .tooFewMatching least found)
  | _ => .empty

/-- Items that nothing evaluates are not allowed. What the operand accepts counts as
evaluated. -/
def unevaluatedItems (follow : Follow) (siblings : Keyed Operand) (here : Standpoint) :
    Value → Report
  | .list vs => .ofExcept do
    let evaluated ← Evaluated.items follow siblings here vs
    let extra := (vs.zipIdx.filter fun (_, i) => !evaluated.contains i).map (·.1)
    return .require extra.isEmpty (.unevaluatedItems extra)
  | _ => .empty

/-- The properties that are present, each against the schema of its name. -/
def descendFields (here : Standpoint) (fields : Keyed Value) (schemas : Keyed Subschema) :
    Report :=
  schemas |> .each fun (name, s) =>
    match Keyed.get? name fields with
    | some v => s.descend here (.key name) v
    | none => .empty

def properties (operand : Operand) (here : Standpoint) : Value → Report
  | .object fields => .ofExcept do return descendFields here fields (← operand.named)
  | _ => .empty

/-- The fields whose names show a pattern, each against the schema of the pattern. -/
def patternProperties (operand : Operand) (here : Standpoint) : Value → Report
  | .object fields => .ofExcept do
    return (← operand.named) |> .each fun (source, s) =>
      fields |> .each fun (name, v) => .ofExcept do
        return if ← Assertion.isFound source name then s.descend here (.key name) v else .empty
  | _ => .empty

/-- Whether an operand names a property: as a key, as an item of a list or as a part of
a text. -/
def names : Value → Text → Except Fault Bool
  | .object fields, name => .ok (Keyed.has name fields)
  | .list items, name => .ok (items.contains (.text name))
  | .text t, name => .ok (name.occursIn t)
  | _, _ => .error .unfitOperand

def texts (operand : Value) : Except Fault (List Text) := do
  (← Assertion.entries operand).mapM fun
    | .text t => .ok t
    | _ => .error .unfitOperand

/-- The names of an object that have no schema of their own and show none of the
patterns. Several patterns are read as one with alternatives; if that is empty it
says nothing. -/
def extraNames (known : Value) (patterns : List Text) : List Text → Except Fault (List Text)
  | [] => .ok []
  | name :: rest => do
    let alternatives := Text.join "|" patterns
    let isKnown ←
      if ← names known name then pure true
      else if alternatives.isEmpty then pure false
      else Assertion.isFound alternatives name
    let others ← extraNames known patterns rest
    return if isKnown then others else name :: others

def sorted (texts : List Text) : List Text := texts.mergeSort Text.le

/-- The extra properties of an object: each is held against a schema, or none may be
there. -/
def additionalProperties (siblings : Keyed Operand) (operand : Operand) (here : Standpoint) :
    Value → Report
  | .object fields => .ofExcept do
    let beside (name : Text) : Value :=
      ((·.whole.schema) <$> Keyed.get? name siblings).getD (.object [])
    let patterns ← texts (beside "patternProperties")
    let extra ← extraNames (beside "properties") patterns (Keyed.keys fields)
    match operand.whole.schema with
    | .object _ =>
      return descendFields here fields (extra.map fun name => (name, operand.whole))
    | schema =>
      return .require (Assertion.isOn schema || extra.isEmpty)
        (if Keyed.has "patternProperties" siblings then
          .unmatchedFields (sorted extra) (sorted patterns)
        else .extraFields (sorted extra))
  | _ => .empty

def propertyNames (operand : Operand) (here : Standpoint) : Value → Report
  | .object fields => fields |> .each fun (name, _) => operand.whole.held here (.text name)
  | _ => .empty

/-- What the properties that are present ask of the whole object. -/
def dependentSchemas (operand : Operand) (here : Standpoint) : Value → Report
  | .object fields => .ofExcept do
    return (← operand.named) |> .each fun (name, s) =>
      if Keyed.has name fields then s.held here (.object fields) else .empty
  | _ => .empty

/-- The properties that nothing evaluates and the operand does not allow. A name is
repeated for each violation. -/
def unevaluatedProperties (follow : Follow) (siblings : Keyed Operand) (operand : Operand)
    (here : Standpoint) : Value → Report
  | .object fields => .ofExcept do
    let evaluated ← Evaluated.names follow siblings here fields
    let unfit ← fields |> gather fun (name, v) =>
      if evaluated.contains name then .ok []
      else List.map (fun _ => name) <$> (operand.whole.held here v).all
    return .require unfit.isEmpty
      (if operand.whole.schema = .bool false then .unevaluatedFields (sorted unfit)
      else .unfitUnevaluatedFields unfit)
  | _ => .empty

def allOf (operand : Operand) (here : Standpoint) (v : Value) : Report := .ofExcept do
  return (← operand.each) |> .each fun s => s.held here v

/-- The first schema without a violation, and the schemas after it. -/
def firstValid (here : Standpoint) (v : Value) :
    List Subschema → Except Fault (Option (Subschema × List Subschema))
  | [] => .ok none
  | s :: rest => do
    if ← (s.held here v).succeedsWhole then return some (s, rest) else firstValid here v rest

def anyOf (operand : Operand) (here : Standpoint) (v : Value) : Report := .ofExcept do
  return .require (← firstValid here v (← operand.each)).isSome (.noneValid v)

def accepting (here : Standpoint) (v : Value) : List Subschema → Except Fault (List Subschema)
  | [] => .ok []
  | s :: rest => do
    let accepts ← s.accepts here v
    let others ← accepting here v rest
    return if accepts then s :: others else others

def oneOf (operand : Operand) (here : Standpoint) (v : Value) : Report := .ofExcept do
  match ← firstValid here v (← operand.each) with
  | none => return .of (.noneValid v)
  | some (first, rest) =>
    let others ← accepting here v rest
    return .require others.isEmpty
      (.severalValid v (others.map (·.schema) ++ [first.schema]))

def negation (operand : Operand) (here : Standpoint) (v : Value) : Report := .ofExcept do
  return .require (!(← operand.whole.accepts here v)) (.excluded v operand.whole.schema)

/-- Holds a value against one of two other schemas beside the condition, if it is
there. -/
def condition (siblings : Keyed Operand) (operand : Operand) (here : Standpoint) (v : Value) :
    Report := .ofExcept do
  let branch : Text := if ← operand.whole.accepts here v then "then" else "else"
  match Keyed.get? branch siblings with
  | some chosen => return chosen.whole.held here v
  | none => return .empty

/-- Holds a value against the schema that a reference leads to. -/
def reference (follow : Follow) (operand : Operand) (here : Standpoint) (v : Value) : Report :=
  .ofExcept do
    let (s, there) ← follow here operand.whole.schema
    return s.report there v

def apply (follow : Follow) (siblings : Keyed Operand) (operand : Operand) (keyword : Keyword)
    (here : Standpoint) : Value → Report :=
  match keyword with
  | .type => Assertion.type operand.whole.schema
  | .enum => Assertion.enum operand.whole.schema
  | .const => Assertion.const operand.whole.schema
  | .minimum => Assertion.minimum operand.whole.schema
  | .maximum => Assertion.maximum operand.whole.schema
  | .exclusiveMinimum => Assertion.exclusiveMinimum operand.whole.schema
  | .exclusiveMaximum => Assertion.exclusiveMaximum operand.whole.schema
  | .multipleOf => Assertion.multipleOf operand.whole.schema
  | .minLength => Assertion.minLength operand.whole.schema
  | .maxLength => Assertion.maxLength operand.whole.schema
  | .pattern => Assertion.pattern operand.whole.schema
  | .format => Assertion.format operand.whole.schema
  | .minItems => Assertion.minItems operand.whole.schema
  | .maxItems => Assertion.maxItems operand.whole.schema
  | .uniqueItems => Assertion.uniqueItems operand.whole.schema
  | .required => Assertion.required operand.whole.schema
  | .minProperties => Assertion.minProperties operand.whole.schema
  | .maxProperties => Assertion.maxProperties operand.whole.schema
  | .dependentRequired => Assertion.dependentRequired operand.whole.schema
  | .items => items siblings operand here
  | .prefixItems => prefixItems operand here
  | .contains => contains siblings operand here
  | .unevaluatedItems => unevaluatedItems follow siblings here
  | .properties => properties operand here
  | .patternProperties => patternProperties operand here
  | .additionalProperties => additionalProperties siblings operand here
  | .propertyNames => propertyNames operand here
  | .dependentSchemas => dependentSchemas operand here
  | .unevaluatedProperties => unevaluatedProperties follow siblings operand here
  | .allOf => allOf operand here
  | .anyOf => anyOf operand here
  | .oneOf => oneOf operand here
  | .negation => negation operand here
  | .condition => condition siblings operand here
  | .reference => reference follow operand here
  | .dynamicReference => reference follow operand here

def applyField (follow : Follow) (siblings : Keyed Operand) (name : Text) (operand : Operand)
    (here : Standpoint) (v : Value) : Report :=
  match Keyword.ofName? name with
  | some keyword => apply follow siblings operand keyword here v
  | none => .empty

/-- What the fields of a schema report on a value, in order. -/
def applyAll (follow : Follow) (operands : Keyed Operand) (here : Standpoint) (v : Value) :
    Report :=
  operands |> .each fun (name, operand) => applyField follow operands name operand here v

mutual

def subschema (follow : Follow) : Value → Subschema
  | .object fields =>
    { schema := .object fields
      report := fun here v => applyAll follow (operandsOf follow fields) here v
      evaluatedItems := fun here vs => Evaluated.items follow (operandsOf follow fields) here vs
      evaluatedNames := fun here vs => Evaluated.names follow (operandsOf follow fields) here vs }
  | .bool b => .ofBool b
  | v => .unreadable v

def operandsOf (follow : Follow) : List (Text × Value) → Keyed Operand
  | [] => []
  | (name, v) :: rest =>
    (name, ⟨subschema follow v, eachOf follow v, namedOf follow v⟩) :: operandsOf follow rest

def eachOf (follow : Follow) : Value → Except Fault (List Subschema)
  | .list schemas => .ok (subschemasOf follow schemas)
  | operand => (·.map Subschema.unreadable) <$> Assertion.entries operand

def subschemasOf (follow : Follow) : List Value → List Subschema
  | [] => []
  | v :: rest => subschema follow v :: subschemasOf follow rest

def namedOf (follow : Follow) : Value → Except Fault (Keyed Subschema)
  | .object schemas => .ok (tableOf follow schemas)
  | _ => .error .notASchema

def tableOf (follow : Follow) : List (Text × Value) → Keyed Subschema
  | [] => []
  | (name, v) :: rest => (name, subschema follow v) :: tableOf follow rest

end

/-- Follows the references of a document, through a number of further references. -/
def followIn (d : Document) : Nat → Follow
  | 0 => fun _ _ => .error .endlessReference
  | depth + 1 => fun here reference =>
    match reference with
    | .text reference => do
      let (target, there) ← d.lookup here reference
      return (subschema (followIn d depth) target, there)
    | _ => .error .notASchema

def deepest : Nat := 500

def check (schema v : Value) : Report := .ofExcept do
  let d ← Document.ofRoot schema
  return (subschema (followIn d deepest) schema).report d.standpoint v

/-- A schema reports what its keywords report, in order. -/
theorem report_object (follow : Follow) (fields : List (Text × Value)) :
    (subschema follow (.object fields)).report = applyAll follow (operandsOf follow fields) := rfl

def data (v schema : Value) : Except Fault Unit := do
  match ← (check schema v).first? with
  | none => return ()
  | some violation => throw violation.toFault

example : (check (.object [("items", .bool false)]) (.list [.ofInt 7])).first? =
    .ok (some ⟨[], .extraItems 0 [.ofInt 7]⟩) := rfl
example : (check (.object [("properties", .object [("a", .bool false)])])
    (.object [("a", .ofInt 7)])).first? = .ok (some ⟨[], .nothingAllowed (.ofInt 7)⟩) := rfl
example : (check (.object [("items", .object [("$ref", .text "#")]), ("type", .text "array")])
    (.list [.list [.ofInt 7]])).first? =
    .ok (some ⟨[.index 0, .index 0], .type (.ofInt 7) [.text "array"]⟩) := rfl

end TypedTemplate.Validate
