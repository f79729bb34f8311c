import TypedTemplate.Fault
import TypedTemplate.Number.Decimal
import TypedTemplate.Schema.Metaschema

/-!
# References

A schema can refer to a whole resource, to the place in it that a pointer leads to, or to
a schema in it with an anchor. The document is a resource, and so is every schema in it
that has an identifier; the schema of schemas and its vocabularies are at hand as well. A
reference is read from the identifier of the resource that it stands in.

A dynamic anchor stands for the anchor of its name in the first resource that references
led through, if that anchor is dynamic.
-/
namespace TypedTemplate

/-- Where a reference is read: the identifier of the resource that it stands in, and the
identifiers of the resources that references led out of, the latest first. -/
structure Standpoint where
  base : Text
  outer : List Text
  deriving DecidableEq, Repr

/-- The identifier that a schema has for itself. Number signs at its end are left out. -/
def identifier? : Value → Except Fault (Option Text)
  | .bool _ => .ok none
  | .object fields =>
    match Keyed.get? "$id" fields with
    | none | some .null => .ok none
    | some (.text id) => .ok (some (id.reverse.dropWhile (· == '#')).reverse)
    | some _ => .error .notASchema
  | _ => .error .notASchema

namespace Standpoint

/-- The standpoint inside a schema: its identifier, if it has one, becomes the base. -/
def enter (s : Standpoint) (schema : Value) : Except Fault Standpoint := do
  match ← identifier? schema with
  | none => return s
  | some id => return { s with base := Uri.join s.base id }

/-- The standpoint after a reference into a resource. The resource that it leads out of is
remembered; one without an identifier is not. -/
def move (s : Standpoint) (resource : Text) : Standpoint where
  base := resource
  outer :=
    if !s.base.isEmpty && (s.outer.isEmpty || resource != s.base) then s.base :: s.outer
    else s.outer

end Standpoint

/-- A name for a schema in the resource that it stands in. -/
structure Anchor where
  resource : Text
  name : Text
  isDynamic : Bool
  schema : Value

/-- The resources of a document by their identifiers, and its anchors. -/
structure Index where
  resources : Keyed Value
  anchors : List Anchor

namespace Index

def empty : Index := ⟨[], []⟩

def append (a b : Index) : Index := ⟨a.resources ++ b.resources, a.anchors ++ b.anchors⟩

/-- How the value of a field of a schema holds other schemas. -/
inductive Holding where
  | one
  | list
  | table
  deriving DecidableEq, Repr

/-- How the fields of a schema hold other schemas, by their names. -/
def holdings : Keyed Holding :=
  [("additionalProperties", .one), ("contains", .one), ("contentSchema", .one), ("else", .one),
    ("if", .one), ("items", .one), ("not", .one), ("propertyNames", .one), ("then", .one),
    ("unevaluatedItems", .one), ("unevaluatedProperties", .one),
    ("allOf", .list), ("anyOf", .list), ("oneOf", .list), ("prefixItems", .list),
    ("$defs", .table), ("definitions", .table), ("dependentSchemas", .table),
    ("patternProperties", .table), ("properties", .table)]

def anchorNamed (keyword : Text) (isDynamic : Bool) (resource : Text)
    (fields : List (Text × Value)) : Except Fault (List Anchor) :=
  match Keyed.get? keyword fields with
  | some (.text name) => .ok [⟨resource, name, isDynamic, .object fields⟩]
  | some (.list _) | some (.object _) => .error .unfitOperand
  | _ => .ok []

/-- The identifier of the resource that a schema belongs to, by that of the resource
around it, and what the schema itself adds to the index. -/
def ofFields (around : Text) (fields : List (Text × Value)) : Except Fault (Text × Index) := do
  let id ← identifier? (.object fields)
  let resource := (id.map (Uri.join around)).getD around
  let fixed ← anchorNamed "$anchor" false resource fields
  let dynamic ← anchorNamed "$dynamicAnchor" true resource fields
  return (resource,
    { resources := if id.isSome then [(resource, .object fields)] else []
      anchors := dynamic ++ fixed })

/-- Whether the fields of a schema that hold lists or tables can be searched for schemas. -/
def searchable (holding : Holding) (fields : Keyed Value) : Except Fault Unit :=
  fields.forM fun (name, v) =>
    if Keyed.get? name holdings = some holding then
      match holding, v with
      | .list, .null | .list, .bool _ | .list, .number _ => .error .unfitOperand
      | .table, .object _ => .ok ()
      | .table, _ => .error .notASchema
      | _, _ => .ok ()
    else .ok ()

/-- The index of a schema, by that of the schemas that its fields hold in some way. Those in
tables are looked at first and single ones last, and what is found later has precedence:
inner schemas over outer ones, and the first of a list or table over the others. -/
def ofObject (around : Text) (fields : List (Text × Value))
    (held : Text → Holding → Except Fault Index) : Except Fault Index := do
  let (resource, own) ← ofFields around fields
  searchable .list fields
  searchable .table fields
  let tables ← held resource .table
  let lists ← held resource .list
  let single ← held resource .one
  return single.append (lists.append (tables.append own))

mutual

def ofSchema (around : Text) : Value → Except Fault Index
  | .object fields => ofObject around fields fun resource holding => ofHeld resource holding fields
  | .bool _ => .ok empty
  | _ => .error .notASchema

/-- The index of the schemas that fields hold in some way. -/
def ofHeld (around : Text) (holding : Holding) : List (Text × Value) → Except Fault Index
  | [] => .ok empty
  | (name, v) :: rest => do
    let others ← ofHeld around holding rest
    let held ←
      if Keyed.get? name holdings = some holding then ofValue around holding v else pure empty
    return held.append others

def ofValue (around : Text) (holding : Holding) : Value → Except Fault Index
  | .object fields =>
    match holding with
    | .one => ofObject around fields fun resource inner => ofHeld resource inner fields
    | .list => if fields.isEmpty then .ok empty else .error .notASchema
    | .table => ofTable around fields
  | .list schemas => if holding = .list then ofList around schemas else .error .notASchema
  | .bool _ => .ok empty
  | .text t => if holding = .list && t.isEmpty then .ok empty else .error .notASchema
  | _ => .error .notASchema

def ofList (around : Text) : List Value → Except Fault Index
  | [] => .ok empty
  | v :: rest => do
    let others ← ofList around rest
    return (← ofSchema around v).append others

def ofTable (around : Text) : List (Text × Value) → Except Fault Index
  | [] => .ok empty
  | (_, v) :: rest => do
    let others ← ofTable around rest
    return (← ofSchema around v).append others

end

end Index

namespace Pointer

/-- A step of a pointer with the characters for which its signs stand. -/
def unescape (step : Text) : Text := Text.replace "~0" "~" (Text.replace "~1" "/" step)

/-- The item of a list that a step names. Negative numbers count from the end. -/
def item {α : Type} (items : List α) (step : Text) : Except Fault α :=
  match Decimal.whole? step with
  | none => .error .unreadableItemNumber
  | some n =>
    let place := if n < 0 then n + items.length else n
    match if place < 0 then none else items[place.toNat]? with
    | some v => .ok v
    | none => .error (.unresolvedReference .part)

def part (v : Value) (step : Text) : Except Fault Value :=
  match v with
  | .object fields =>
    match Keyed.get? (unescape step) fields with
    | some w => .ok w
    | none => .error (.unresolvedReference .part)
  | .list items => item items step
  | .text t => (fun c => .text [c]) <$> item t step
  | _ => .error .unfitOperand

/-- Whether steps lead from schema to schema, at each of them. -/
def leadsToSchema : List Text → Bool
  | [] => true
  | step :: rest =>
    match Keyed.get? (unescape step) Index.holdings with
    | none => false
    | some .one => leadsToSchema rest
    | some _ =>
      match rest with
      | [] => false
      | _ :: rest => leadsToSchema rest

/-- What the steps of a pointer lead to, and the standpoint there. The identifiers of the
schemas on the way count. The first argument holds the steps since the last of them. -/
def follow : List Text → Value → Standpoint → List Text → Except Fault (Value × Standpoint)
  | _, v, s, [] => .ok (v, s)
  | passed, v, s, step :: rest => do
    let v ← part v step
    let passed := passed ++ [step]
    if leadsToSchema passed then
      let s' ← s.enter v
      follow (if (← identifier? v).isSome then [] else passed) v s' rest
    else follow passed v s rest

end Pointer

/-- A document: the schema that it consists of, its identifier, and its index. -/
structure Document where
  identifier : Text
  root : Value
  index : Except Fault Index

namespace Document

def ofRoot (root : Value) : Except Fault Document := do
  let identifier := (← identifier? root).getD []
  return ⟨identifier, root, Index.ofSchema identifier root⟩

def standpoint (d : Document) : Standpoint := ⟨d.identifier, []⟩

def resource (d : Document) (identifier : Text) : Except Fault Value :=
  if identifier = d.identifier then .ok d.root
  else
    match Keyed.get? identifier Metaschema.resources with
    | some v => .ok v
    | none => do
      match Keyed.get? identifier (← d.index).resources with
      | some v => return v
      | none => throw (.unresolvedReference .resource)

/-- The anchor of a name in one of the schemas that are at hand in any document. -/
def standardAnchor? (resource name : Text) : Option Anchor :=
  if name = Metaschema.anchorName then
    (Keyed.get? resource Metaschema.resources).map fun v => ⟨resource, name, true, v⟩
  else none

def ownAnchor? (d : Document) (resource name : Text) : Except Fault (Option Anchor) := do
  let anchors := (← d.index).anchors
  let named (resource : Text) : Option Anchor :=
    anchors.find? fun a => a.resource == resource && a.name == name
  match named resource with
  | some a => return some a
  | none => return (← identifier? (← d.resource resource)).bind named

def anchor? (d : Document) (resource name : Text) : Except Fault (Option Anchor) :=
  match standardAnchor? resource name with
  | some a => .ok (some a)
  | none => d.ownAnchor? resource name

/-- What is missing where a resource has no anchor of a name. -/
def missingAnchor (name : Text) : Missing :=
  if name.contains '/' then .malformedAnchor else .anchor

/-- The schema that a dynamic anchor stands for: that of the last dynamic anchor of its
name in some resources. Those without such an anchor are passed over. -/
def dynamicTarget (d : Document) (name : Text) (target : Value) :
    List Text → Except Fault Value
  | [] => .ok target
  | resource :: rest => do
    match ← d.anchor? resource name with
    | some a => dynamicTarget d name (if a.isDynamic then a.schema else target) rest
    | none =>
      match missingAnchor name with
      | .anchor => dynamicTarget d name target rest
      | missing => throw (.unresolvedReference missing)

/-- The schema that a reference leads to, and the standpoint there. -/
def lookup (d : Document) (s : Standpoint) (reference : Text) :
    Except Fault (Value × Standpoint) := do
  let (identifier, fragment) :=
    match reference with
    | '#' :: fragment => (s.base, fragment)
    | _ => Uri.splitFragment (Uri.join s.base reference)
  let root ← d.resource identifier
  let s := s.move identifier
  match fragment with
  | [] => return (root, s)
  | '/' :: pointer => Pointer.follow [] root s (Text.splitOn '/' (Uri.decode pointer))
  | name =>
    match ← d.anchor? identifier name with
    | none => throw (.unresolvedReference (missingAnchor name))
    | some a =>
      if a.isDynamic then
        let target ← d.dynamicTarget name a.schema s.outer
        return (target, ← s.enter target)
      else return (a.schema, s)

end Document
end TypedTemplate
