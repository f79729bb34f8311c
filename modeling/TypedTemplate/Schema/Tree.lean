import TypedTemplate.Schema.Keywords

/-!
# Schema trees

The shape of the data that a template needs: objects with named properties, arrays
with items, and leaves with a declared type. Positions are named by resolved paths;
what stands in the way of a path is replaced. An object without properties is a
placeholder that anything may replace.
-/
namespace TypedTemplate

structure Leaf where
  type : DataType
  nullable : Bool
  keywords : Keyed Value
  conditional : Bool
  deriving DecidableEq

namespace Leaf

/-- The leaf of a condition. -/
def condition : Leaf := ⟨.boolean, false, [], true⟩

/-- The leaf of an interpolation. -/
def ofInterpolation (i : Interpolation) : Leaf :=
  ⟨i.type, i.nullable, Keywords.ofConstraints i.constraints, false⟩

/-- A later occurrence of the same field merged into a leaf. The later type and
keywords win, and null stays admitted only if both admit it. Conditions give way to
interpolations wherever they stand. -/
def merge (old new : Leaf) : Leaf :=
  if new.conditional && !old.conditional then old
  else
    { type := new.type
      nullable := if old.conditional && !new.conditional then new.nullable
        else old.nullable && new.nullable
      keywords := Keyed.setAll old.keywords new.keywords
      conditional := new.conditional }

end Leaf

inductive SchemaNode where
  | leaf (semantics : Semantics) (leaf : Leaf)
  | array (semantics : Semantics) (items : SchemaNode)
  | object (semantics : Semantics) (properties : List (Text × SchemaNode))

namespace SchemaNode

def emptyObject : SchemaNode := .object .empty []

/-- The parts of an object; anything else counts as an empty object. -/
def objectParts : Option SchemaNode → Semantics × Keyed SchemaNode
  | some (.object a properties) => (a, properties)
  | _ => (.empty, [])

/-- The parts of an array; anything else counts as an array of empty objects. -/
def arrayParts : Option SchemaNode → Semantics × SchemaNode
  | some (.array a items) => (a, items)
  | _ => (.empty, emptyObject)

/-- A step of a path: a key, and whether it goes on to the items of an array. -/
abbrev Step := Text × Bool

/-- The steps of a resolved path. -/
def steps (path : Text) : List Step := (Path.components path).map Path.splitMarker

/-- Changes what stands at the end of some steps. Objects and arrays on the way are
made where they are missing. -/
def update (f : Option SchemaNode → SchemaNode) : List Step → Option SchemaNode → SchemaNode
  | [], slot => f slot
  | (key, isArray) :: rest, slot =>
    let (a, properties) := objectParts slot
    let child := Keyed.get? key properties
    let changed :=
      if isArray then
        let (b, items) := arrayParts child
        .array b (update f rest (some items))
      else update f rest child
    .object a (Keyed.set key changed properties)

/-- Puts a leaf into a position, merging it into a leaf that is there. -/
def putLeaf (new : Leaf) : Option SchemaNode → SchemaNode
  | some (.leaf a old) => .leaf a (old.merge new)
  | _ => .leaf .empty new

/-- Puts an array into a position, unless there is one. -/
def putArray : Option SchemaNode → SchemaNode
  | some (.array a items) => .array a items
  | _ => .array .empty emptyObject

/-- Changes the position at a path, which has to name one. -/
def updateAt (f : Option SchemaNode → SchemaNode) (path : Text) (root : SchemaNode) :
    Except Fault SchemaNode :=
  match steps path with
  | [] => .error .emptySchemaPath
  | first :: rest => .ok (update f (first :: rest) (some root))

/-- Merges a leaf into the position at a path. -/
def placeLeaf (path : Text) (leaf : Leaf) (root : SchemaNode) : Except Fault SchemaNode :=
  updateAt (putLeaf leaf) path root

/-- Makes sure of an array at a path. -/
def ensureArray (path : Text) (root : SchemaNode) : Except Fault SchemaNode :=
  updateAt putArray path root

/-- The node at the end of some steps. -/
def follow : List Step → SchemaNode → Option SchemaNode
  | [], node => some node
  | (key, isArray) :: rest, .object _ properties =>
    match Keyed.get? key properties with
    | none => none
    | some child =>
      if isArray then
        match child with
        | .array _ items => follow rest items
        | _ => none
      else follow rest child
  | _ :: _, _ => none

/-- The node at a path. An empty path names the root. -/
def find (path : Text) (root : SchemaNode) : Option SchemaNode := follow (steps path) root

/-- Lays an annotation over that of a node. -/
def annotate (overwrite : Bool) (new : Semantics) : SchemaNode → SchemaNode
  | .leaf a l => .leaf (a.lay overwrite new) l
  | .array a items => .array (a.lay overwrite new) items
  | .object a properties => .object (a.lay overwrite new) properties

/-- Changes the value at a key that is present. -/
def modifyKey (key : Text) (f : SchemaNode → SchemaNode) : Keyed SchemaNode → Keyed SchemaNode
  | [] => []
  | (k, v) :: rest => if k = key then (k, f v) :: rest else (k, v) :: modifyKey key f rest

/-- Changes the node at the end of some steps, if there is one. -/
def modify (f : SchemaNode → SchemaNode) : List Step → SchemaNode → SchemaNode
  | [], node => f node
  | (key, isArray) :: rest, .object a properties =>
    .object a (modifyKey key (fun child =>
      if isArray then
        match child with
        | .array b items => .array b (modify f rest items)
        | other => other
      else modify f rest child) properties)
  | _ :: _, node => node

/-- Lays an annotation over that of the node at a path, if there is one. -/
def annotateAt (path : Text) (overwrite : Bool) (new : Semantics) (root : SchemaNode) :
    SchemaNode :=
  modify (annotate overwrite new) (steps path) root

/-- Whether data without a property of this kind violates the schema. -/
def isRequired : SchemaNode → Bool
  | .leaf _ l => !l.nullable
  | _ => true

mutual

/-- The JSON Schema of a node. -/
def toSchema : SchemaNode → Value
  | .leaf a l =>
    .object (((Keywords.ofType l.type l.nullable).setAll l.keywords).setAll
      (Keywords.ofSemantics a))
  | .array a items =>
    .object (("type", .text "array") :: ("items", toSchema items) :: Keywords.ofSemantics a)
  | .object a properties =>
    .object
      (("type", .text "object") :: ("properties", .object (propertySchemas properties))
        :: ("required", .list (requiredNames properties)) :: Keywords.ofSemantics a)

def propertySchemas : List (Text × SchemaNode) → List (Text × Value)
  | [] => []
  | (name, node) :: rest => (name, toSchema node) :: propertySchemas rest

/-- The names of the required properties. -/
def requiredNames : List (Text × SchemaNode) → List Value
  | [] => []
  | (name, node) :: rest =>
    if isRequired node then .text name :: requiredNames rest else requiredNames rest

end

end SchemaNode
end TypedTemplate
