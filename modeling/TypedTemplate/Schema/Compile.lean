import TypedTemplate.Schema.Canonical
import TypedTemplate.Schema.Metaschema
import TypedTemplate.Schema.Tree
import TypedTemplate.Scope.Static
import TypedTemplate.Settings

/-!
# Compiling schemas

A walk through the template collects the shape of its data: every interpolation is
a leaf, every iteration an array, every condition a required boolean. Afterwards
the annotations of elements are laid over the fields, and those of meta elements
under them.
-/
namespace TypedTemplate.Compile

/-- What has been collected: the shape, and the annotations of elements with the
paths they apply to, in document order. -/
structure Progress where
  tree : SchemaNode
  inline : List (Text × Semantics)

/-- Collects an interpolation. -/
def takeInterpolation (scope : StaticScope) (semantic : Option Semantics) (p : Progress)
    (i : Interpolation) : Except Fault Progress := do
  if scope.isImplicit i.path then
    return p
  let path := scope.resolve i.path
  let tree ← p.tree.placeLeaf path (Leaf.ofInterpolation i)
  return { tree, inline := p.inline ++ semantic.toList.map ((path, ·)) }

/-- Collects the interpolations of a text. -/
def takeSegments (scope : StaticScope) (semantic : Option Semantics) :
    List Segment → Progress → Except Fault Progress
  | [], p => .ok p
  | .literal _ :: rest, p => takeSegments scope semantic rest p
  | .interpolation i :: rest, p => do
    takeSegments scope semantic rest (← takeInterpolation scope semantic p i)

/-- Collects the iteration of an element, and gives the scope inside it. -/
def takeIteration (scope : StaticScope) (p : Progress) :
    Option Iteration → Except Fault (StaticScope × Progress)
  | none => .ok (scope, p)
  | some iteration => do
    let source := scope.resolve iteration.source
    let tree ← p.tree.ensureArray source
    return (← scope.bind iteration.itemName source, { p with tree })

/-- Collects the condition of an element. -/
def takeCondition (scope : StaticScope) (p : Progress) : Option Text → Except Fault Progress
  | none => .ok p
  | some condition => do
    if scope.isImplicit condition then
      return p
    return { p with tree := ← p.tree.placeLeaf (scope.resolve condition) Leaf.condition }

mutual

/-- Collects a part of the template. Meta elements are passed over. -/
def walk (delimiter : Text) (scope : StaticScope) (semantic : Option Semantics) :
    Node → Progress → Except Fault Progress
  | .text segments, p => takeSegments scope semantic segments p
  | .element head children, p =>
    if head.tag = "meta" then .ok p
    else do
      let semantic ← Semantics.inside head semantic delimiter
      let (scope, p) ← takeIteration scope p head.iteration
      let p ← takeCondition scope p head.condition
      walkAll delimiter scope semantic children p

def walkAll (delimiter : Text) (scope : StaticScope) (semantic : Option Semantics) :
    List Node → Progress → Except Fault Progress
  | [], p => .ok p
  | n :: rest, p => do walkAll delimiter scope semantic rest (← walk delimiter scope semantic n p)

end

/-- Lays annotations by path over a tree. -/
def layAll (overwrite : Bool) (all : List (Text × Semantics)) (tree : SchemaNode) :
    SchemaNode :=
  all.foldl (fun t a => t.annotateAt a.1 overwrite a.2) tree

/-- The annotated shape of the data that a template needs. -/
def tree (settings : Settings) (root : Node) : Except Fault SchemaNode := do
  let p ← walk settings.examplesDelimiter .empty none root ⟨.emptyObject, []⟩
  let byPath ← Semantics.ofHeads root.heads settings.examplesDelimiter
  return layAll false byPath (layAll true p.inline p.tree)

/-- States in front of a schema in which dialect it is written. -/
def withDialect : Value → Value
  | .object fields => .object (("$schema", .text Metaschema.identifier) :: fields)
  | v => v

/-- The schema of a template in canonical form. -/
def schema (given : Option Settings) (root : Node) : Except Fault Value := do
  let settings ← Settings.inForce given root
  let t ← tree settings root
  return Canonical.canonicalize (withDialect t.toSchema)

end TypedTemplate.Compile
