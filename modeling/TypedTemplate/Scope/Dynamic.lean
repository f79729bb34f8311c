import TypedTemplate.Path
import TypedTemplate.Value.Basic

/-!
# Dynamic scopes

While rows are rendered, the alias of an iteration stands for the current item, and
two more names tell the number of the row and of the page. A path is looked up key
by key; what is absent is null.
-/
namespace TypedTemplate

/-- The data of a template and the values that names stand for. -/
structure DynamicScope where
  data : Value
  bindings : Keyed Value
  deriving DecidableEq

namespace DynamicScope

def ofData (data : Value) : DynamicScope := ⟨data, []⟩

/-- The value reached from another by some keys; null where a key is absent. -/
def follow (value : Value) (keys : List Text) : Value :=
  keys.foldl (fun v key => (v.field? key).getD .null) value

/-- The value that a path means. -/
def resolve (scope : DynamicScope) (path : Text) : Value :=
  match Path.components path with
  | [] => .null
  | first :: rest =>
    match Keyed.get? first scope.bindings with
    | some value => follow value rest
    | none => follow scope.data (first :: rest)

/-- The names bound by one row of an iteration. -/
def rowBindings (name : Text) (item : Value) (index count : Int) (isPage : Bool) :
    Keyed Value :=
  let row := Keyed.set "$index" (.ofInt index) [(name, item)]
  if isPage then
    Keyed.set "$page"
      (.object [("index", .ofInt index), ("number", .ofInt (index + 1)), ("count", .ofInt count)])
      row
  else row

/-- The scope inside one row of an iteration. -/
def bind (scope : DynamicScope) (name : Text) (item : Value) (index count : Int)
    (isPage : Bool) : Except Fault DynamicScope :=
  if name = "self" then .error .reservedAlias
  else
    .ok { scope with
      bindings := Keyed.setAll scope.bindings (rowBindings name item index count isPage) }

end DynamicScope
end TypedTemplate
