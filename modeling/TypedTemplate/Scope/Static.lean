import TypedTemplate.Path
import TypedTemplate.Text.Keyed

/-!
# Static scopes

While a schema is compiled, the alias of an iteration stands for a path: that of
the items of the list. The first component of a path, if it is a bound alias, is
replaced by what the alias stands for.
-/
namespace TypedTemplate

/-- Aliases with the paths they stand for. -/
abbrev StaticScope := Keyed Text

namespace StaticScope

def empty : StaticScope := []

/-- The path of the schema that a path of the template means. -/
def resolve (scope : StaticScope) (path : Text) : Text :=
  let (first, rest) := Path.split path
  match Keyed.get? first scope with
  | none => path
  | some target =>
    match rest with
    | none => target
    | some rest => target ++ '.' :: rest

/-- The scope inside an iteration over the list at a resolved path. -/
def bind (scope : StaticScope) (name source : Text) : Except Fault StaticScope :=
  if name = "self" then .error .reservedAlias
  else .ok (Keyed.set name (source ++ Path.arrayMarker) scope)

/-- Whether a path begins with a name that exists only while rows are rendered. An
alias of that name hides it. -/
def isImplicit (scope : StaticScope) (path : Text) : Bool :=
  Path.isImplicit path && !Keyed.has (Path.root path) scope

end StaticScope
end TypedTemplate
