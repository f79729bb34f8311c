import TypedTemplate.Markup.Node

/-!
# Semantic annotations

Fields may be described, instructed about, and given examples. Elements annotate
every interpolation inside them, the nearest element winning for each part; meta
elements annotate fields by their path.
-/
namespace TypedTemplate

structure Semantics where
  description : Option Text
  instruction : Option Text
  examples : Option (List Text)
  deriving DecidableEq, Repr

/-- The parts of an annotation. -/
inductive SemanticPart where
  | description | instruction | examples
  deriving DecidableEq, Repr

namespace SemanticPart

def all : List SemanticPart := [.description, .instruction, .examples]

def attributeName : SemanticPart → Text
  | .description => "data-semantic-description"
  | .instruction => "data-semantic-instruction"
  | .examples => "data-semantic-examples"

/-- How the name of a meta element begins that states a part for a path. -/
def metaPrefix : SemanticPart → Text
  | .description => "semantic-description:"
  | .instruction => "semantic-instruction:"
  | .examples => "semantic-examples:"

end SemanticPart

namespace Semantics

def empty : Semantics := ⟨none, none, none⟩

/-- The entries of an example list; blank ones are left out. -/
def splitExamples (raw delimiter : Text) : Except Fault (List Text) :=
  if delimiter.isEmpty then .error .emptyDelimiter
  else .ok (((Text.splitOnText delimiter raw).map Text.trim).filter (! ·.isEmpty))

def setPart (a : Semantics) (part : SemanticPart) (raw delimiter : Text) :
    Except Fault Semantics :=
  match part with
  | .description => .ok { a with description := some raw }
  | .instruction => .ok { a with instruction := some raw }
  | .examples => do return { a with examples := some (← splitExamples raw delimiter) }

/-- The annotation in force inside an element: its own parts over those inherited.
Blank attributes count as absent. -/
def inside (head : Head) (inherited : Option Semantics) (delimiter : Text) :
    Except Fault (Option Semantics) :=
  SemanticPart.all.foldlM (fun current part =>
    let raw := head.valueOf part.attributeName
    if raw.isBlank then .ok current
    else some <$> (current.getD empty).setPart part raw delimiter) inherited

/-- The part that a meta name states, and the path it states it for. -/
def ofMetaName? (name : Text) : Option (SemanticPart × Text) :=
  SemanticPart.all.findSome? fun part =>
    (Text.after? part.metaPrefix name).map fun path => (part, path.trim)

/-- Takes the annotation of one meta element, if it states one. -/
def takeMeta (delimiter : Text) (found : Keyed Semantics) (head : Head) :
    Except Fault (Keyed Semantics) :=
  let content := (head.valueOf "content").trim
  if head.tag ≠ "meta" ∨ content.isEmpty then .ok found
  else
    match ofMetaName? (head.valueOf "name") with
    | none => .ok found
    | some (part, path) => do
      let current := (Keyed.get? path found).getD empty
      return Keyed.set path (← current.setPart part content delimiter) found

/-- The annotations by path that meta elements state, in order of first appearance. -/
def ofHeads (heads : List Head) (delimiter : Text) : Except Fault (Keyed Semantics) :=
  heads.foldlM (takeMeta delimiter) []

/-- One part of an annotation laid over another. Empty parts lay over nothing; a part
that is set is replaced only when overwriting. -/
def layPart {α : Type} (isEmpty : α → Bool) (overwrite : Bool) (old new : Option α) :
    Option α :=
  match new with
  | none => old
  | some value => if isEmpty value then old else if overwrite || old.isNone then some value else old

def lay (overwrite : Bool) (old new : Semantics) : Semantics where
  description := layPart List.isEmpty overwrite old.description new.description
  instruction := layPart List.isEmpty overwrite old.instruction new.instruction
  examples := layPart List.isEmpty overwrite old.examples new.examples

end Semantics
end TypedTemplate
