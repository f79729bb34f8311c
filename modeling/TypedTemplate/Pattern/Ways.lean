/-!
# Ways

The results of a search in order of preference. Those that are not the first choice are
found only when they are asked for, so that a search stops at the first success.
-/
namespace TypedTemplate

inductive Ways (α : Type) where
  | none
  | one (a : α)
  /-- Some ways, and others after them. -/
  | or (preferred : Ways α) (others : Unit → Ways α)

namespace Ways

variable {α β : Type}

def ofOption : Option α → Ways α
  | Option.none => .none
  | some a => .one a

/-- The first way, if there is one. -/
def first? : Ways α → Option α
  | .none => Option.none
  | .one a => some a
  | .or preferred others =>
    match preferred.first? with
    | some a => some a
    | Option.none => (others ()).first?

/-- The ways on from each way, in order. -/
def bind : Ways α → (α → Ways β) → Ways β
  | .none, _ => .none
  | .one a, onward => onward a
  | .or preferred others, onward => .or (preferred.bind onward) fun _ => (others ()).bind onward

end Ways
end TypedTemplate
