import TypedTemplate.Fault

/-!
# Filter registry

The filters by name, how many arguments each takes, and the declared types that
admit it. A filter does the same for every type that admits it.
-/
namespace TypedTemplate

/-- What a filter does. -/
inductive FilterKind where
  | default | upper | lower | replace | padLeft | slice | zenkaku | hankaku
  | comma | fixed | either | dateFormat
  deriving DecidableEq, Repr

namespace FilterKind

def all : List FilterKind :=
  [.default, .upper, .lower, .replace, .padLeft, .slice, .zenkaku, .hankaku, .comma, .fixed,
    .either, .dateFormat]

def name : FilterKind → Text
  | .default => "default"
  | .upper => "upper"
  | .lower => "lower"
  | .replace => "replace"
  | .padLeft => "pad-left"
  | .slice => "slice"
  | .zenkaku => "zenkaku"
  | .hankaku => "hankaku"
  | .comma => "comma"
  | .fixed => "fixed"
  | .either => "either"
  | .dateFormat => "date-format"

/-- The filter of a name, whatever the type. -/
def ofName? (t : Text) : Option FilterKind := all.find? (·.name == t)

def minArgs : FilterKind → Nat
  | .upper | .lower | .zenkaku | .hankaku | .comma => 0
  | .default | .padLeft | .fixed | .dateFormat => 1
  | .replace | .slice | .either => 2

def maxArgs : FilterKind → Nat
  | .upper | .lower | .zenkaku | .hankaku | .comma => 0
  | .default | .fixed | .dateFormat => 1
  | .padLeft | .replace | .slice | .either => 2

/-- Whether a number of arguments is accepted. -/
def accepts (f : FilterKind) (count : Nat) : Bool := f.minArgs ≤ count && count ≤ f.maxArgs

/-- How the accepted numbers of arguments are described. -/
def arity (f : FilterKind) : Text :=
  if f.minArgs = f.maxArgs then Text.ofNat f.minArgs
  else Text.ofNat f.minArgs ++ ['-'] ++ Text.ofNat f.maxArgs

def allowed : DataType → List FilterKind
  | .string => [.upper, .lower, .replace, .padLeft, .slice, .default, .zenkaku, .hankaku]
  | .integer | .number => [.comma, .fixed, .padLeft, .either, .default]
  | .boolean => [.either, .default]
  | .date | .time | .datetime => [.dateFormat, .default]

/-- The filter of a name, if the type admits it. -/
def forType? (d : DataType) (t : Text) : Option FilterKind := (allowed d).find? (·.name == t)

theorem accepts_iff {f : FilterKind} {count : Nat} :
    f.accepts count = true ↔ f.minArgs ≤ count ∧ count ≤ f.maxArgs := by
  simp [accepts]

theorem ofName?_name (f : FilterKind) : ofName? f.name = some f := by cases f <;> decide

theorem name_of_ofName? {t : Text} {f : FilterKind} (h : ofName? t = some f) : f.name = t := by
  simpa using List.find?_some h

theorem name_injective {f g : FilterKind} (h : f.name = g.name) : f = g := by
  have := (ofName?_name f).symm.trans (h ▸ ofName?_name g)
  exact Option.some.inj this

/-- The filter found for a type is the one found by name alone. -/
theorem ofName?_of_forType? {d : DataType} {t : Text} {f : FilterKind}
    (h : forType? d t = some f) : ofName? t = some f := by
  have hn := List.find?_some h
  simp only [beq_iff_eq] at hn
  exact hn ▸ ofName?_name f

end FilterKind
end TypedTemplate
