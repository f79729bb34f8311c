import TypedTemplate.Proofs.CompiledTrees

/-!
# Effects of registrations

What a registration does to the form of the node at one position depends on nothing but that
form. It leaves the form alone, clears the position, asks for a kind there, offers the items of
an array, or puts a leaf there. So what stands at a position in the end is found by taking the
effects of all registrations on it one after another.
-/
namespace TypedTemplate

/-- What a node says about data, as far as a registration can change it. -/
abbrev Form := SchemaKind × Option Leaf

/-- What a registration does at one position. -/
inductive Effect where
  | keep
  | clear
  | hold (kind : SchemaKind)
  | offer
  | put (l : Leaf)

namespace Effect

def on : Effect → Option Form → Option Form
  | .keep, cell => cell
  | .clear, _ => none
  | .hold kind, _ => some (kind, none)
  | .offer, cell => some (cell.getD (.object, none))
  | .put new, some (_, some old) => some (.leaf, some (old.merge new))
  | .put new, _ => some (.leaf, some new)

def onAll (effects : List Effect) (cell : Option Form) : Option Form :=
  effects.foldl (fun c e => e.on c) cell

theorem onAll_cons (e : Effect) (rest : List Effect) (cell : Option Form) :
    onAll (e :: rest) cell = onAll rest (e.on cell) := rfl

theorem onAll_append (first second : List Effect) (cell : Option Form) :
    onAll (first ++ second) cell = onAll second (onAll first cell) := List.foldl_append

end Effect

namespace SchemaPosition

/-- What a change along a way does at a position, given what it does at the end of the way and
below. -/
def effectAlong (ending : SchemaPosition → Effect) : SchemaPosition → SchemaPosition → Effect
  | [], other => ending other
  | step :: _, [] => .hold step.holder
  | step :: rest, first :: more =>
    if first = step then effectAlong ending rest more
    else if first.holder = step.holder then .keep else .clear

theorem effectAlong_self (ending : SchemaPosition → Effect) (position : SchemaPosition) :
    effectAlong ending position position = ending [] := by
  induction position with
  | nil => rfl
  | cons step rest ih => rw [effectAlong, if_pos rfl, ih]

end SchemaPosition

namespace Registration

/-- What a registration does at its position and below. -/
def ending : Registration → SchemaPosition → Effect
  | .leaf _ l, [] => .put l
  | .leaf _ _, _ :: _ => .clear
  | .array _, [] => .hold .array
  | .array _, .property _ :: _ => .clear
  | .array _, [.items] => .offer
  | .array _, .items :: _ :: _ => .keep

def effect (r : Registration) (other : SchemaPosition) : Effect :=
  SchemaPosition.effectAlong r.ending r.position other

theorem form_putLeaf (new : Leaf) (slot : Option SchemaNode) :
    some (SchemaNode.putLeaf new slot).form = (Effect.put new).on (slot.map SchemaNode.form) := by
  rcases slot with - | (- | - | -) <;> rfl

theorem form_at?_put (r : Registration) (slot : Option SchemaNode) (other : SchemaPosition) :
    ((r.put slot).at? other).map SchemaNode.form =
      (r.ending other).on ((slot.bind (SchemaNode.at? other)).map SchemaNode.form) := by
  cases r with
  | leaf path l =>
    cases other with
    | nil =>
      rw [SchemaNode.bind_at?_nil]
      exact form_putLeaf l slot
    | cons step rest =>
      have hnone : (put (.leaf path l) slot).child? step = none := by
        apply SchemaNode.child?_eq_none
        rw [kind_put]
        cases step <;> nofun
      rw [SchemaNode.at?_cons, hnone]
      rfl
  | array path =>
    have hput : put (.array path) slot = _ := SchemaNode.putArray_eq_refill slot
    rw [hput]
    rcases other with - | ⟨name | -, rest⟩
    · rfl
    · rfl
    · rw [SchemaNode.at?_cons, SchemaNode.child?_refill_self, Option.bind_some]
      cases rest with
      | nil =>
        rcases slot with - | (- | - | -) <;> rfl
      | cons next rest =>
        rw [← SchemaNode.at?_slot?]
        rfl

/-- Nothing in the place of missing items is the same to what is done there as an empty object. -/
theorem effectAlong_on_slot? (r : Registration) (position : SchemaPosition) (step : SchemaStep)
    (slot : Option SchemaNode) :
    (SchemaPosition.effectAlong r.ending position []).on
        ((SchemaNode.slot? step slot).map SchemaNode.form) =
      (SchemaPosition.effectAlong r.ending position []).on
        ((slot.bind (SchemaNode.child? step)).map SchemaNode.form) := by
  cases step with
  | property name => rw [SchemaNode.slot?, SchemaNode.get?_objectParts]
  | items =>
    cases position with
    | cons next rest => rfl
    | nil => cases r <;> rcases slot with - | (- | - | -) <;> rfl

theorem form_at?_alter (r : Registration) (position other : SchemaPosition)
    (slot : Option SchemaNode) :
    ((SchemaNode.alter r.put position slot).at? other).map SchemaNode.form =
      (SchemaPosition.effectAlong r.ending position other).on
        ((slot.bind (SchemaNode.at? other)).map SchemaNode.form) := by
  induction position generalizing other slot with
  | nil => exact form_at?_put r slot other
  | cons step rest ih =>
    cases other with
    | nil =>
      rw [SchemaNode.alter, SchemaPosition.effectAlong]
      cases step <;> rfl
    | cons first more =>
      rw [SchemaPosition.effectAlong, SchemaNode.alter, SchemaNode.at?_cons]
      by_cases hs : first = step
      · subst hs
        rw [if_pos rfl, SchemaNode.child?_refill_self, Option.bind_some, ih]
        cases more with
        | nil =>
          rw [SchemaNode.bind_at?_nil, SchemaNode.bind_at?_singleton]
          exact effectAlong_on_slot? r rest first slot
        | cons next more => rw [SchemaNode.at?_slot?]
      · rw [if_neg hs, SchemaNode.child?_refill_ne hs]
        split
        · rw [Option.bind_assoc]
          rfl
        · rfl

/-- A registration has its effect at every position. -/
theorem form_at?_addTo (r : Registration) (tree : SchemaNode) (other : SchemaPosition) :
    ((r.addTo tree).at? other).map SchemaNode.form =
      (r.effect other).on ((tree.at? other).map SchemaNode.form) :=
  form_at?_alter r r.position other (some tree)

theorem form_at?_foldl (all : List Registration) (tree : SchemaNode) (other : SchemaPosition) :
    ((all.foldl (fun t r => r.addTo t) tree).at? other).map SchemaNode.form =
      Effect.onAll (all.map (·.effect other)) ((tree.at? other).map SchemaNode.form) := by
  induction all generalizing tree with
  | nil => rfl
  | cons r rest ih => rw [List.foldl_cons, ih, form_at?_addTo, List.map_cons, Effect.onAll_cons]

theorem effect_position (r : Registration) : r.effect r.position = r.ending [] :=
  SchemaPosition.effectAlong_self _ _

end Registration

namespace SchemaNode

theorem Regular.child? {Q : Semantics → Prop} {P : Leaf → Prop} {node child : SchemaNode}
    (h : node.Regular Q P) {step : SchemaStep} (hc : node.child? step = some child) :
    child.Regular Q P := by
  cases h with
  | leaf _ _ => cases step <;> cases hc
  | array _ hi =>
    cases step with
    | property name => cases hc
    | items => exact Option.some.inj hc ▸ hi
  | object _ _ hp =>
    cases step with
    | property name => exact hp name child (Keyed.mem_of_get? hc)
    | items => cases hc

theorem Regular.at? {Q : Semantics → Prop} {P : Leaf → Prop} {node found : SchemaNode}
    (h : node.Regular Q P) {position : SchemaPosition} (hf : node.at? position = some found) :
    found.Regular Q P := by
  induction position generalizing node with
  | nil => exact Option.some.inj hf ▸ h
  | cons step rest ih =>
    obtain ⟨child, hc, hf⟩ := Option.bind_eq_some_iff.1 hf
    exact ih (h.child? hc) hf

end SchemaNode

end TypedTemplate
