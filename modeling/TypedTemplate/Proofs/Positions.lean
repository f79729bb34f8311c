import TypedTemplate.Proofs.Lookup
import TypedTemplate.Schema.Tree

/-!
# Positions of a schema

A step of a resolved path leads to a property of an object, and with a marker further to the
items of an array. Taken apart into these two kinds of steps, a change at the end of a path is a
recursion on single steps: every node on the way is refilled with its changed child, and what
does not have the kind that the next step needs gives way to an empty node of that kind. What
lies beside the way stays, unless it lay under a node that gave way.
-/
namespace TypedTemplate

/-- What a schema can describe at a position. -/
inductive SchemaKind where
  | leaf | array | object
  deriving DecidableEq, Repr

/-- A step into a schema. -/
inductive SchemaStep where
  | property (name : Text)
  | items
  deriving DecidableEq, Repr

/-- A position of a schema, given by the steps from its root. -/
abbrev SchemaPosition := List SchemaStep

/-- What a node has to be for a step to begin there. -/
def SchemaStep.holder : SchemaStep → SchemaKind
  | .property _ => .object
  | .items => .array

namespace SchemaPosition

/-- The position that a step of a resolved path leads to. -/
def ofStep (step : SchemaNode.Step) : SchemaPosition :=
  .property step.1 :: if step.2 then [.items] else []

def ofSteps (steps : List SchemaNode.Step) : SchemaPosition := steps.flatMap ofStep

/-- The position that a resolved path names. -/
def ofPath (path : Text) : SchemaPosition := ofSteps (SchemaNode.steps path)

/-- The kinds that nodes on the way to a position and at its end need to have. -/
def demands : SchemaPosition → SchemaKind → List (SchemaPosition × SchemaKind)
  | [], kind => [([], kind)]
  | step :: rest, kind =>
    ([], step.holder) :: (demands rest kind).map fun d => (step :: d.1, d.2)

theorem mem_demands_self (position : SchemaPosition) (kind : SchemaKind) :
    (position, kind) ∈ demands position kind := by
  induction position with
  | nil => simp [demands]
  | cons step rest ih =>
    exact List.mem_cons_of_mem _ (List.mem_map.2 ⟨_, ih, rfl⟩)

theorem mem_demands_of_append (before : SchemaPosition) (step : SchemaStep) (rest : SchemaPosition)
    (kind : SchemaKind) : (before, step.holder) ∈ demands (before ++ step :: rest) kind := by
  induction before with
  | nil => simp [demands]
  | cons first before ih =>
    exact List.mem_cons_of_mem _ (List.mem_map.2 ⟨_, ih, rfl⟩)

theorem eq_or_exists_of_mem_demands {position : SchemaPosition} {kind : SchemaKind}
    {d : SchemaPosition × SchemaKind} (h : d ∈ position.demands kind) :
    d = (position, kind) ∨ ∃ step rest, position = d.1 ++ step :: rest ∧ step.holder = d.2 := by
  induction position generalizing d with
  | nil => exact .inl (List.mem_singleton.1 h)
  | cons step rest ih =>
    rcases List.mem_cons.1 h with rfl | h
    · exact .inr ⟨step, rest, rfl, rfl⟩
    · obtain ⟨e, he, rfl⟩ := List.mem_map.1 h
      rcases ih he with rfl | ⟨next, more, hrest, hkind⟩
      · exact .inl rfl
      · exact .inr ⟨next, more, congrArg (step :: ·) hrest, hkind⟩

/-- Whether nodes of the kinds needed for a position leave no place for another one. -/
def Excludes (position : SchemaPosition) (kind : SchemaKind) (other : SchemaPosition) : Prop :=
  ∃ d ∈ demands position kind, ∃ step rest, other = d.1 ++ step :: rest ∧ step.holder ≠ d.2

theorem excludes_at_end {kind : SchemaKind} {step : SchemaStep} {rest : SchemaPosition} :
    Excludes [] kind (step :: rest) ↔ step.holder ≠ kind := by
  constructor
  · rintro ⟨d, hd, other, more, h, hne⟩
    rw [demands, List.mem_singleton] at hd
    rw [hd] at h hne
    simp only [List.nil_append, List.cons.injEq] at h
    rw [h.1]
    exact hne
  · intro h
    exact ⟨([], kind), by simp [demands], step, rest, rfl, h⟩

theorem excludes_cons_self {step : SchemaStep} {rest other : SchemaPosition} {kind : SchemaKind} :
    Excludes (step :: rest) kind (step :: other) ↔ Excludes rest kind other := by
  constructor
  · rintro ⟨d, hd, next, more, h, hne⟩
    rcases List.mem_cons.1 hd with rfl | hd
    · simp only [List.nil_append, List.cons.injEq] at h
      exact absurd (congrArg SchemaStep.holder h.1.symm) hne
    · obtain ⟨e, he, rfl⟩ := List.mem_map.1 hd
      simp only [List.cons_append, List.cons.injEq, true_and] at h
      exact ⟨e, he, next, more, h, hne⟩
  · rintro ⟨d, hd, next, more, rfl, hne⟩
    exact ⟨(step :: d.1, d.2), List.mem_cons_of_mem _ (List.mem_map.2 ⟨d, hd, rfl⟩), next, more,
      rfl, hne⟩

theorem excludes_cons_ne {step first : SchemaStep} {rest other : SchemaPosition} {kind : SchemaKind}
    (h : first ≠ step) :
    Excludes (step :: rest) kind (first :: other) ↔ first.holder ≠ step.holder := by
  constructor
  · rintro ⟨d, hd, next, more, he, hne⟩
    rcases List.mem_cons.1 hd with rfl | hd
    · simp only [List.nil_append, List.cons.injEq] at he
      rw [he.1]
      exact hne
    · obtain ⟨e, he', rfl⟩ := List.mem_map.1 hd
      simp only [List.cons_append, List.cons.injEq] at he
      exact absurd he.1 h
  · intro hne
    exact ⟨([], step.holder), by simp [demands], first, other, rfl, hne⟩

end SchemaPosition

namespace SchemaNode

def kind : SchemaNode → SchemaKind
  | .leaf .. => .leaf
  | .array .. => .array
  | .object .. => .object

def child? : SchemaStep → SchemaNode → Option SchemaNode
  | .property name, .object _ properties => Keyed.get? name properties
  | .items, .array _ items => some items
  | _, _ => none

def at? : SchemaPosition → SchemaNode → Option SchemaNode
  | [], node => some node
  | step :: rest, node => (child? step node).bind (at? rest)

@[simp] theorem at?_nil (node : SchemaNode) : at? [] node = some node := rfl

theorem at?_cons (step : SchemaStep) (rest : SchemaPosition) (node : SchemaNode) :
    at? (step :: rest) node = (child? step node).bind (at? rest) := rfl

theorem at?_singleton (step : SchemaStep) (node : SchemaNode) :
    at? [step] node = child? step node := by
  rw [at?_cons]
  cases child? step node <;> rfl

theorem bind_at?_nil (slot : Option SchemaNode) : slot.bind (at? []) = slot := by
  cases slot <;> rfl

theorem bind_at?_singleton (step : SchemaStep) (slot : Option SchemaNode) :
    slot.bind (at? [step]) = slot.bind (child? step) :=
  Option.bind_congr fun node _ => at?_singleton step node

theorem at?_append (before after : SchemaPosition) (node : SchemaNode) :
    at? (before ++ after) node = (at? before node).bind (at? after) := by
  induction before generalizing node with
  | nil => rfl
  | cons step before ih =>
    rw [List.cons_append, at?_cons, at?_cons, Option.bind_assoc]
    exact Option.bind_congr fun child _ => ih child

theorem at?_emptyObject (step : SchemaStep) (rest : SchemaPosition) :
    at? (step :: rest) emptyObject = none := by
  cases step <;> rfl

theorem child?_eq_none {step : SchemaStep} {node : SchemaNode} (h : step.holder ≠ node.kind) :
    child? step node = none := by
  cases step <;> cases node <;> first | rfl | exact absurd rfl h

/-- What a change finds one step further in. Missing items count as an empty object. -/
def slot? : SchemaStep → Option SchemaNode → Option SchemaNode
  | .property name, slot => Keyed.get? name (objectParts slot).2
  | .items, slot => some (arrayParts slot).2

def refill : SchemaStep → Option SchemaNode → SchemaNode → SchemaNode
  | .property name, slot, child =>
    .object (objectParts slot).1 (Keyed.set name child (objectParts slot).2)
  | .items, slot, child => .array (arrayParts slot).1 child

def alter (f : Option SchemaNode → SchemaNode) : SchemaPosition → Option SchemaNode → SchemaNode
  | [], slot => f slot
  | step :: rest, slot => refill step slot (alter f rest (slot? step slot))

theorem alter_append (f : Option SchemaNode → SchemaNode) (before after : SchemaPosition)
    (slot : Option SchemaNode) :
    alter f (before ++ after) slot = alter (alter f after) before slot := by
  induction before generalizing slot with
  | nil => rfl
  | cons step before ih => rw [List.cons_append, alter, alter, ih]

theorem update_eq_alter (f : Option SchemaNode → SchemaNode) (path : List Step)
    (slot : Option SchemaNode) :
    update f path slot = alter f (SchemaPosition.ofSteps path) slot := by
  induction path generalizing slot with
  | nil => rfl
  | cons step path ih =>
    obtain ⟨name, isArray⟩ := step
    cases isArray with
    | false =>
      simp only [update, Bool.false_eq_true, if_false, ih]
      rfl
    | true =>
      simp only [update, if_true, ih]
      rfl

theorem kind_refill (step : SchemaStep) (slot : Option SchemaNode) (child : SchemaNode) :
    (refill step slot child).kind = step.holder := by
  cases step <;> rfl

theorem child?_refill_self (step : SchemaStep) (slot : Option SchemaNode) (child : SchemaNode) :
    child? step (refill step slot child) = some child := by
  cases step with
  | property name => exact Keyed.get?_set_self name child _
  | items => rfl

theorem get?_objectParts (name : Text) (slot : Option SchemaNode) :
    Keyed.get? name (objectParts slot).2 = slot.bind (child? (.property name)) := by
  rcases slot with - | (- | - | -) <;> rfl

theorem child?_refill_ne {step other : SchemaStep} (h : other ≠ step) (slot : Option SchemaNode)
    (child : SchemaNode) :
    child? other (refill step slot child) =
      if other.holder = step.holder then slot.bind (child? other) else none := by
  cases step with
  | property name =>
    cases other with
    | property key =>
      have hne : key ≠ name := fun e => h (e ▸ rfl)
      have hk : (SchemaStep.property key).holder = (SchemaStep.property name).holder := rfl
      rw [if_pos hk, ← get?_objectParts]
      exact Keyed.get?_set_ne child _ hne
    | items => rfl
  | items =>
    cases other with
    | property key => rfl
    | items => exact absurd rfl h

theorem putArray_eq_refill (slot : Option SchemaNode) :
    putArray slot = refill .items slot (arrayParts slot).2 := by
  rcases slot with - | (- | - | -) <;> rfl

theorem slot?_of_child? {step : SchemaStep} {slot : Option SchemaNode} {child : SchemaNode}
    (h : slot.bind (child? step) = some child) : slot? step slot = some child := by
  cases step with
  | property name => rw [slot?, get?_objectParts, h]
  | items =>
    obtain ⟨node, rfl, hn⟩ := Option.bind_eq_some_iff.1 h
    cases node with
    | array a items => exact hn
    | leaf a l => cases hn
    | object a properties => cases hn

/-- One step further in a change finds what is there, or an empty object for missing items. -/
theorem slot?_cases (step : SchemaStep) (slot : Option SchemaNode) :
    slot? step slot = slot.bind (child? step) ∨
      (slot.bind (child? step) = none ∧ slot? step slot = some emptyObject) := by
  cases step with
  | property name => exact .inl (get?_objectParts name slot)
  | items => rcases slot with - | (- | - | -) <;> first | exact .inl rfl | exact .inr ⟨rfl, rfl⟩

theorem at?_slot? (step next : SchemaStep) (rest : SchemaPosition) (slot : Option SchemaNode) :
    (slot? step slot).bind (at? (next :: rest)) = slot.bind (at? (step :: next :: rest)) := by
  cases step with
  | property name =>
    rw [slot?, get?_objectParts, Option.bind_assoc]
    rfl
  | items => rcases slot with - | (- | - | -) <;> first | rfl | exact at?_emptyObject next rest

/-- A change puts its outcome into its position. What it finds there is what stands there, or an
empty object for missing items. -/
theorem exists_at?_alter_end (f : Option SchemaNode → SchemaNode) (position : SchemaPosition)
    (slot : Option SchemaNode) :
    ∃ found, at? position (alter f position slot) = some (f found) ∧
      (found = slot.bind (at? position) ∨
        (slot.bind (at? position) = none ∧ found = some emptyObject)) := by
  induction position generalizing slot with
  | nil => exact ⟨slot, rfl, .inl (bind_at?_nil slot).symm⟩
  | cons step rest ih =>
    rw [alter, at?_cons, child?_refill_self]
    cases rest with
    | nil =>
      rw [bind_at?_singleton]
      exact ⟨slot? step slot, rfl, slot?_cases step slot⟩
    | cons next rest =>
      rw [← at?_slot?]
      exact ih (slot? step slot)

theorem exists_at?_alter {f : Option SchemaNode → SchemaNode} {kind : SchemaKind}
    (hf : ∀ slot, (f slot).kind = kind) {position : SchemaPosition}
    {d : SchemaPosition × SchemaKind} (h : d ∈ position.demands kind) (slot : Option SchemaNode) :
    ∃ node, at? d.1 (alter f position slot) = some node ∧ node.kind = d.2 := by
  induction position generalizing d slot with
  | nil =>
    rw [SchemaPosition.demands, List.mem_singleton] at h
    exact ⟨f slot, by rw [h]; rfl, by rw [h, hf]⟩
  | cons step rest ih =>
    rcases List.mem_cons.1 h with rfl | h
    · exact ⟨_, rfl, kind_refill step slot _⟩
    · obtain ⟨e, he, rfl⟩ := List.mem_map.1 h
      obtain ⟨node, hn, hk⟩ := ih he (slot? step slot)
      refine ⟨node, ?_, hk⟩
      rw [alter, at?_cons, child?_refill_self]
      exact hn

theorem at?_alter_self {f : Option SchemaNode → SchemaNode} {position : SchemaPosition}
    {slot : Option SchemaNode} {node : SchemaNode} (h : slot.bind (at? position) = some node) :
    at? position (alter f position slot) = some (f (some node)) := by
  induction position generalizing slot with
  | nil =>
    obtain ⟨top, rfl, hn⟩ := Option.bind_eq_some_iff.1 h
    rw [← Option.some.inj hn]
    rfl
  | cons step rest ih =>
    obtain ⟨top, htop, hn⟩ := Option.bind_eq_some_iff.1 h
    obtain ⟨child, hc, hn⟩ := Option.bind_eq_some_iff.1 hn
    have hs : slot? step slot = some child := slot?_of_child? (by rw [htop]; exact hc)
    rw [alter, at?_cons, child?_refill_self]
    exact ih (by rw [hs]; exact hn)

/-- A change leaves a node as it was that does not stand on its way and is not excluded. -/
theorem at?_alter_of_not_excludes {f : Option SchemaNode → SchemaNode} {kind : SchemaKind}
    (hf : ∀ node step child, step.holder = kind → child? step node = some child →
      child? step (f (some node)) = some child)
    {position other : SchemaPosition} {slot : Option SchemaNode} {node : SchemaNode}
    (h : slot.bind (at? other) = some node) (hp : ¬ other <+: position)
    (he : ¬ position.Excludes kind other) : at? other (alter f position slot) = some node := by
  induction position generalizing other slot with
  | nil =>
    cases other with
    | nil => exact absurd List.nil_prefix hp
    | cons step rest =>
      obtain ⟨top, rfl, hn⟩ := Option.bind_eq_some_iff.1 h
      have hk : step.holder = kind :=
        Decidable.byContradiction fun hne => he (SchemaPosition.excludes_at_end.2 hne)
      obtain ⟨child, hc, hn⟩ := Option.bind_eq_some_iff.1 hn
      rw [alter, at?_cons, hf top step child hk hc]
      exact hn
  | cons step rest ih =>
    cases other with
    | nil => exact absurd List.nil_prefix hp
    | cons first more =>
      by_cases hs : first = step
      · subst hs
        rw [SchemaPosition.excludes_cons_self] at he
        have hp' : ¬ more <+: rest := fun e => hp (List.cons_prefix_cons.2 ⟨rfl, e⟩)
        rw [alter, at?_cons, child?_refill_self]
        refine ih ?_ hp' he
        cases more with
        | nil => exact absurd List.nil_prefix hp'
        | cons next more => rw [at?_slot?]; exact h
      · rw [SchemaPosition.excludes_cons_ne hs, Decidable.not_not] at he
        obtain ⟨top, rfl, hn⟩ := Option.bind_eq_some_iff.1 h
        rw [alter, at?_cons, child?_refill_ne hs, if_pos he]
        exact hn

/-- After a change a position is there if it lies on the way, if the new node has it, or if it
was there and is not excluded. -/
theorem isSome_at?_alter {f : Option SchemaNode → SchemaNode} {kind : SchemaKind}
    (inner : SchemaPosition → Prop)
    (hf : ∀ slot step rest, (at? (step :: rest) (f slot)).isSome ↔
      inner (step :: rest) ∨ ((slot.bind (at? (step :: rest))).isSome ∧ step.holder = kind))
    (position other : SchemaPosition) (slot : Option SchemaNode) :
    (at? other (alter f position slot)).isSome ↔
      other <+: position ∨ (∃ step rest, inner (step :: rest) ∧ other = position ++ step :: rest) ∨
      ((slot.bind (at? other)).isSome ∧ ¬ position.Excludes kind other) := by
  induction position generalizing other slot with
  | nil =>
    cases other with
    | nil => simp [alter]
    | cons step rest =>
      rw [alter, hf, SchemaPosition.excludes_at_end]
      simp
  | cons step rest ih =>
    cases other with
    | nil => simp
    | cons first more =>
      by_cases hs : first = step
      · subst hs
        rw [alter, at?_cons, child?_refill_self, Option.bind_some, ih,
          SchemaPosition.excludes_cons_self, List.cons_prefix_cons]
        simp only [true_and, List.cons_append, List.cons.injEq]
        cases more with
        | nil => simp
        | cons next more => rw [at?_slot?]
      · rw [alter, at?_cons, child?_refill_ne hs, SchemaPosition.excludes_cons_ne hs,
          Decidable.not_not,
          List.cons_prefix_cons]
        simp only [hs, false_and, List.cons_append, List.cons.injEq, and_false, exists_false,
          false_or]
        split
        · rename_i hk
          simp only [hk, and_true]
          rw [Option.bind_assoc]
          rfl
        · rename_i hk
          simp [hk]

end SchemaNode
end TypedTemplate
