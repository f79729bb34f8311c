import TypedTemplate.Proofs.Registrations

/-!
# Compiled trees

What stands in the tree that a template is compiled to. Annotations leave its shape as the
registrations made it. Every property occurs once, and every leaf carries keywords of
constraints only, so none of them takes the place of the keyword of its type.
-/
namespace TypedTemplate

namespace SchemaNode

def leaf? : SchemaNode → Option Leaf
  | .leaf _ l => some l
  | _ => none

/-- What a node says about data: its kind, and the leaf that it may be. -/
def form (node : SchemaNode) : SchemaKind × Option Leaf := (node.kind, node.leaf?)

/-- A change of the node at a position, if there is one. -/
def adjust (f : SchemaNode → SchemaNode) : SchemaPosition → SchemaNode → SchemaNode
  | [], node => f node
  | .property name :: rest, .object a properties =>
    .object a (modifyKey name (adjust f rest) properties)
  | .items :: rest, .array a items => .array a (adjust f rest items)
  | _ :: _, node => node

theorem modify_eq_adjust (f : SchemaNode → SchemaNode) (path : List Step) (node : SchemaNode) :
    modify f path node = adjust f (SchemaPosition.ofSteps path) node := by
  induction path generalizing node with
  | nil => cases node <;> rfl
  | cons step path ih =>
    obtain ⟨name, isArray⟩ := step
    cases node with
    | leaf a l => rfl
    | array a items => rfl
    | object a properties =>
      cases isArray with
      | false =>
        simp only [modify, Bool.false_eq_true, if_false, ih]
        rfl
      | true =>
        simp only [modify, if_true]
        refine congrArg (fun f => SchemaNode.object a (modifyKey name f properties)) ?_
        funext child
        cases child with
        | array b items => exact congrArg (SchemaNode.array b) (ih items)
        | leaf a l => rfl
        | object a properties => rfl

theorem get?_modifyKey (key other : Text) (f : SchemaNode → SchemaNode)
    (properties : Keyed SchemaNode) :
    Keyed.get? other (modifyKey key f properties) =
      if other = key then (Keyed.get? other properties).map f
      else Keyed.get? other properties := by
  induction properties with
  | nil => simp [modifyKey]
  | cons entry rest ih =>
    obtain ⟨k, v⟩ := entry
    by_cases hk : k = key
    · by_cases ho : other = key
      · simp [modifyKey, Keyed.get?, hk, ho]
      · simp [modifyKey, Keyed.get?, hk, ho, Ne.symm ho]
    · by_cases ho : k = other
      · simp [modifyKey, Keyed.get?, ho, ho ▸ hk]
      · simp [modifyKey, Keyed.get?, hk, ho, ih]

theorem form_at?_adjust {f : SchemaNode → SchemaNode} (hform : ∀ node, (f node).form = node.form)
    (hchild : ∀ node step, (f node).child? step = node.child? step)
    (position other : SchemaPosition) (node : SchemaNode) :
    ((adjust f position node).at? other).map form = (node.at? other).map form := by
  induction position generalizing node other with
  | nil =>
    cases other with
    | nil => exact congrArg some (hform node)
    | cons step rest => simp only [adjust, at?_cons, hchild]
  | cons step position ih =>
    cases step with
    | property name =>
      cases node with
      | leaf a l => rfl
      | array a items => rfl
      | object a properties =>
        rcases other with - | ⟨- | -, rest⟩
        · rfl
        · rename_i key
          simp only [adjust, at?_cons, child?, get?_modifyKey]
          split
          · cases Keyed.get? key properties with
            | none => rfl
            | some child => exact ih rest child
          · rfl
        · rfl
    | items =>
      cases node with
      | leaf a l => rfl
      | object a properties => rfl
      | array a items =>
        rcases other with - | ⟨- | -, rest⟩
        · rfl
        · rfl
        · exact ih rest items

theorem form_annotate (overwrite : Bool) (new : Semantics) (node : SchemaNode) :
    (annotate overwrite new node).form = node.form := by
  cases node <;> rfl

theorem child?_annotate (overwrite : Bool) (new : Semantics) (node : SchemaNode)
    (step : SchemaStep) : (annotate overwrite new node).child? step = node.child? step := by
  cases node <;> cases step <;> rfl

theorem form_at?_annotateAt (path : Text) (overwrite : Bool) (new : Semantics)
    (root : SchemaNode) (other : SchemaPosition) :
    ((root.annotateAt path overwrite new).at? other).map form = (root.at? other).map form := by
  rw [annotateAt, modify_eq_adjust]
  exact form_at?_adjust (form_annotate overwrite new) (child?_annotate overwrite new) _ _ _

end SchemaNode

/-- The keywords of a leaf are those of constraints, each once. -/
structure Leaf.IsProper (l : Leaf) : Prop where
  nodup : (Keyed.keys l.keywords).Nodup
  ofConstraint : ∀ name operand, (name, operand) ∈ l.keywords →
    ∃ c : Constraint, name = c.kind.schemaKeyword ∧ operand = c.operand

theorem Leaf.isProper_condition : Leaf.condition.IsProper :=
  ⟨List.nodup_nil, nofun⟩

theorem Leaf.isProper_ofInterpolation (i : Interpolation) : (Leaf.ofInterpolation i).IsProper := by
  refine ⟨Keyed.nodup_keys_ofEntries _, fun name operand h => ?_⟩
  rcases Keyed.mem_or_mem_of_mem_setAll h with h | h
  · obtain ⟨c, -, he⟩ := List.mem_map.1 h
    obtain ⟨rfl, rfl⟩ := Prod.mk.inj he
    exact ⟨c, rfl, rfl⟩
  · cases h

theorem Leaf.IsProper.merge {old new : Leaf} (ho : old.IsProper) (hn : new.IsProper) :
    (old.merge new).IsProper := by
  unfold Leaf.merge
  split
  · exact ho
  · refine ⟨Keyed.nodup_keys_setAll ho.nodup _, fun name operand h => ?_⟩
    rcases Keyed.mem_or_mem_of_mem_setAll h with h | h
    · exact hn.ofConstraint name operand h
    · exact ho.ofConstraint name operand h

namespace SchemaNode

/-- The properties of every object occur once, and every leaf is proper. -/
inductive Proper : SchemaNode → Prop
  | leaf {a : Semantics} {l : Leaf} : l.IsProper → Proper (.leaf a l)
  | array {a : Semantics} {items : SchemaNode} : Proper items → Proper (.array a items)
  | object {a : Semantics} {properties : Keyed SchemaNode} : (Keyed.keys properties).Nodup →
      (∀ name node, (name, node) ∈ properties → Proper node) → Proper (.object a properties)

/-- The properties of every object occur once, and all annotations and all leaves meet a
condition. -/
inductive Regular (Q : Semantics → Prop) (P : Leaf → Prop) : SchemaNode → Prop
  | leaf {a : Semantics} {l : Leaf} : Q a → P l → Regular Q P (.leaf a l)
  | array {a : Semantics} {items : SchemaNode} : Q a → Regular Q P items →
      Regular Q P (.array a items)
  | object {a : Semantics} {properties : Keyed SchemaNode} : Q a →
      (Keyed.keys properties).Nodup →
      (∀ name node, (name, node) ∈ properties → Regular Q P node) →
      Regular Q P (.object a properties)

theorem Regular.proper {Q : Semantics → Prop} {node : SchemaNode}
    (h : node.Regular Q Leaf.IsProper) : node.Proper := by
  induction h with
  | leaf _ hl => exact .leaf hl
  | array _ _ ih => exact .array ih
  | object _ hk _ ih => exact .object hk ih

theorem Proper.regular {node : SchemaNode} (h : node.Proper) :
    node.Regular (fun _ => True) Leaf.IsProper := by
  induction h with
  | leaf hl => exact .leaf trivial hl
  | array _ ih => exact .array trivial ih
  | object hk _ ih => exact .object trivial hk ih

section

variable {Q : Semantics → Prop} {P : Leaf → Prop} (hq : Q .empty)
include hq

theorem regular_emptyObject : Regular Q P emptyObject := .object hq List.nodup_nil nofun

theorem regular_arrayParts {slot : Option SchemaNode} (h : ∀ node ∈ slot, Regular Q P node) :
    Q (arrayParts slot).1 ∧ Regular Q P (arrayParts slot).2 := by
  have hempty : Q .empty ∧ Regular Q P emptyObject := ⟨hq, regular_emptyObject hq⟩
  rcases slot with - | node
  · exact hempty
  · cases h node rfl with
    | leaf _ _ => exact hempty
    | array ha hi => exact ⟨ha, hi⟩
    | object _ _ _ => exact hempty

theorem regular_objectParts {slot : Option SchemaNode} (h : ∀ node ∈ slot, Regular Q P node) :
    Q (objectParts slot).1 ∧ (Keyed.keys (objectParts slot).2).Nodup ∧
      ∀ name node, (name, node) ∈ (objectParts slot).2 → Regular Q P node := by
  rcases slot with - | node
  · exact ⟨hq, List.nodup_nil, nofun⟩
  · cases h node rfl with
    | leaf _ _ => exact ⟨hq, List.nodup_nil, nofun⟩
    | array _ _ => exact ⟨hq, List.nodup_nil, nofun⟩
    | object ha hk hc => exact ⟨ha, hk, hc⟩

theorem regular_slot? {slot : Option SchemaNode} (h : ∀ node ∈ slot, Regular Q P node)
    (step : SchemaStep) : ∀ node ∈ slot? step slot, Regular Q P node := by
  intro node hn
  cases step with
  | property name => exact (regular_objectParts hq h).2.2 name node (Keyed.mem_of_get? hn)
  | items => exact Option.some.inj hn ▸ (regular_arrayParts hq h).2

theorem regular_refill {slot : Option SchemaNode} {child : SchemaNode}
    (h : ∀ node ∈ slot, Regular Q P node) (hc : Regular Q P child) (step : SchemaStep) :
    Regular Q P (refill step slot child) := by
  cases step with
  | property name =>
    have hparts := regular_objectParts hq h
    refine .object hparts.1 (Keyed.nodup_keys_set hparts.2.1 _ _) fun key node hn => ?_
    rcases Keyed.eq_or_mem_of_mem_set hn with hn | hn
    · exact (Prod.mk.inj hn).2 ▸ hc
    · exact hparts.2.2 key node hn
  | items => exact .array (regular_arrayParts hq h).1 hc

theorem regular_alter {f : Option SchemaNode → SchemaNode}
    (hf : ∀ slot, (∀ node ∈ slot, Regular Q P node) → Regular Q P (f slot))
    (position : SchemaPosition) {slot : Option SchemaNode}
    (h : ∀ node ∈ slot, Regular Q P node) : Regular Q P (alter f position slot) := by
  induction position generalizing slot with
  | nil => exact hf slot h
  | cons step rest ih =>
    exact regular_refill hq h (ih (regular_slot? hq h step)) step

end

theorem proper_emptyObject : Proper emptyObject := .object List.nodup_nil nofun

theorem keys_modifyKey (key : Text) (f : SchemaNode → SchemaNode)
    (properties : Keyed SchemaNode) :
    Keyed.keys (modifyKey key f properties) = Keyed.keys properties := by
  induction properties with
  | nil => rfl
  | cons entry rest ih =>
    unfold modifyKey
    split
    · rfl
    · exact congrArg (entry.1 :: ·) ih

theorem mem_modifyKey {key name : Text} {f : SchemaNode → SchemaNode} {node : SchemaNode}
    {properties : Keyed SchemaNode} (h : (name, node) ∈ modifyKey key f properties) :
    (name, node) ∈ properties ∨ ∃ old, (name, old) ∈ properties ∧ node = f old := by
  induction properties with
  | nil => cases h
  | cons entry rest ih =>
    unfold modifyKey at h
    split at h
    · rcases List.mem_cons.1 h with h | h
      · obtain ⟨rfl, rfl⟩ := Prod.mk.inj h
        exact .inr ⟨entry.2, List.mem_cons_self, rfl⟩
      · exact .inl (List.mem_cons_of_mem _ h)
    · rcases List.mem_cons.1 h with h | h
      · exact .inl (h ▸ List.mem_cons_self)
      · rcases ih h with h | ⟨old, ho, rfl⟩
        · exact .inl (List.mem_cons_of_mem _ h)
        · exact .inr ⟨old, List.mem_cons_of_mem _ ho, rfl⟩

theorem proper_adjust {f : SchemaNode → SchemaNode} (hf : ∀ node, Proper node → Proper (f node))
    (position : SchemaPosition) {node : SchemaNode} (h : Proper node) :
    Proper (adjust f position node) := by
  induction position generalizing node with
  | nil => cases node <;> exact hf _ h
  | cons step rest ih =>
    cases h with
    | leaf hl => cases step <;> exact .leaf hl
    | array hi =>
      cases step with
      | property name => exact .array hi
      | items => exact .array (ih hi)
    | object hk hc =>
      cases step with
      | items => exact .object hk hc
      | property name =>
        refine .object (by rw [keys_modifyKey]; exact hk) fun key node hn => ?_
        rcases mem_modifyKey hn with hn | ⟨old, ho, rfl⟩
        · exact hc key node hn
        · exact ih (hc key old ho)

theorem proper_annotateAt {root : SchemaNode} (h : Proper root) (path : Text) (overwrite : Bool)
    (new : Semantics) : Proper (root.annotateAt path overwrite new) := by
  rw [annotateAt, modify_eq_adjust]
  refine proper_adjust (fun node hn => ?_) _ h
  cases hn with
  | leaf hl => exact .leaf hl
  | array hi => exact .array hi
  | object hk hc => exact .object hk hc

end SchemaNode

def Registration.IsProper : Registration → Prop
  | .leaf _ l => l.IsProper
  | .array _ => True

theorem Occurrence.isProper_of_registration? {o : Occurrence} {r : Registration}
    (h : o.registration? = some r) : r.IsProper := by
  cases o with
  | interpolation scope i =>
    simp only [Occurrence.registration?] at h
    split at h
    · cases h
    · exact Option.some.inj h ▸ Leaf.isProper_ofInterpolation i
  | iteration scope i => exact Option.some.inj h ▸ trivial
  | condition scope path =>
    simp only [Occurrence.registration?] at h
    split at h
    · cases h
    · exact Option.some.inj h ▸ Leaf.isProper_condition

def Registration.leaf? : Registration → Option Leaf
  | .leaf _ l => some l
  | .array _ => none

theorem Registration.regular_addTo {Q : Semantics → Prop} {P : Leaf → Prop} (hq : Q .empty)
    {r : Registration} (hr : ∀ l ∈ r.leaf?, P l ∧ ∀ old, P old → P (old.merge l))
    {tree : SchemaNode} (h : tree.Regular Q P) : (r.addTo tree).Regular Q P := by
  have htree : ∀ node ∈ some tree, SchemaNode.Regular Q P node :=
    fun node hn => Option.some.inj hn ▸ h
  refine SchemaNode.regular_alter hq (fun slot hs => ?_) r.position htree
  cases r with
  | leaf path l =>
    have hl := hr l rfl
    rcases slot with - | node
    · exact .leaf hq hl.1
    · cases hs node rfl with
      | leaf ha ho => exact .leaf ha (hl.2 _ ho)
      | array _ _ => exact .leaf hq hl.1
      | object _ _ _ => exact .leaf hq hl.1
  | array path =>
    have hput : Registration.put (.array path) slot = _ := SchemaNode.putArray_eq_refill slot
    rw [hput]
    exact SchemaNode.regular_refill hq hs (SchemaNode.regular_arrayParts hq hs).2 .items

theorem Registration.regular_foldl {Q : Semantics → Prop} {P : Leaf → Prop} (hq : Q .empty)
    {all : List Registration}
    (h : ∀ r ∈ all, ∀ l ∈ r.leaf?, P l ∧ ∀ old, P old → P (old.merge l)) {tree : SchemaNode}
    (ht : tree.Regular Q P) : (all.foldl (fun t r => r.addTo t) tree).Regular Q P := by
  induction all generalizing tree with
  | nil => exact ht
  | cons r rest ih =>
    obtain ⟨hr, hrest⟩ := List.forall_mem_cons.1 h
    exact ih hrest (regular_addTo hq hr ht)

theorem Registration.IsProper.leaf {r : Registration} (hr : r.IsProper) :
    ∀ l ∈ r.leaf?, l.IsProper ∧ ∀ old : Leaf, old.IsProper → (old.merge l).IsProper := by
  intro l hl
  cases r with
  | leaf path new =>
    obtain rfl := Option.some.inj hl
    exact ⟨hr, fun old ho => ho.merge hr⟩
  | array path => cases hl

namespace Compile

theorem proper_collect (occurrences : List Occurrence) {tree : SchemaNode} (h : tree.Proper) :
    (collect occurrences tree).Proper := by
  refine (Registration.regular_foldl trivial (fun r hr => ?_) h.regular).proper
  obtain ⟨o, -, ho⟩ := List.mem_filterMap.1 hr
  exact (Occurrence.isProper_of_registration? ho).leaf

/-- What no annotation changes, laying many leaves as it is. -/
theorem layAll_induction {motive : SchemaNode → Prop} {overwrite : Bool}
    (hstep : ∀ tree path new, motive tree → motive (tree.annotateAt path overwrite new))
    (all : List (Text × Semantics)) {tree : SchemaNode} (h : motive tree) :
    motive (layAll overwrite all tree) := by
  unfold layAll
  induction all generalizing tree with
  | nil => exact h
  | cons a rest ih => exact ih (hstep tree a.1 a.2 h)

/-- The tree of a template is proper, and at every position it says about data what the
registrations of the template made it say. -/
theorem tree_eq_ok {settings : Settings} {root : Node} {t : SchemaNode}
    (h : tree settings root = .ok t) :
    t.Proper ∧ ∀ position, (t.at? position).map SchemaNode.form =
      ((collect (root.occurrences .empty) .emptyObject).at? position).map SchemaNode.form := by
  obtain ⟨p, hp, h⟩ := Fault.bind_eq_ok_iff.1 h
  obtain ⟨byPath, -, h⟩ := Fault.bind_eq_ok_iff.1 h
  have htree : p.tree = collect (root.occurrences .empty) .emptyObject := tree_of_walk hp
  rw [← Except.ok.inj h, ← htree]
  have hannotate : ∀ overwrite t path new, SchemaNode.Proper t →
      (t.annotateAt path overwrite new).Proper :=
    fun overwrite t path new ht => SchemaNode.proper_annotateAt ht path overwrite new
  have hproper : p.tree.Proper := htree ▸ proper_collect _ SchemaNode.proper_emptyObject
  refine ⟨layAll_induction (hannotate false) _ (layAll_induction (hannotate true) _ hproper), ?_⟩
  intro position
  let SameForm (t : SchemaNode) : Prop :=
    (t.at? position).map SchemaNode.form = (p.tree.at? position).map SchemaNode.form
  have hsame : ∀ overwrite t path new, SameForm t → SameForm (t.annotateAt path overwrite new) :=
    fun overwrite t path new ht => (t.form_at?_annotateAt path overwrite new position).trans ht
  exact layAll_induction (motive := SameForm) (hsame false) _
    (layAll_induction (motive := SameForm) (hsame true) _ rfl)

end Compile
end TypedTemplate
