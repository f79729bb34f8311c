import Mathlib.Data.List.Pairwise
import TypedTemplate.Proofs.CanonicalOrder
import TypedTemplate.Proofs.LastingShapes
import TypedTemplate.Proofs.PropertyNames

/-!
# Registrations in any order

Where no two registrations need nodes of different kinds at one position, and no two place a leaf
at one path, it does not matter which of them comes first. At every position their effects
commute, so every order makes trees that say the same, with one canonical schema.
-/
namespace TypedTemplate

namespace SchemaNode

theorem follow_eq_at? (path : List Step) (node : SchemaNode) :
    follow path node = node.at? (SchemaPosition.ofSteps path) := by
  induction path generalizing node with
  | nil => cases node <;> rfl
  | cons step path ih =>
    obtain ⟨name, isArray⟩ := step
    rw [SchemaPosition.ofSteps_cons, at?_append, SchemaPosition.ofStep]
    cases node with
    | leaf a l => cases isArray <;> rfl
    | array a items => cases isArray <;> rfl
    | object a properties =>
      simp only [follow, at?_cons, child?]
      cases Keyed.get? name properties with
      | none => rfl
      | some child =>
        cases isArray with
        | false => exact ih child
        | true =>
          cases child with
          | leaf b l => rfl
          | object b properties => rfl
          | array b items => exact ih items

theorem find_eq_at? (path : Text) (tree : SchemaNode) :
    tree.find path = tree.at? (.ofPath path) := follow_eq_at? _ _

end SchemaNode

namespace Path

theorem isSinglyMarked_iff {path : Text} : IsSinglyMarked path ↔
    ∀ part ∈ Text.splitOn '.' path, isIdentifier (splitMarker part).1 = true := by
  refine forall₂_congr fun part _ => ?_
  constructor
  · rintro (h | ⟨name, h, rfl⟩)
    · rwa [splitMarker_of_isIdentifier h]
    · rwa [splitMarker_append_marker]
  · intro h
    have hpart := eq_of_splitMarker part
    cases hmark : (splitMarker part).2 with
    | false =>
      rw [hmark, if_neg Bool.false_ne_true, List.append_nil] at hpart
      exact .inl (hpart ▸ h)
    | true =>
      rw [hmark, if_pos rfl] at hpart
      exact .inr ⟨_, h, hpart⟩

instance (path : Text) : Decidable (IsSinglyMarked path) :=
  decidable_of_iff _ isSinglyMarked_iff.symm

theorem IsSinglyMarked.isResolved {path : Text} (h : IsSinglyMarked path) : IsResolved path := by
  intro part hpart
  rcases h part hpart with hi | ⟨name, hi, rfl⟩
  · exact .of_isIdentifier hi
  · exact (IsComponent.of_isIdentifier hi).append_marker

theorem IsResolved.steps_ne_nil {path : Text} (h : IsResolved path) :
    SchemaNode.steps path ≠ [] := by
  rw [SchemaNode.steps, components_of_isResolved h]
  simpa using Text.splitOn_ne_nil '.' path

theorem IsResolved.exists_ofPath {path : Text} (h : IsResolved path) :
    ∃ step rest, SchemaPosition.ofPath path = step :: rest := by
  obtain ⟨first, more, hs⟩ := List.exists_cons_of_ne_nil h.steps_ne_nil
  rw [SchemaPosition.ofPath, hs, SchemaPosition.ofSteps_cons, SchemaPosition.ofStep]
  exact ⟨_, _, rfl⟩

end Path

namespace Effect

/-- It does not matter which of two effects comes first. -/
def Commutes (e f : Effect) : Prop := ∀ cell, f.on (e.on cell) = e.on (f.on cell)

theorem Commutes.refl (e : Effect) : e.Commutes e := fun _ => rfl

theorem Commutes.symm {e f : Effect} (h : e.Commutes f) : f.Commutes e :=
  fun cell => (h cell).symm

theorem keep_commutes (e : Effect) : keep.Commutes e := fun _ => rfl

theorem offer_commutes_hold (kind : SchemaKind) : offer.Commutes (.hold kind) := fun _ => rfl

theorem offer_commutes_put (l : Leaf) : offer.Commutes (.put l) := by
  intro cell
  rcases cell with - | ⟨kind, - | old⟩ <;> rfl

theorem onAll_eq_of_perm {effects others : List Effect} (hp : effects.Perm others)
    (h : ∀ e ∈ effects, ∀ f ∈ effects, e.Commutes f) (cell : Option Form) :
    onAll effects cell = onAll others cell :=
  hp.foldl_eq' (fun e he f hf c => h e he f hf c) cell

end Effect

namespace Registration

/-- Whether two registrations place no leaf at one path. -/
def PlacesApart (r other : Registration) : Prop :=
  r.kind = .leaf → other.kind = .leaf → r.path ≠ other.path

instance (r other : Registration) : Decidable (r.PlacesApart other) :=
  inferInstanceAs (Decidable (r.kind = .leaf → other.kind = .leaf → r.path ≠ other.path))

instance : Std.Symm PlacesApart := ⟨fun _ _ h hs hr he => h hr hs he.symm⟩

/-- At the end of the way of one registration and below, its effects commute with those of
another whose way leads there or further. -/
theorem commutes_ending {r s : Registration} {position : SchemaPosition}
    (ha : ∀ d ∈ position.demands s.kind, d.1 = [] → d.2 = r.kind)
    (hl : r.kind = .leaf → s.kind = .leaf → position ≠ []) (other : SchemaPosition) :
    (r.ending other).Commutes (SchemaPosition.effectAlong s.ending position other) := by
  cases position with
  | nil =>
    have hkind : s.kind = r.kind := ha _ (SchemaPosition.mem_demands_self [] s.kind) rfl
    have hnot : r.kind ≠ .leaf := fun hr => hl hr (hkind.trans hr) rfl
    cases r with
    | leaf path l => exact absurd rfl hnot
    | array path =>
      cases s with
      | leaf path l => cases hkind
      | array path => rcases other with - | ⟨- | -, - | -⟩ <;> exact .refl _
  | cons step rest =>
    have hholder : step.holder = r.kind := ha ([], step.holder) List.mem_cons_self rfl
    cases r with
    | leaf path l => cases step <;> cases hholder
    | array path =>
      cases step with
      | property name => cases hholder
      | items =>
        rcases other with - | ⟨name | -, more⟩
        · exact .refl _
        · exact .refl _
        · rw [SchemaPosition.effectAlong, if_pos rfl]
          cases more with
          | cons next more => exact Effect.keep_commutes _
          | nil =>
            cases rest with
            | cons next rest => exact Effect.offer_commutes_hold _
            | nil =>
              cases s with
              | leaf path l => exact Effect.offer_commutes_put l
              | array path => exact Effect.offer_commutes_hold _

/-- The effects of two registrations commute at every position, if they agree in the kinds that
they need and do not end with a leaf at the same position. -/
theorem commutes_effectAlong {r s : Registration} {position place : SchemaPosition}
    (ha : ∀ d ∈ position.demands r.kind, ∀ e ∈ place.demands s.kind, d.1 = e.1 → d.2 = e.2)
    (hl : r.kind = .leaf → s.kind = .leaf → position ≠ place) (other : SchemaPosition) :
    (SchemaPosition.effectAlong r.ending position other).Commutes
      (SchemaPosition.effectAlong s.ending place other) := by
  induction position generalizing place other with
  | nil =>
    refine commutes_ending (fun e he hroot => ?_) (fun hr hs hp => hl hr hs hp.symm) other
    exact (ha _ (SchemaPosition.mem_demands_self [] r.kind) e he hroot.symm).symm
  | cons step rest ih =>
    cases place with
    | nil =>
      refine (commutes_ending (fun d hd hroot => ?_) (fun hs hr hp => hl hr hs hp) other).symm
      exact ha d hd _ (SchemaPosition.mem_demands_self [] s.kind) hroot
    | cons next more =>
      have hholder : step.holder = next.holder :=
        ha ([], step.holder) List.mem_cons_self ([], next.holder) List.mem_cons_self rfl
      cases other with
      | nil =>
        rw [SchemaPosition.effectAlong, SchemaPosition.effectAlong, hholder]
        exact .refl _
      | cons first beyond =>
        rw [SchemaPosition.effectAlong, SchemaPosition.effectAlong, hholder]
        by_cases hs : first = step
        · by_cases hn : first = next
          · rw [if_pos hs, if_pos hn]
            have hsame : step = next := hs.symm.trans hn
            subst hsame
            refine ih (fun d hd e he hde => ?_) (fun hr hs' hp => hl hr hs' (hp ▸ rfl)) beyond
            have hdeep : (step :: d.1, d.2) ∈ SchemaPosition.demands (step :: rest) r.kind :=
              List.mem_cons_of_mem _ (List.mem_map.2 ⟨d, hd, rfl⟩)
            have hfar : (step :: e.1, e.2) ∈ SchemaPosition.demands (step :: more) s.kind :=
              List.mem_cons_of_mem _ (List.mem_map.2 ⟨e, he, rfl⟩)
            exact ha (step :: d.1, d.2) hdeep (step :: e.1, e.2) hfar (congrArg (step :: ·) hde)
          · have hkeep : first.holder = next.holder := by rw [hs, hholder]
            rw [if_neg hn, if_pos hkeep]
            exact (Effect.keep_commutes _).symm
        · by_cases hn : first = next
          · have hkeep : first.holder = next.holder := by rw [hn]
            rw [if_neg hs, if_pos hkeep]
            exact Effect.keep_commutes _
          · rw [if_neg hs, if_neg hn]
            exact .refl _

/-- Registrations that agree and place their leaves apart have effects that commute. -/
theorem Agrees.commutes {r s : Registration} (ha : r.Agrees s) (hl : r.PlacesApart s)
    (hr : Path.IsResolved r.path) (hs : Path.IsResolved s.path) (other : SchemaPosition) :
    (r.effect other).Commutes (s.effect other) :=
  commutes_effectAlong ha
    (fun hrk hsk hp => hl hrk hsk (SchemaPosition.eq_of_ofPath_eq hr hs hp)) other

/-- A registration as a call on a schema tree. -/
def call : Registration → SchemaNode → Except Fault SchemaNode
  | .leaf path l, tree => tree.placeLeaf path l
  | .array path, tree => tree.ensureArray path

def callAll (calls : List Registration) : Except Fault SchemaNode :=
  calls.foldlM (fun tree r => r.call tree) .emptyObject

theorem call_eq_ok {r : Registration} (hr : Path.IsResolved r.path) (tree : SchemaNode) :
    r.call tree = .ok (r.addTo tree) := by
  have hupdate : ∀ f : Option SchemaNode → SchemaNode, tree.updateAt f r.path =
      .ok (SchemaNode.alter f r.position (some tree)) := by
    intro f
    obtain ⟨first, rest, hs⟩ := List.exists_cons_of_ne_nil hr.steps_ne_nil
    rw [SchemaNode.updateAt, hs, position, SchemaPosition.ofPath, hs]
    exact congrArg Except.ok (SchemaNode.update_eq_alter f _ (some tree))
  cases r with
  | leaf path l => exact hupdate _
  | array path => exact hupdate _

theorem callAll_eq_ok {calls : List Registration} (h : ∀ r ∈ calls, Path.IsResolved r.path) :
    callAll calls = .ok (calls.foldl (fun t r => r.addTo t) .emptyObject) := by
  have hfold : ∀ tree : SchemaNode, calls.foldlM (fun t (r : Registration) => r.call t) tree =
      .ok (calls.foldl (fun t r => r.addTo t) tree) := by
    induction calls with
    | nil => exact fun _ => rfl
    | cons r rest ih =>
      obtain ⟨hr, hrest⟩ := List.forall_mem_cons.1 h
      intro tree
      rw [List.foldlM_cons, call_eq_ok hr, List.foldl_cons]
      exact ih hrest _
  exact hfold .emptyObject

theorem at?_foldl_leaf {path : Text} {l : Leaf} {all : List Registration}
    (ha : ∀ r ∈ all, r.Agrees (.leaf path l)) (hp : ∀ r ∈ all, r.position ≠ .ofPath path)
    {tree node : SchemaNode} (hn : tree.at? (.ofPath path) = some node)
    (hk : node.kind = .leaf) :
    (all.foldl (fun t r => r.addTo t) tree).at? (.ofPath path) = some node := by
  induction all generalizing tree with
  | nil => exact hn
  | cons r rest ih =>
    obtain ⟨har, harest⟩ := List.forall_mem_cons.1 ha
    obtain ⟨hpr, hprest⟩ := List.forall_mem_cons.1 hp
    obtain ⟨after, hafter, -, hsame⟩ := har.exists_at?_addTo hn hk
    rcases hsame rfl with rfl | ⟨he, -⟩
    · exact ih harest hprest hafter
    · exact absurd he hpr

/-- What stands at every position after some registrations that agree and place their leaves
apart does not depend on their order. -/
theorem forms_eq_of_perm {calls reordered : List Registration} (hp : calls.Perm reordered)
    (hr : ∀ r ∈ calls, Path.IsResolved r.path)
    (ha : ∀ r ∈ calls, ∀ other ∈ calls, r.Agrees other) (hl : calls.Pairwise PlacesApart)
    (position : SchemaPosition) :
    ((calls.foldl (fun t r => r.addTo t) SchemaNode.emptyObject).at? position).map
        SchemaNode.form =
      ((reordered.foldl (fun t r => r.addTo t) SchemaNode.emptyObject).at? position).map
        SchemaNode.form := by
  rw [form_at?_foldl, form_at?_foldl]
  refine Effect.onAll_eq_of_perm (hp.map _) ?_ _
  intro e he f hf
  obtain ⟨r, hrm, rfl⟩ := List.mem_map.1 he
  obtain ⟨s, hsm, rfl⟩ := List.mem_map.1 hf
  by_cases hrs : r = s
  · rw [hrs]
    exact .refl _
  · have hapart : r.PlacesApart s := hl.forall hrm hsm hrs
    exact (ha r hrm s hsm).commutes hapart (hr r hrm) (hr s hsm) position

/-- A registration that comes first on an empty tree has its node at the end, if the others
agree with it and place their leaves apart from it. -/
theorem form_at?_of_first {r : Registration} {others : List Registration}
    (hr : Path.IsResolved r.path) (ho : ∀ s ∈ others, Path.IsResolved s.path)
    (ha : ∀ s ∈ others, s.Agrees r) (hl : ∀ s ∈ others, r.PlacesApart s) :
    ((others.foldl (fun t s => s.addTo t) (r.addTo .emptyObject)).at? r.position).map
      SchemaNode.form = some (r.kind, r.leaf?) := by
  obtain ⟨step, rest, hposition⟩ := hr.exists_ofPath
  have hposition : r.position = step :: rest := hposition
  have hfirst : ((r.addTo .emptyObject).at? r.position).map SchemaNode.form =
      some (r.kind, r.leaf?) := by
    rw [form_at?_addTo, effect_position, hposition, SchemaNode.at?_emptyObject]
    cases r <;> rfl
  obtain ⟨node, hnode, hform⟩ := Option.map_eq_some_iff.1 hfirst
  have hkind : node.kind = r.kind := congrArg Prod.fst hform
  cases r with
  | leaf path l =>
    have hapart : ∀ s ∈ others, s.position ≠ .ofPath path := by
      intro s hs hsame
      have hsk : s.kind = .leaf :=
        ha s hs _ (demands_self s) _ (demands_self (.leaf path l)) hsame
      exact hl s hs rfl hsk (SchemaPosition.eq_of_ofPath_eq (ho s hs) hr hsame).symm
    have hkept := at?_foldl_leaf ha hapart hnode hkind
    rw [position, Registration.path, hkept, Option.map_some, hform]
  | array path =>
    obtain ⟨after, hafter, hk⟩ := exists_at?_foldl ha hnode hkind
    rw [hafter]
    cases after with
    | leaf a l => cases hk
    | object a properties => cases hk
    | array a items => rfl

theorem form_at?_of_mem {calls : List Registration} {r : Registration} (hm : r ∈ calls)
    (hr : ∀ r ∈ calls, Path.IsResolved r.path)
    (ha : ∀ r ∈ calls, ∀ other ∈ calls, r.Agrees other) (hl : calls.Pairwise PlacesApart) :
    ((calls.foldl (fun t r => r.addTo t) SchemaNode.emptyObject).at? r.position).map
      SchemaNode.form = some (r.kind, r.leaf?) := by
  have hperm : calls.Perm (r :: calls.erase r) := List.perm_cons_erase hm
  have hothers : ∀ s ∈ calls.erase r, s ∈ calls := fun s hs => List.mem_of_mem_erase hs
  have hpair : (r :: calls.erase r).Pairwise PlacesApart :=
    (hperm.pairwise_iff fun h => Std.Symm.symm _ _ h).1 hl
  rw [forms_eq_of_perm hperm hr ha hl, List.foldl_cons]
  exact form_at?_of_first (hr r hm) (fun s hs => hr s (hothers s hs))
    (fun s hs => ha s (hothers s hs) r hm) (List.pairwise_cons.1 hpair).1

theorem regular_calls {P : Leaf → Prop} {all : List Registration}
    (h : ∀ r ∈ all, ∀ l ∈ r.leaf?, P l ∧ ∀ old, P old → P (old.merge l)) :
    (all.foldl (fun t r => r.addTo t) SchemaNode.emptyObject).Regular (· = .empty) P :=
  regular_foldl (Q := (· = .empty)) rfl h (SchemaNode.regular_emptyObject rfl)

theorem regular_calls_true (all : List Registration) :
    (all.foldl (fun t r => r.addTo t) SchemaNode.emptyObject).Regular (· = .empty)
      fun _ => True :=
  regular_calls fun _ _ _ _ => ⟨trivial, fun _ _ => trivial⟩

/-- Where the keywords of all leaves have canonical forms, so has the schema. -/
theorem exists_ofValue_calls {calls : List Registration}
    (hk : ∀ path l, .leaf path l ∈ calls → l.IsOrdered) :
    ∃ v, Canonical.ofValue
      (calls.foldl (fun t r => r.addTo t) SchemaNode.emptyObject).toSchema = .ok v := by
  have hordered : (calls.foldl (fun t r => r.addTo t) SchemaNode.emptyObject).Regular
      (· = .empty) Leaf.IsOrdered := by
    refine regular_calls fun r hr l hm => ?_
    cases r with
    | array path => cases hm
    | leaf path new =>
      obtain rfl := Option.some.inj hm
      exact ⟨hk path new hr, fun old ho => ho.merge (hk path new hr)⟩
  rw [SchemaNode.toSchema_eq, Canonical.ofValue, Canonical.isOrdered,
    hordered.areFieldsOrdered_fields]
  exact ⟨_, rfl⟩

theorem exists_find_of_perm {calls reordered : List Registration} (hperm : calls.Perm reordered)
    (hr : ∀ r ∈ calls, Path.IsResolved r.path)
    (ha : ∀ r ∈ calls, ∀ other ∈ calls, r.Agrees other) (hl : calls.Pairwise PlacesApart)
    {r : Registration} (hm : r ∈ calls) :
    ∃ node,
      (reordered.foldl (fun t r => r.addTo t) SchemaNode.emptyObject).find r.path = some node ∧
        node.annotation = .empty ∧ node.form = (r.kind, r.leaf?) := by
  have hform := forms_eq_of_perm hperm hr ha hl r.position
  rw [form_at?_of_mem hm hr ha hl] at hform
  obtain ⟨node, hnode, hform⟩ := Option.map_eq_some_iff.1 hform.symm
  refine ⟨node, ?_, ?_, hform⟩
  · rw [SchemaNode.find_eq_at?]
    exact hnode
  · cases (regular_calls_true reordered).at? hnode <;> assumption

end Registration

/-- Calls on an empty schema tree that need no two kinds of nodes at one position, and place no
two leaves at one path, give the same canonical schema in every order. It exists where the
keywords of the leaves have canonical forms. In every order the tree has in the end the leaf that
was placed at a path, and an array at every path that was ensured. -/
theorem schema_is_the_same_in_every_order_of_calls {calls : List Registration}
    (hp : ∀ r ∈ calls, Path.IsSinglyMarked r.path)
    (ha : ∀ r ∈ calls, ∀ other ∈ calls, r.Agrees other)
    (hl : calls.Pairwise Registration.PlacesApart) :
    ∃ schema : Except Fault Value,
      ((∀ path l, .leaf path l ∈ calls → l.IsOrdered) → ∃ v, schema = .ok v) ∧
      ∀ reordered, calls.Perm reordered → ∃ tree,
        Registration.callAll reordered = .ok tree ∧
        Canonical.ofValue tree.toSchema = schema ∧
        (∀ path l, .leaf path l ∈ calls → tree.find path = some (.leaf .empty l)) ∧
        (∀ path, .array path ∈ calls → ∃ items, tree.find path = some (.array .empty items)) := by
  have hresolved : ∀ r ∈ calls, Path.IsResolved r.path := fun r hr => (hp r hr).isResolved
  refine ⟨Canonical.ofValue
    (calls.foldl (fun t r => r.addTo t) SchemaNode.emptyObject).toSchema,
    Registration.exists_ofValue_calls, ?_⟩
  intro reordered hperm
  have hsays := SchemaNode.saysSame_of_forms (Registration.regular_calls_true reordered)
    (Registration.regular_calls_true calls)
    fun position => (Registration.forms_eq_of_perm hperm hresolved ha hl position).symm
  have hschema := (Registration.regular_calls_true reordered).ofValue_toSchema_eq
    (Registration.regular_calls_true calls) hsays
  refine ⟨_, Registration.callAll_eq_ok fun r hr => hresolved r (hperm.mem_iff.2 hr), hschema,
    ?_, ?_⟩
  · intro path l hm
    obtain ⟨node, hnode, hempty, hform⟩ :=
      Registration.exists_find_of_perm hperm hresolved ha hl hm
    cases node with
    | leaf a m =>
      cases hempty
      cases hform
      exact hnode
    | array a items => cases hform
    | object a properties => cases hform
  · intro path hm
    obtain ⟨node, hnode, hempty, hform⟩ :=
      Registration.exists_find_of_perm hperm hresolved ha hl hm
    cases node with
    | array a items =>
      cases hempty
      exact ⟨items, hnode⟩
    | leaf a m => cases hform
    | object a properties => cases hform

def tagsAndRows : List Registration :=
  [.array "tags", .leaf "tags[]" ⟨.string, false, [], false⟩,
    .leaf "rows[].price" ⟨.number, true, [("minimum", .ofInt 0)], false⟩, .array "rows",
    .array "rows[].notes", .leaf "page.title" ⟨.string, false, [], false⟩]

/-- Whether the tags or the rows come first, the schema is the same, and the items of the tags
are the leaf that was placed there. -/
theorem schema_of_tags_and_rows_is_the_same_reversed :
    (∀ r ∈ tagsAndRows, Path.IsSinglyMarked r.path) ∧
    (∀ r ∈ tagsAndRows, ∀ other ∈ tagsAndRows, r.Agrees other) ∧
    tagsAndRows.Pairwise Registration.PlacesApart ∧
    ∃ schema tree reversed,
      Registration.callAll tagsAndRows = .ok tree ∧
      Registration.callAll tagsAndRows.reverse = .ok reversed ∧
      Canonical.ofValue tree.toSchema = .ok schema ∧
      Canonical.ofValue reversed.toSchema = .ok schema ∧
      reversed.find "tags[]" = some (.leaf .empty ⟨.string, false, [], false⟩) := by
  have hp : ∀ r ∈ tagsAndRows, Path.IsSinglyMarked r.path := by decide
  have ha : ∀ r ∈ tagsAndRows, ∀ other ∈ tagsAndRows, r.Agrees other := by decide
  have hl : tagsAndRows.Pairwise Registration.PlacesApart := by decide
  have hk : ∀ r ∈ tagsAndRows, ∀ l ∈ r.leaf?, l.IsOrdered := by decide
  obtain ⟨schema, hschema, hall⟩ := schema_is_the_same_in_every_order_of_calls hp ha hl
  obtain ⟨v, rfl⟩ := hschema fun path l hm => hk (.leaf path l) hm l rfl
  obtain ⟨tree, htree, hv, -, -⟩ := hall tagsAndRows (.refl _)
  obtain ⟨reversed, hreversed, hw, hleaf, -⟩ := hall _ tagsAndRows.reverse_perm.symm
  exact ⟨hp, ha, hl, v, tree, reversed, htree, hreversed, hv, hw, hleaf _ _ (by decide)⟩

end TypedTemplate
