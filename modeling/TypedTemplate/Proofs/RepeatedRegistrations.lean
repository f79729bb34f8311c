import TypedTemplate.Proofs.RegistrationEffects

/-!
# Repeated registrations

Registrations that are made once more in the same order change nothing. What stands at a position
after the first time is what the last clearing of it left, with the leaves that were merged since.
The second time clears it again in the same way, and merges the same leaves into what they made.
-/
namespace TypedTemplate

namespace Leaf

def mergeAll (old : Leaf) (all : List Leaf) : Leaf := all.foldl merge old

/-- What a leaf takes from leaves that are conditions, or are none, as it is itself. -/
def takeAll (old : Leaf) (all : List Leaf) : Leaf where
  type := (all.getLast?.map Leaf.type).getD old.type
  nullable := old.nullable && all.all Leaf.nullable
  keywords := Keyed.setAll old.keywords (all.flatMap Leaf.keywords)
  conditional := old.conditional

theorem takeAll_cons (old first : Leaf) (rest : List Leaf) :
    old.takeAll (first :: rest) = (old.takeAll [first]).takeAll rest := by
  have htype : ((first :: rest).getLast?.map Leaf.type).getD old.type =
      (rest.getLast?.map Leaf.type).getD first.type := by
    rw [List.getLast?_cons, Option.map_some, Option.getD_some]
    cases rest.getLast? <;> rfl
  have hkeywords : Keyed.setAll old.keywords ((first :: rest).flatMap Leaf.keywords) =
      Keyed.setAll (Keyed.setAll old.keywords first.keywords) (rest.flatMap Leaf.keywords) := by
    rw [List.flatMap_cons, Keyed.setAll, List.foldl_append]
    rfl
  simp only [takeAll, htype, hkeywords, List.all_cons, Bool.and_assoc]
  simp

theorem takeAll_takeAll {old : Leaf} (h : (Keyed.keys old.keywords).Nodup) (all : List Leaf) :
    (old.takeAll all).takeAll all = old.takeAll all := by
  have htype : (all.getLast?.map Leaf.type).getD ((all.getLast?.map Leaf.type).getD old.type) =
      (all.getLast?.map Leaf.type).getD old.type := by
    cases all.getLast? <;> rfl
  simp only [takeAll, htype, Keyed.setAll_setAll h, Bool.and_assoc, Bool.and_self]

theorem merge_eq_takeAll {old new : Leaf} (h : new.conditional = old.conditional) :
    old.merge new = old.takeAll [new] := by
  unfold merge takeAll
  rw [h]
  cases old.conditional <;> simp

theorem merge_of_ignored {old new : Leaf} (ho : old.conditional = false)
    (hn : new.conditional = true) : old.merge new = old := by
  rw [merge, ho, hn]
  rfl

theorem merge_self {l : Leaf} (h : (Keyed.keys l.keywords).Nodup) : l.merge l = l := by
  rw [merge_eq_takeAll rfl]
  simp [takeAll, Keyed.setAll_self h]

theorem mergeAll_eq_takeAll {old : Leaf} {all : List Leaf}
    (h : old.conditional = true → ∀ l ∈ all, l.conditional = true) :
    old.mergeAll all = old.takeAll (all.filter fun l => l.conditional == old.conditional) := by
  induction all generalizing old with
  | nil => simp [mergeAll, takeAll, Keyed.setAll]
  | cons l rest ih =>
    have hrest : old.conditional = true → ∀ l ∈ rest, l.conditional = true :=
      fun ho => (List.forall_mem_cons.1 (h ho)).2
    by_cases hl : l.conditional = old.conditional
    · have hsame : (old.takeAll [l]).conditional = old.conditional := rfl
      rw [mergeAll, List.foldl_cons, merge_eq_takeAll hl, ← mergeAll,
        ih (hsame.symm ▸ hrest), hsame, ← takeAll_cons, List.filter_cons,
        if_pos (by simpa using hl)]
    · have hold : old.conditional = false := by
        rw [← Bool.not_eq_true]
        exact fun ho => hl ((h ho l List.mem_cons_self).trans ho.symm)
      have hnew : l.conditional = true := by
        rw [← Bool.not_eq_false]
        exact fun hn => hl (hn.trans hold.symm)
      rw [mergeAll, List.foldl_cons, merge_of_ignored hold hnew, ← mergeAll, ih hrest,
        List.filter_cons, if_neg (by simpa using hl)]

/-- A condition gives way to the first interpolation, and from there on takes what they state. -/
theorem exists_takeAll_of_conditional {old : Leaf} (hk : (Keyed.keys old.keywords).Nodup)
    (ho : old.conditional = true) {all : List Leaf} (h : ∃ l ∈ all, l.conditional = false) :
    ∃ start : Leaf, start.conditional = false ∧ (Keyed.keys start.keywords).Nodup ∧
      old.mergeAll all = start.takeAll (all.filter fun l => l.conditional == false) := by
  induction all generalizing old with
  | nil =>
    obtain ⟨l, hl, -⟩ := h
    cases hl
  | cons first rest ih =>
    cases hf : first.conditional with
    | true =>
      have hrest : ∃ l ∈ rest, l.conditional = false := by
        obtain ⟨l, hl, hc⟩ := h
        rcases List.mem_cons.1 hl with rfl | hl
        · rw [hf] at hc
          cases hc
        · exact ⟨l, hl, hc⟩
      have hmerge : old.merge first = old.takeAll [first] := merge_eq_takeAll (hf.trans ho.symm)
      have hkeys : (Keyed.keys (old.takeAll [first]).keywords).Nodup :=
        Keyed.nodup_keys_setAll hk _
      obtain ⟨start, hstart, hnodup, heq⟩ := ih hkeys ho hrest
      refine ⟨start, hstart, hnodup, ?_⟩
      rw [mergeAll, List.foldl_cons, hmerge, ← mergeAll, heq, List.filter_cons]
      simp [hf]
    | false =>
      let start : Leaf := ⟨first.type, true, old.keywords, false⟩
      have hmerge : old.merge first = start.takeAll [first] := by
        simp [merge, takeAll, start, hf, ho]
      have hconditional : (start.takeAll [first]).conditional = false := rfl
      refine ⟨start, rfl, hk, ?_⟩
      rw [mergeAll, List.foldl_cons, hmerge, ← mergeAll, mergeAll_eq_takeAll, hconditional,
        ← takeAll_cons, List.filter_cons, if_pos (by simp [hf])]
      intro hc
      cases hc

theorem mergeAll_mergeAll {old : Leaf} (hk : (Keyed.keys old.keywords).Nodup) (all : List Leaf) :
    (old.mergeAll all).mergeAll all = old.mergeAll all := by
  by_cases h : old.conditional = true → ∀ l ∈ all, l.conditional = true
  · have hsame : (old.takeAll (all.filter fun l => l.conditional == old.conditional)).conditional =
        old.conditional := rfl
    rw [mergeAll_eq_takeAll h, mergeAll_eq_takeAll (hsame.symm ▸ h), hsame, takeAll_takeAll hk]
  · simp only [Classical.not_forall, Bool.not_eq_true] at h
    obtain ⟨ho, l, hl, hc⟩ := h
    obtain ⟨start, hstart, hnodup, heq⟩ := exists_takeAll_of_conditional hk ho ⟨l, hl, hc⟩
    have hsame : (start.takeAll (all.filter fun l => l.conditional == false)).conditional =
        false := hstart
    rw [heq, mergeAll_eq_takeAll fun ht => absurd (hsame.symm.trans ht) Bool.false_ne_true, hsame,
      takeAll_takeAll hnodup]

end Leaf

namespace Effect

def leaf? : Effect → Option Leaf
  | .put l => some l
  | _ => none

/-- Whether an effect leaves something of what was there. -/
def isSoft : Effect → Bool
  | .clear | .hold _ => false
  | _ => true

theorem on_eq_of_not_soft {e : Effect} (h : e.isSoft = false) (cell other : Option Form) :
    e.on cell = e.on other := by
  cases e <;> first | rfl | cases h

theorem onAll_eq_of_not_soft {effects : List Effect} {e : Effect} (he : e ∈ effects)
    (h : e.isSoft = false) (cell other : Option Form) :
    onAll effects cell = onAll effects other := by
  obtain ⟨before, after, rfl⟩ := List.append_of_mem he
  rw [onAll_append, onAll_append, onAll_cons, onAll_cons, on_eq_of_not_soft h]

theorem onAll_leaf {effects : List Effect} (hs : ∀ e ∈ effects, e.isSoft = true) (old : Leaf) :
    onAll effects (some (.leaf, some old)) =
      some (.leaf, some (old.mergeAll (effects.filterMap leaf?))) := by
  induction effects generalizing old with
  | nil => rfl
  | cons e rest ih =>
    obtain ⟨he, hrest⟩ := List.forall_mem_cons.1 hs
    rw [onAll_cons]
    cases e with
    | keep => exact ih hrest old
    | clear => cases he
    | hold kind => cases he
    | offer => exact ih hrest old
    | put l => exact ih hrest (old.merge l)

theorem exists_leaf_of_put {effects : List Effect} (hs : ∀ e ∈ effects, e.isSoft = true)
    (hl : ∀ l ∈ effects.filterMap leaf?, (Keyed.keys l.keywords).Nodup)
    (hput : effects.filterMap leaf? ≠ []) {cell : Option Form}
    (hcell : ∀ l ∈ cell.bind Prod.snd, (Keyed.keys l.keywords).Nodup) :
    ∃ start : Leaf, (Keyed.keys start.keywords).Nodup ∧
      onAll effects cell = some (.leaf, some (start.mergeAll (effects.filterMap leaf?))) := by
  induction effects generalizing cell with
  | nil => exact absurd rfl hput
  | cons e rest ih =>
    obtain ⟨he, hrest⟩ := List.forall_mem_cons.1 hs
    rw [onAll_cons]
    cases e with
    | clear => cases he
    | hold kind => cases he
    | keep => exact ih hrest hl hput hcell
    | offer =>
      refine ih hrest hl hput ?_
      cases cell with
      | none => nofun
      | some f => exact hcell
    | put l =>
      obtain ⟨hnew, -⟩ := List.forall_mem_cons.1 hl
      have hfresh : (Effect.put l).on cell = some (.leaf, some l) → ∃ start : Leaf,
          (Keyed.keys start.keywords).Nodup ∧ onAll rest ((Effect.put l).on cell) =
            some (.leaf, some (start.mergeAll (l :: rest.filterMap leaf?))) := by
        intro hon
        refine ⟨l, hnew, ?_⟩
        rw [hon, onAll_leaf hrest, Leaf.mergeAll, Leaf.mergeAll, List.foldl_cons,
          Leaf.merge_self hnew]
      rcases cell with - | ⟨kind, - | old⟩
      · exact hfresh rfl
      · exact hfresh rfl
      · exact ⟨old, hcell old rfl, onAll_leaf hrest (old.merge l)⟩

theorem onAll_some_of_no_put {effects : List Effect} (hs : ∀ e ∈ effects, e.isSoft = true)
    (hput : effects.filterMap leaf? = []) (f : Form) : onAll effects (some f) = some f := by
  induction effects with
  | nil => rfl
  | cons e rest ih =>
    obtain ⟨he, hrest⟩ := List.forall_mem_cons.1 hs
    rw [onAll_cons]
    cases e with
    | keep => exact ih hrest hput
    | offer => exact ih hrest hput
    | clear => cases he
    | hold kind => cases he
    | put l => cases hput

theorem onAll_onAll {effects : List Effect}
    (hl : ∀ l ∈ effects.filterMap leaf?, (Keyed.keys l.keywords).Nodup) {cell : Option Form}
    (hcell : ∀ l ∈ cell.bind Prod.snd, (Keyed.keys l.keywords).Nodup) :
    onAll effects (onAll effects cell) = onAll effects cell := by
  by_cases hs : ∀ e ∈ effects, e.isSoft = true
  · by_cases hput : effects.filterMap leaf? = []
    · cases hon : onAll effects cell with
      | some f => exact onAll_some_of_no_put hs hput f
      | none =>
        cases cell with
        | none => exact hon
        | some f =>
          rw [onAll_some_of_no_put hs hput] at hon
          cases hon
    · obtain ⟨start, hstart, hon⟩ := exists_leaf_of_put hs hl hput hcell
      rw [hon, onAll_leaf hs, Leaf.mergeAll_mergeAll hstart]
  · simp only [Classical.not_forall, Bool.not_eq_true] at hs
    obtain ⟨e, he, hnot⟩ := hs
    exact onAll_eq_of_not_soft he hnot _ _

end Effect

namespace Registration

theorem leaf?_of_leaf?_effect {r : Registration} {other : SchemaPosition} {l : Leaf}
    (h : (r.effect other).leaf? = some l) : r.leaf? = some l := by
  have hending : ∀ other, (r.ending other).leaf? = some l → r.leaf? = some l := by
    intro other ho
    cases r with
    | leaf path new => cases other <;> first | exact ho | cases ho
    | array path => rcases other with _ | ⟨_ | _, _ | _⟩ <;> cases ho
  have halong : ∀ position other,
      (SchemaPosition.effectAlong r.ending position other).leaf? = some l → r.leaf? = some l := by
    intro position
    induction position with
    | nil => exact hending
    | cons step rest ih =>
      intro other ho
      cases other with
      | nil => cases ho
      | cons first more =>
        rw [SchemaPosition.effectAlong] at ho
        split at ho
        · exact ih more ho
        · split at ho <;> cases ho
  exact halong _ _ h

/-- Registrations that are made again in the same order change nothing. -/
theorem forms_foldl_twice {all : List Registration} (ha : ∀ r ∈ all, r.IsProper)
    {tree : SchemaNode} (ht : tree.Proper) (position : SchemaPosition) :
    ((all.foldl (fun t r => r.addTo t) (all.foldl (fun t r => r.addTo t) tree)).at? position).map
        SchemaNode.form =
      ((all.foldl (fun t r => r.addTo t) tree).at? position).map SchemaNode.form := by
  rw [form_at?_foldl, form_at?_foldl]
  apply Effect.onAll_onAll
  · intro l hm
    obtain ⟨e, he, hl⟩ := List.mem_filterMap.1 hm
    obtain ⟨r, hr, rfl⟩ := List.mem_map.1 he
    exact ((ha r hr).leaf l (leaf?_of_leaf?_effect hl)).1.nodup
  · intro l hm
    obtain ⟨f, hf, hl⟩ := Option.bind_eq_some_iff.1 hm
    obtain ⟨node, hn, rfl⟩ := Option.map_eq_some_iff.1 hf
    have hnode : node.Regular (fun _ => True) Leaf.IsProper := ht.regular.at? hn
    cases hnode with
    | leaf _ hproper => exact Option.some.inj hl ▸ hproper.nodup
    | array _ _ => cases hl
    | object _ _ _ => cases hl

end Registration
end TypedTemplate
