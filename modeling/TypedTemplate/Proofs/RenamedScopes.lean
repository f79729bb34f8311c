import TypedTemplate.Proofs.NestedScopes
import TypedTemplate.Proofs.Registrations
import TypedTemplate.Proofs.Renaming

/-!
# Scopes along a renaming

While a template and the one with a changed alias are walked side by side, their scopes agree
along the renaming: what a name stands for in one, its new name stands for in the other. Only the
names that still occur count. An iteration below either leaves the changed name alone, and both
scopes grow by the same; or it binds the name again, and from there on nothing is renamed.
-/
namespace TypedTemplate

namespace Keyed

variable {α : Type}

/-- What each of some names stands for in the first list, it stands for in the second under its
new name. If a name is changed indeed, it is bound, and the new name is none of those that
occur. -/
structure Renames (a b : Text) (names : List Text) (first second : Keyed α) : Prop where
  same : ∀ name ∈ names, get? name first = get? (Path.newName a b name) second
  bound : a ≠ b → get? a first ≠ none
  fresh : a ≠ b → b ∉ names

namespace Renames

variable {a b : Text} {names : List Text} {first second : Keyed α}

theorem refl (a : Text) (names : List Text) (l : Keyed α) : Renames a a names l l where
  same name _ := by rw [Path.newName_self]
  bound h := absurd rfl h
  fresh h := absurd rfl h

theorem mono (h : Renames a b names first second) {fewer : List Text} (hf : fewer ⊆ names) :
    Renames a b fewer first second where
  same name hn := h.same name (hf hn)
  bound := h.bound
  fresh hne hb := h.fresh hne (hf hb)

theorem extend (h : Renames a b names first second) {more : Keyed α} (hm : (keys more).Nodup)
    (ha : get? a more = none) (hb : a ≠ b → get? b more = none) :
    Renames a b names (setAll first more) (setAll second more) where
  same name hn := by
    rw [get?_setAll hm, get?_setAll hm, h.same name hn]
    by_cases he : name = a
    · have hnew : get? b more = none := by
        by_cases hab : a = b
        · rwa [← hab]
        · exact hb hab
      rw [he, ha, Path.newName_left, hnew]
    · rw [Path.newName_of_ne he]
  bound hne := by
    rw [get?_setAll hm, ha, Option.none_or]
    exact h.bound hne
  fresh := h.fresh

/-- The first list binds the changed name again, and the second binds some name to the same. Then
the changed name becomes that name. -/
theorem rebind (h : Renames a b names first second) {c : Text} {more others : Keyed α}
    (hm : (keys more).Nodup) (ho : (keys others).Nodup) {value : α}
    (ha : get? a more = some value) (hv : get? c others = some value)
    (hs : ∀ name, name ≠ a → name ≠ c → get? name more = get? name others)
    (hc : a ≠ c → c ∉ names) : Renames a c names (setAll first more) (setAll second others) where
  same name hn := by
    rw [get?_setAll hm, get?_setAll ho]
    by_cases he : name = a
    · rw [he, Path.newName_left, ha, hv, Option.some_or, Option.some_or]
    · have hne : name ≠ c := by
        intro hnc
        have hac : a ≠ c := fun hac => he (hnc.trans hac.symm)
        exact hc hac (hnc ▸ hn)
      rw [h.same name hn, hs name he hne, Path.newName_of_ne he, Path.newName_of_ne he]
  bound _ := by
    rw [get?_setAll hm, ha, Option.some_or]
    exact Option.some_ne_none value
  fresh := hc

end Renames
end Keyed

namespace StaticScope

variable {a b : Text} {names : List Text} {first second : StaticScope}

theorem resolve_rename (h : Keyed.Renames a b names first second) (hb : '.' ∉ b) {path : Text}
    (hp : Path.root path ∈ names) :
    first.resolve path = second.resolve (Path.rename a b path) := by
  have hsame : Keyed.get? (Path.split path).1 first =
      Keyed.get? (Path.newName a b (Path.root path)) second := h.same _ hp
  unfold resolve
  rw [Path.split_rename hb]
  dsimp only
  cases hg : Keyed.get? (Path.newName a b (Path.root path)) second with
  | some target => rw [hsame, hg]
  | none =>
    rw [hsame, hg]
    have hpath : Path.rename a b path = path := by
      by_cases hab : a = b
      · rw [← hab, Path.rename_self]
      · apply Path.rename_of_ne
        intro he
        apply h.bound hab
        rw [← he]
        exact hsame.trans hg
    exact hpath.symm

theorem isImplicit_rename (h : Keyed.Renames a b names first second) (ha : a ∉ Path.implicitNames)
    (hb : Path.IsAliasName b) {path : Text} (hp : Path.root path ∈ names) :
    first.isImplicit path = second.isImplicit (Path.rename a b path) := by
  have himplicit : Path.isImplicit path = Path.isImplicit (Path.rename a b path) := by
    unfold Path.isImplicit
    rw [Path.root_rename hb.not_mem]
    unfold Path.newName
    split
    · rename_i he
      rw [he]
      simp [ha, hb.notImplicit]
    · rfl
  rw [isImplicit, isImplicit, himplicit, Keyed.has, Keyed.has, Path.root_rename hb.not_mem,
    ← h.same _ hp]

theorem renames_set_bound (h : Keyed.Renames a b names first second) {c : Text}
    (hc : a ≠ c → c ∉ names) (target : Text) :
    Keyed.Renames a c names (Keyed.set a target first) (Keyed.set c target second) := by
  have hnodup : ∀ name : Text, (Keyed.keys [(name, target)]).Nodup := by simp [Keyed.keys]
  have hself : ∀ name : Text, Keyed.get? name [(name, target)] = some target := by
    simp [Keyed.get?]
  refine h.rebind (hnodup a) (hnodup c) (hself a) (hself c) ?_ hc
  intro name ha hname
  simp [Keyed.get?, Ne.symm ha, Ne.symm hname]

theorem renames_set_free (h : Keyed.Renames a b names first second) {name : Text} (ha : name ≠ a)
    (hb : a ≠ b → name ≠ b) (target : Text) :
    Keyed.Renames a b names (Keyed.set name target first) (Keyed.set name target second) := by
  have hnodup : (Keyed.keys [(name, target)]).Nodup := by simp [Keyed.keys]
  refine h.extend hnodup ?_ ?_
  · simp [Keyed.get?, ha]
  · intro hne
    simp [Keyed.get?, hb hne]

/-- The scopes inside an element and inside the renamed element agree along the renaming that
holds inside. -/
theorem renames_inside (h : Keyed.Renames a b names first second) (hb : '.' ∉ b) {head : Head}
    (hn : head.names ⊆ names) :
    Keyed.Renames a (head.innerName a b) names (first.inside head)
      (second.inside (head.rename a b)) := by
  unfold inside
  rw [Head.iteration_rename]
  cases hi : head.iteration with
  | none =>
    rw [Head.innerName_of_none hi]
    exact h
  | some i =>
    have hsource := resolve_rename h hb (hn (Head.source_mem_names hi))
    rw [Head.innerName_of_some hi]
    simp only [Option.map_some, hsource]
    split
    · rename_i he
      rw [he]
      exact renames_set_bound h (fun hne => absurd rfl hne) _
    · rename_i he
      refine renames_set_free h he ?_ _
      intro hne hname
      exact h.fresh hne (hname ▸ hn (Head.itemName_mem_names hi))

/-- The scopes inside an element and inside the one with another alias. -/
theorem renames_inside_alias (scope : StaticScope) {head : Head} {i : Iteration}
    (hi : head.iteration = some i) {c : Text} (hc : c ∉ names) :
    Keyed.Renames i.itemName c names (scope.inside head)
      (scope.inside (head.renameAlias c)) := by
  unfold inside
  rw [Head.iteration_renameAlias c hi, hi]
  exact renames_set_bound (.refl i.itemName names scope) (fun _ => hc) _

end StaticScope

namespace DynamicScope

/-- Two scopes over the same data that agree along a renaming. -/
structure Renames (a b : Text) (names : List Text) (first second : DynamicScope) : Prop where
  data : first.data = second.data
  bindings : Keyed.Renames a b names first.bindings second.bindings

def row (scope : DynamicScope) (i : Iteration) (item : Value) (index count : Int) : DynamicScope :=
  { scope with
    bindings := Keyed.setAll scope.bindings
      (rowBindings i.itemName item index count (i.kind == .page)) }

namespace Renames

variable {a b : Text} {names : List Text} {first second : DynamicScope}

theorem mono (h : Renames a b names first second) {fewer : List Text} (hf : fewer ⊆ names) :
    Renames a b fewer first second :=
  ⟨h.data, h.bindings.mono hf⟩

theorem resolve (h : Renames a b names first second) (hb : Path.isIdentifier b = true)
    {path : Text} (hc : Path.isChain path = true) (hp : Path.root path ∈ names) :
    first.resolve path = second.resolve (Path.rename a b path) := by
  have hdot : '.' ∉ b := Path.not_mem_of_isIdentifier hb (by decide)
  have hsame := h.bindings.same _ hp
  rw [first.resolve_of_isChain hc, second.resolve_of_isChain (Path.isChain_rename hb a hc),
    Path.root_rename hdot, hsame, Path.components_rename hb a hc, h.data]
  cases hg : Keyed.get? (Path.newName a b (Path.root path)) second.bindings with
  | some value => rfl
  | none =>
    have hroot : Path.newName a b (Path.root path) = Path.root path := by
      by_cases hab : a = b
      · rw [← hab, Path.newName_self]
      · apply Path.newName_of_ne
        intro he
        apply h.bindings.bound hab
        rw [← he, hsame]
        exact hg
    dsimp only
    rw [hroot, ← Path.components_of_isChain hc]

theorem row_bound (h : Renames a b names first second) {i j : Iteration} (hk : i.kind = j.kind)
    (hi : i.itemName = a) {c : Text} (hj : j.itemName = c) (ha : a ∉ Path.implicitNames)
    (hc : c ∉ Path.implicitNames) (hn : a ≠ c → c ∉ names) (item : Value) (index count : Int) :
    Renames a c names (first.row i item index count) (second.row j item index count) := by
  refine ⟨h.data, ?_⟩
  unfold DynamicScope.row
  rw [← hk, hi, hj]
  have hself : ∀ name ∉ Path.implicitNames, Keyed.get? name
      (rowBindings name item index count (i.kind == .page)) = some item := by
    intro name hname
    rw [get?_rowBindings hname, if_pos rfl]
  refine h.bindings.rebind (rowBindings_nodup ..) (rowBindings_nodup ..) (hself a ha) (hself c hc)
    ?_ hn
  intro name hna hnc
  exact get?_rowBindings_of_ne hna hnc item item index count _

theorem row_free (h : Renames a b names first second) {i j : Iteration} (hk : i.kind = j.kind)
    (hij : i.itemName = j.itemName) (ha : a ∉ Path.implicitNames) (hb : b ∉ Path.implicitNames)
    (hna : i.itemName ≠ a) (hnb : a ≠ b → i.itemName ≠ b) (item : Value) (index count : Int) :
    Renames a b names (first.row i item index count) (second.row j item index count) := by
  refine ⟨h.data, ?_⟩
  unfold DynamicScope.row
  rw [← hk, ← hij]
  refine h.bindings.extend (rowBindings_nodup ..) ?_ ?_
  · rw [get?_rowBindings ha, if_neg (Ne.symm hna)]
  · intro hne
    rw [get?_rowBindings hb, if_neg (Ne.symm (hnb hne))]

/-- The scopes of a row of an element and of a row of the renamed element agree along the renaming
that holds inside. -/
theorem row_inside (h : Renames a b names first second) (ha : a ∉ Path.implicitNames)
    (hb : b ∉ Path.implicitNames) {head : Head} (hn : head.names ⊆ names) {i j : Iteration}
    (hi : head.iteration = some i) (hj : (head.rename a b).iteration = some j) (item : Value)
    (index count : Int) :
    Renames a (head.innerName a b) names (first.row i item index count)
      (second.row j item index count) := by
  rw [Head.iteration_rename, hi] at hj
  rw [Head.innerName_of_some hi, ← Option.some.inj hj]
  split
  · rename_i he
    exact h.row_bound rfl he he ha ha (fun hne => absurd rfl hne) item index count
  · rename_i he
    refine h.row_free rfl rfl ha hb he ?_ item index count
    intro hne hname
    exact h.bindings.fresh hne (hname ▸ hn (Head.itemName_mem_names hi))

/-- The scopes of a row of an element and of a row of the one with another alias. -/
theorem row_inside_alias (scope : DynamicScope) {head : Head} {i j : Iteration}
    (hi : head.iteration = some i) {c : Text} (hj : (head.renameAlias c).iteration = some j)
    (ha : i.itemName ∉ Path.implicitNames) (hc : c ∉ Path.implicitNames) (hn : c ∉ names)
    (item : Value) (index count : Int) :
    Renames i.itemName c names (scope.row i item index count) (scope.row j item index count) := by
  have hself : Renames i.itemName i.itemName names scope scope :=
    ⟨rfl, .refl i.itemName names scope.bindings⟩
  rw [Head.iteration_renameAlias c hi] at hj
  have hkind : i.kind = j.kind := Option.some.inj hj ▸ rfl
  have hname : j.itemName = c := Option.some.inj hj ▸ rfl
  exact hself.row_bound hkind rfl hname ha hc (fun _ => hn) item index count

end Renames
end DynamicScope
end TypedTemplate
