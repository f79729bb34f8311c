import TypedTemplate.Proofs.Lookup
import TypedTemplate.Proofs.PathText
import TypedTemplate.Render

/-!
# Nested scopes

The schema and the document of a template are made under scopes of their own: one replaces an
alias by a path of the schema, the other by a value of the data. Entering an iteration extends
both. Along the rows chosen on the way in, the two keep saying the same: a path leads to the
value that lies at the place its resolved form names, where each array marker stands for the
row chosen at the iteration that brought it in.
-/
namespace TypedTemplate

namespace Value

/-- The item of a list with a number; null where there is none. -/
def item (v : Value) (index : Nat) : Value :=
  match v with
  | .list items => items[index]?.getD .null
  | _ => .null

/-- The value at the name of a component, and from there the items that its markers choose. -/
def atComponent (v : Value) (part : Text) (chosen : List Nat) : Value :=
  chosen.foldl item ((v.field? (Path.nameOf part)).getD .null)

/-- The value that the components of a resolved path lead to. Each marker takes the next of the
chosen numbers. -/
def walk : Value → List Text → List Nat → Value
  | v, [], _ => v
  | v, part :: rest, chosen =>
    walk (v.atComponent part (chosen.take (Path.depthOf part))) rest
      (chosen.drop (Path.depthOf part))

def depthSum : List Text → Nat
  | [] => 0
  | part :: rest => Path.depthOf part + depthSum rest

theorem depthSum_append (parts more : List Text) :
    depthSum (parts ++ more) = depthSum parts + depthSum more := by
  induction parts with
  | nil => exact (Nat.zero_add _).symm
  | cons part parts ih =>
    rw [List.cons_append, depthSum, depthSum, ih]
    omega

theorem depthSum_singleton (part : Text) : depthSum [part] = Path.depthOf part := rfl

theorem depthOf_of_isIdentifier {part : Text} (h : Path.isIdentifier part = true) :
    Path.depthOf part = 0 := by
  simpa [Path.markers] using Path.depthOf_component h 0

theorem depthSum_of_isIdentifier {parts : List Text}
    (h : ∀ part ∈ parts, Path.isIdentifier part = true) : depthSum parts = 0 := by
  induction parts with
  | nil => rfl
  | cons part parts ih =>
    rw [← List.singleton_append, depthSum_append, ih fun p hp => h p (by simp [hp])]
    exact depthOf_of_isIdentifier (h part (by simp))

theorem walk_append (v : Value) (parts more : List Text) (chosen others : List Nat)
    (h : chosen.length = depthSum parts) :
    v.walk (parts ++ more) (chosen ++ others) = (v.walk parts chosen).walk more others := by
  induction parts generalizing v chosen with
  | nil =>
    have hc : chosen = [] := List.length_eq_zero_iff.1 h
    rw [hc]
    rfl
  | cons part parts ih =>
    have hd : Path.depthOf part ≤ chosen.length := by
      rw [h, depthSum]
      omega
    rw [List.cons_append, walk, walk, List.take_append_of_le_length hd,
      List.drop_append_of_le_length hd]
    apply ih
    rw [List.length_drop, h, depthSum]
    omega

theorem walk_of_isIdentifier (v : Value) (parts : List Text) (chosen : List Nat)
    (h : ∀ part ∈ parts, Path.isIdentifier part = true) :
    v.walk parts chosen = DynamicScope.follow v parts := by
  induction parts generalizing v chosen with
  | nil => rfl
  | cons part parts ih =>
    have hpart := h part (by simp)
    have hname : Path.nameOf part = part := by
      simpa [Path.markers] using Path.nameOf_component hpart 0
    rw [walk, ih _ _ fun part hp => h part (by simp [hp])]
    simp only [depthOf_of_isIdentifier hpart, List.take_zero, atComponent, List.foldl_nil, hname]
    rfl

theorem walk_append_marker (v : Value) (parts : List Text) {last : Text}
    (hl : Path.IsComponent last) (chosen : List Nat) (index : Nat)
    (h : chosen.length = depthSum (parts ++ [last])) :
    v.walk (parts ++ [last ++ Path.arrayMarker]) (chosen ++ [index]) =
      (v.walk (parts ++ [last]) chosen).item index := by
  rw [depthSum_append, depthSum_singleton] at h
  obtain ⟨first, second, rfl, hfirst⟩ : ∃ first second,
      chosen = first ++ second ∧ first.length = depthSum parts := by
    refine ⟨chosen.take (depthSum parts), chosen.drop (depthSum parts), ?_, ?_⟩
    · rw [List.take_append_drop]
    · rw [List.length_take, h]
      omega
  have hsecond : second.length = Path.depthOf last := by
    rw [List.length_append, hfirst] at h
    omega
  rw [List.append_assoc, walk_append v parts _ first _ hfirst,
    walk_append v parts _ first _ hfirst]
  have hall : Path.depthOf (last ++ Path.arrayMarker) = (second ++ [index]).length := by
    rw [Path.depthOf_append_marker, List.length_append, hsecond]
    rfl
  simp only [walk, hall, List.take_length, ← hsecond, atComponent, Path.nameOf_append_marker hl,
    List.foldl_append, List.foldl_cons, List.foldl_nil]

end Value

/-- The scope of the schema inside an iteration. -/
def StaticScope.enter (scope : StaticScope) (iteration : Iteration) : Except Fault StaticScope :=
  scope.bind iteration.itemName (scope.resolve iteration.source)

/-- The scope of the document inside one row of an iteration over some items. -/
def DynamicScope.enter (scope : DynamicScope) (iteration : Iteration) (items : List Value)
    (index : Nat) : Except Fault DynamicScope :=
  let all := Render.rows iteration items
  scope.bind iteration.itemName (all[index]?.getD .null) index all.length
    (iteration.kind == .page)

/-- The rows that were chosen on the way to what an alias stands for, outermost first. -/
abbrev Choices := Keyed (List Nat)

/-- The rows that a path takes over from its alias. -/
def Choices.of (choices : Choices) (path : Text) : List Nat :=
  (Keyed.get? (Path.root path) choices).getD []

/-- The scopes inside nested iterations over some data, in each of which a row was entered that
shows an item, and the rows chosen. The source of every iteration is looked up where it
stands. -/
inductive Nested (data : Value) : StaticScope → DynamicScope → Choices → Prop
  | top : Nested data .empty (.ofData data) []
  | inside {outer inner : StaticScope} {around within : DynamicScope} {choices : Choices}
      {iteration : Iteration} {items : List Value} {index : Nat} :
      Nested data outer around choices → Path.isChain iteration.source = true →
      iteration.itemName ∉ Path.implicitNames →
      around.resolve iteration.source = .list items →
      index < Render.takenRows iteration items →
      outer.enter iteration = .ok inner → around.enter iteration items index = .ok within →
      Nested data inner within
        (Keyed.set iteration.itemName (choices.of iteration.source ++ [index]) choices)

/-- The scopes inside a scope whose iterations leave a name alone. -/
inductive Keeps (name : Text) (outer : DynamicScope) : DynamicScope → Prop
  | here : Keeps name outer outer
  | inside {around within : DynamicScope} {iteration : Iteration} {items : List Value}
      {index : Nat} :
      Keeps name outer around → iteration.itemName ≠ name →
      around.enter iteration items index = .ok within → Keeps name outer within

theorem StaticScope.enter_eq_ok {scope inner : StaticScope} {iteration : Iteration}
    (h : scope.enter iteration = .ok inner) :
    inner = Keyed.set iteration.itemName (scope.resolve iteration.source ++ Path.arrayMarker)
      scope := by
  unfold enter bind at h
  split at h
  · cases h
  · exact (Except.ok.inj h).symm

namespace DynamicScope

theorem rowBindings_nodup (name : Text) (item : Value) (index count : Int) (isPage : Bool) :
    (Keyed.keys (rowBindings name item index count isPage)).Nodup := by
  unfold rowBindings
  have h : (Keyed.keys [(name, item)]).Nodup := by simp [Keyed.keys]
  split
  · exact Keyed.nodup_keys_set (Keyed.nodup_keys_set h _ _) _ _
  · exact Keyed.nodup_keys_set h _ _

theorem bind_eq_ok {scope inner : DynamicScope} {itemName : Text} {item : Value}
    {index count : Int} {isPage : Bool}
    (h : scope.bind itemName item index count isPage = .ok inner) :
    inner.data = scope.data ∧ ∀ name, Keyed.get? name inner.bindings =
      (Keyed.get? name (rowBindings itemName item index count isPage)).or
      (Keyed.get? name scope.bindings) := by
  unfold bind at h
  split at h
  · cases h
  · rw [← Except.ok.inj h]
    exact ⟨rfl, fun name => Keyed.get?_setAll (rowBindings_nodup ..) _ name⟩

theorem enter_eq_ok {scope inner : DynamicScope} {iteration : Iteration} {items : List Value}
    {index : Nat} (h : scope.enter iteration items index = .ok inner) :
    inner.data = scope.data ∧ ∀ name, Keyed.get? name inner.bindings =
      (Keyed.get? name (rowBindings iteration.itemName
        ((Render.rows iteration items)[index]?.getD .null) index
        (Render.rows iteration items).length (iteration.kind == .page))).or
      (Keyed.get? name scope.bindings) :=
  bind_eq_ok h

theorem get?_rowBindings {name itemName : Text} (hn : name ∉ Path.implicitNames) (item : Value)
    (index count : Int) (isPage : Bool) :
    Keyed.get? name (rowBindings itemName item index count isPage) =
      if name = itemName then some item else none := by
  rw [Path.implicitNames, List.mem_cons, List.mem_singleton, not_or] at hn
  have hrow : Keyed.get? name (Keyed.set "$index" (.ofInt index) [(itemName, item)]) =
      if name = itemName then some item else none := by
    rw [Keyed.get?_set_ne _ _ hn.1]
    by_cases h : name = itemName
    · simp [Keyed.get?, h]
    · simp [Keyed.get?, h, Ne.symm h]
  unfold rowBindings
  split
  · rw [Keyed.get?_set_ne _ _ hn.2, hrow]
  · exact hrow

theorem get?_rowBindings_of_ne {name itemName other : Text} (h : name ≠ itemName)
    (ho : name ≠ other) (v w : Value) (index count : Int) (isPage : Bool) :
    Keyed.get? name (rowBindings itemName v index count isPage) =
      Keyed.get? name (rowBindings other w index count isPage) := by
  have halias : ∀ {bound : Text} (u : Value), name ≠ bound →
      Keyed.get? name [(bound, u)] = none := by
    intro bound u hne
    simp [Keyed.get?, Ne.symm hne]
  unfold rowBindings
  cases isPage <;>
    simp only [Keyed.get?_set, halias v h, halias w ho, Bool.false_eq_true, if_false, if_true]

theorem get?_enter {scope inner : DynamicScope} {iteration : Iteration} {items : List Value}
    {index : Nat} (h : scope.enter iteration items index = .ok inner) {name : Text}
    (hn : name ∉ Path.implicitNames) :
    Keyed.get? name inner.bindings =
      if name = iteration.itemName then some ((Render.rows iteration items)[index]?.getD .null)
      else Keyed.get? name scope.bindings := by
  rw [(enter_eq_ok h).2 name, get?_rowBindings hn]
  split <;> rfl

end DynamicScope

namespace Render

theorem takenRows_le (iteration : Iteration) (items : List Value) :
    takenRows iteration items ≤ items.length := by
  unfold takenRows
  split <;> omega

theorem rows_getElem?_of_lt {iteration : Iteration} {items : List Value} {index : Nat}
    (h : index < takenRows iteration items) :
    (rows iteration items)[index]?.getD .null = (Value.list items).item index := by
  have hlen : index < (items.take (takenRows iteration items)).length := by
    have := takenRows_le iteration items
    rw [List.length_take]
    omega
  rw [rows, List.getElem?_append_left hlen, List.getElem?_take_of_lt h]
  rfl

theorem rows_getElem?_of_le {iteration : Iteration} {items : List Value} {index : Nat}
    (h : takenRows iteration items ≤ index) (hlen : index < (rows iteration items).length) :
    (rows iteration items)[index]?.getD .null = .object [] := by
  have hle : (items.take (takenRows iteration items)).length ≤ index := by
    rw [List.length_take]
    omega
  have hpad : (rows iteration items)[index] ∈ List.replicate
      (iteration.fixedRows.getD 0 - (items.take (takenRows iteration items)).length)
      (Value.object []) := by
    simp only [rows, List.getElem_append_right hle, List.getElem_mem]
  rw [List.getElem?_eq_getElem hlen, List.eq_of_mem_replicate hpad]
  rfl

end Render

namespace DynamicScope

/-- No path from a value leads to a list. -/
def HoldsNoList (v : Value) : Prop := ∀ keys items, follow v keys ≠ .list items

theorem follow_cons (v : Value) (key : Text) (keys : List Text) :
    follow v (key :: keys) = follow ((v.field? key).getD .null) keys := rfl

theorem follow_null (keys : List Text) : follow .null keys = .null := by
  induction keys with
  | nil => rfl
  | cons key keys ih => rw [follow_cons]; exact ih

theorem holdsNoList_null : HoldsNoList .null := by
  intro keys items h
  rw [follow_null] at h
  cases h

theorem holdsNoList_ofInt (n : Int) : HoldsNoList (.ofInt n) := by
  intro keys items h
  cases keys with
  | nil => cases h
  | cons key keys => exact holdsNoList_null keys items h

theorem holdsNoList_object {fields : Keyed Value} (h : ∀ f ∈ fields, HoldsNoList f.2) :
    HoldsNoList (.object fields) := by
  intro keys items hk
  cases keys with
  | nil => cases hk
  | cons key keys =>
    rw [follow_cons] at hk
    cases hf : Keyed.get? key fields with
    | none =>
      rw [Value.field?, hf] at hk
      exact holdsNoList_null keys items hk
    | some v =>
      rw [Value.field?, hf] at hk
      exact h _ (Keyed.mem_of_get? hf) keys items hk

theorem holdsNoList_rowBindings {name itemName : Text} (hn : name ∈ Path.implicitNames)
    (ha : itemName ∉ Path.implicitNames) {item : Value} {index count : Int} {isPage : Bool}
    {v : Value} (h : Keyed.get? name (rowBindings itemName item index count isPage) = some v) :
    HoldsNoList v := by
  have hindex : ∀ w,
      Keyed.get? name (Keyed.set "$index" (.ofInt index) [(itemName, item)]) = some w →
      HoldsNoList w := by
    intro w hw
    rw [Keyed.get?_set] at hw
    split at hw
    · rw [← Option.some.inj hw]
      exact holdsNoList_ofInt index
    · have hne : itemName ≠ name := fun e => ha (e ▸ hn)
      simp [Keyed.get?, hne] at hw
  unfold rowBindings at h
  split at h
  · rw [Keyed.get?_set] at h
    split at h
    · rw [← Option.some.inj h]
      apply holdsNoList_object
      intro f hf
      simp only [List.mem_cons, List.not_mem_nil, or_false] at hf
      rcases hf with rfl | rfl | rfl <;> exact holdsNoList_ofInt _
    · exact hindex v h
  · exact hindex v h

theorem resolve_of_isChain (scope : DynamicScope) {path : Text} (hp : Path.isChain path = true) :
    scope.resolve path =
      match Keyed.get? (Path.root path) scope.bindings with
      | some v => follow v (Path.components path).tail
      | none => follow scope.data (Path.components path) := by
  rw [resolve, Path.components_of_isChain hp]
  rfl

end DynamicScope

/-- What an alias stands for on either side: a value, and the place of the value in the data by
a resolved path and one chosen row for each marker in it. -/
inductive SameTarget (data : Value) : Option Text → Option Value → Option (List Nat) → Prop
  | unbound : SameTarget data none none none
  | bound {target : Text} {chosen : List Nat} :
      Path.IsResolved target → chosen.length = Value.depthSum (Path.components target) →
      SameTarget data (some target) (some (data.walk (Path.components target) chosen))
        (some chosen)

/-- Both scopes bind the same aliases to the same places of the data. The names of rows and
pages are bound in the document only, and to no lists. -/
structure Agree (data : Value) (outer : StaticScope) (around : DynamicScope)
    (choices : Choices) : Prop where
  data_eq : around.data = data
  aliases : ∀ name ∉ Path.implicitNames, SameTarget data (Keyed.get? name outer)
    (Keyed.get? name around.bindings) (Keyed.get? name choices)
  hidden : ∀ name ∈ Path.implicitNames,
    Keyed.get? name outer = none ∧ Keyed.get? name choices = none
  noLists : ∀ name ∈ Path.implicitNames, ∀ v, Keyed.get? name around.bindings = some v →
    DynamicScope.HoldsNoList v

namespace Agree

variable {data : Value} {outer inner : StaticScope} {around within : DynamicScope}
  {choices : Choices}

theorem top (data : Value) : Agree data .empty (.ofData data) [] where
  data_eq := rfl
  aliases _ _ := .unbound
  hidden _ _ := ⟨rfl, rfl⟩
  noLists _ _ _ h := by cases h

theorem isResolved (h : Agree data outer around choices) : outer.IsResolved := by
  intro name target hg
  by_cases hn : name ∈ Path.implicitNames
  · rw [(h.hidden name hn).1] at hg
    cases hg
  · have hs := h.aliases name hn
    rw [hg] at hs
    generalize Keyed.get? name around.bindings = v at hs
    generalize Keyed.get? name choices = c at hs
    cases hs with
    | bound hr _ => exact hr

theorem resolve_of_unbound (h : Agree data outer around choices) {path : Text}
    (hp : Path.isChain path = true) (ho : Keyed.get? (Path.root path) outer = none)
    (ha : Keyed.get? (Path.root path) around.bindings = none)
    (hc : Keyed.get? (Path.root path) choices = none) :
    (choices.of path).length = Value.depthSum (Path.components (outer.resolve path)) ∧
      around.resolve path =
        data.walk (Path.components (outer.resolve path)) (choices.of path) := by
  have hid : ∀ part ∈ Path.components path, Path.isIdentifier part = true :=
    fun _ => Path.isIdentifier_of_mem_components hp
  rw [StaticScope.components_resolve h.isResolved hp, around.resolve_of_isChain hp, ho, ha,
    Choices.of, hc, h.data_eq]
  exact ⟨(Value.depthSum_of_isIdentifier hid).symm, (Value.walk_of_isIdentifier data _ _ hid).symm⟩

/-- The two scopes look up a path alike, and its markers take as many rows as were chosen on
the way to its alias. A path of a row's number or page need not agree, but it leads to no
list where it does not. -/
theorem resolve (h : Agree data outer around choices) {path : Text}
    (hp : Path.isChain path = true)
    (hi : Path.root path ∉ Path.implicitNames ∨ ∃ items, around.resolve path = .list items) :
    (choices.of path).length = Value.depthSum (Path.components (outer.resolve path)) ∧
      around.resolve path =
        data.walk (Path.components (outer.resolve path)) (choices.of path) := by
  by_cases hn : Path.root path ∈ Path.implicitNames
  -- A name of rows and pages holds no list, so where a list is found the name is not bound.
  · obtain ⟨items, hl⟩ := hi.resolve_left (not_not_intro hn)
    obtain ⟨ho, hc⟩ := h.hidden _ hn
    refine h.resolve_of_unbound hp ho ?_ hc
    cases ha : Keyed.get? (Path.root path) around.bindings with
    | none => rfl
    | some v =>
      rw [around.resolve_of_isChain hp, ha] at hl
      exact absurd hl (h.noLists _ hn v ha _ _)
  · have hs := h.aliases _ hn
    cases ho : Keyed.get? (Path.root path) outer with
    | none =>
      rw [ho] at hs
      generalize ha : Keyed.get? (Path.root path) around.bindings = v at hs
      generalize hc : Keyed.get? (Path.root path) choices = c at hs
      cases hs with
      | unbound => exact h.resolve_of_unbound hp ho ha hc
    | some target =>
      rw [ho] at hs
      generalize ha : Keyed.get? (Path.root path) around.bindings = v at hs
      generalize hc : Keyed.get? (Path.root path) choices = c at hs
      cases hs with
      | @bound _ chosen hr hlen =>
        have hid : ∀ part ∈ (Path.components path).tail, Path.isIdentifier part = true :=
          fun _ hm => Path.isIdentifier_of_mem_components hp (List.mem_of_mem_tail hm)
        have hwalk : data.walk (Path.components target ++ (Path.components path).tail) chosen =
            DynamicScope.follow (data.walk (Path.components target) chosen)
              (Path.components path).tail := by
          have happ := Value.walk_append data _ (Path.components path).tail chosen [] hlen
          rw [List.append_nil] at happ
          rw [happ, Value.walk_of_isIdentifier _ _ _ hid]
        simp only [StaticScope.components_resolve h.isResolved hp, around.resolve_of_isChain hp,
          ho, ha, Choices.of, hc, Option.getD_some]
        refine ⟨?_, hwalk.symm⟩
        rw [Value.depthSum_append, Value.depthSum_of_isIdentifier hid, hlen, Nat.add_zero]

/-- Entering a row that shows an item keeps the agreement: the alias gains one marker on the
one side, and the item of the row on the other. -/
theorem enter (h : Agree data outer around choices) {iteration : Iteration} {items : List Value}
    {index : Nat} (hp : Path.isChain iteration.source = true)
    (ha : iteration.itemName ∉ Path.implicitNames)
    (hl : around.resolve iteration.source = .list items)
    (hi : index < Render.takenRows iteration items)
    (ho : outer.enter iteration = .ok inner)
    (hw : around.enter iteration items index = .ok within) :
    Agree data inner within
      (Keyed.set iteration.itemName (choices.of iteration.source ++ [index]) choices) := by
  obtain ⟨hlen, hsame⟩ := h.resolve hp (.inr ⟨items, hl⟩)
  have hresolved := StaticScope.isResolved_resolve h.isResolved hp
  have hinner := StaticScope.enter_eq_ok ho
  refine ⟨(DynamicScope.enter_eq_ok hw).1.trans h.data_eq, ?_, ?_, ?_⟩
  · intro name hn
    rw [hinner, Keyed.get?_set, Keyed.get?_set, DynamicScope.get?_enter hw hn]
    by_cases hname : name = iteration.itemName
    · simp only [hname, if_true]
      obtain ⟨parts, last, hq, hlast, hm⟩ := Path.components_append_marker hresolved
      rw [hq] at hlen hsame
      have hitem : (Render.rows iteration items)[index]?.getD .null =
          data.walk (Path.components (outer.resolve iteration.source ++ Path.arrayMarker))
            (choices.of iteration.source ++ [index]) := by
        rw [Render.rows_getElem?_of_lt hi, ← hl, hsame, hm,
          Value.walk_append_marker data parts hlast _ index hlen]
      rw [hitem]
      refine .bound hresolved.append_marker ?_
      rw [hm, List.length_append, hlen, Value.depthSum_append, Value.depthSum_append,
        Value.depthSum_singleton, Value.depthSum_singleton, Path.depthOf_append_marker]
      rfl
    · simp only [hname, if_false]
      exact h.aliases name hn
  · intro name hn
    have hne : name ≠ iteration.itemName := fun e => ha (e ▸ hn)
    rw [hinner, Keyed.get?_set_ne _ _ hne, Keyed.get?_set_ne _ _ hne]
    exact h.hidden name hn
  · intro name hn v hv
    rw [(DynamicScope.enter_eq_ok hw).2 name] at hv
    rcases Option.or_eq_some_iff.1 hv with hv | ⟨-, hv⟩
    · exact DynamicScope.holdsNoList_rowBindings hn ha hv
    · exact h.noLists name hn v hv

end Agree

theorem Nested.agree {data : Value} {inner : StaticScope} {within : DynamicScope}
    {choices : Choices} (h : Nested data inner within choices) :
    Agree data inner within choices := by
  induction h with
  | top => exact .top data
  | inside _ hp ha hl hi ho hw ih => exact ih.enter hp ha hl hi ho hw

theorem Keeps.get? {name : Text} {outer within : DynamicScope} (h : Keeps name outer within)
    (hn : name ∉ Path.implicitNames) :
    Keyed.get? name within.bindings = Keyed.get? name outer.bindings := by
  induction h with
  | here => rfl
  | inside _ hne hw ih => rw [DynamicScope.get?_enter hw hn, if_neg (Ne.symm hne), ih]

/-- Nothing lies under the alias of a row that shows no item. -/
theorem resolve_under_padding {around row within : DynamicScope} {iteration : Iteration}
    {items : List Value} {index : Nat} (ha : iteration.itemName ∉ Path.implicitNames)
    (hle : Render.takenRows iteration items ≤ index)
    (hlt : index < (Render.rows iteration items).length)
    (hrow : around.enter iteration items index = .ok row)
    (hin : Keeps iteration.itemName row within) {path key : Text} {keys : List Text}
    (hpath : Path.components path = iteration.itemName :: key :: keys) :
    within.resolve path = .null := by
  have hget : Keyed.get? iteration.itemName within.bindings = some (.object []) := by
    rw [hin.get? ha, DynamicScope.get?_enter hrow ha, if_pos rfl,
      Render.rows_getElem?_of_le hle hlt]
  simp only [DynamicScope.resolve, hpath, hget, DynamicScope.follow_cons]
  exact DynamicScope.follow_null keys

/-- The schema and the document mean the same by a path. In scopes inside nested iterations, a
path not of a row's number or page is looked up in the document with the value that its
resolved form leads to in the data, its markers standing for the rows chosen where they came
in. In a row that shows no item, no key of the alias leads anywhere, however deep inside. -/
theorem static_and_dynamic_resolution_agree {data : Value} {inner : StaticScope}
    {within : DynamicScope} {choices : Choices} {path : Text}
    (h : Nested data inner within choices) (hp : Path.isChain path = true)
    (hi : Path.isImplicit path = false) :
    within.resolve path = data.walk (Path.components (inner.resolve path)) (choices.of path) ∧
    (choices.of path).length = Value.depthSum (Path.components (inner.resolve path)) ∧
    ∀ (around row deep : DynamicScope) (iteration : Iteration) (items : List Value) (index : Nat),
      Path.root path = iteration.itemName → 2 ≤ (Path.components path).length →
      around.resolve iteration.source = .list items →
      Render.takenRows iteration items ≤ index → index < (Render.rows iteration items).length →
      around.enter iteration items index = .ok row → Keeps iteration.itemName row deep →
      deep.resolve path = .null := by
  have hroot : Path.root path ∉ Path.implicitNames := by
    simpa [Path.isImplicit] using hi
  obtain ⟨hlen, hsame⟩ := h.agree.resolve hp (.inl hroot)
  refine ⟨hsame, hlen, ?_⟩
  intro around row deep iteration items index hname htwo _ hle hlt hrow hin
  have hc := Path.components_of_isChain hp
  obtain ⟨key, keys, ht⟩ : ∃ key keys, (Path.components path).tail = key :: keys := by
    apply List.exists_cons_of_ne_nil
    intro e
    rw [hc, e] at htwo
    simp at htwo
  rw [hname, ht] at hc
  exact resolve_under_padding (hname ▸ hroot) hle hlt hrow hin hc

def twoRows : Value :=
  .object [("rows", .list [.list [.text "a"], .list [.text "b", .text "c"]])]

/-- Inside a list of lists, the alias of a cell has two markers, one for each row chosen. -/
theorem static_and_dynamic_resolution_agree_in_lists_of_lists :
    ∃ inner within choices, Nested twoRows inner within choices ∧
      inner.resolve "cell" = ("rows[][]" : Text) ∧ choices.of "cell" = [1, 0] ∧
      within.resolve "cell" = twoRows.walk [("rows[][]" : Text)] [1, 0] ∧
      within.resolve "cell" = .text "b" := by
  have rows : Nested twoRows [("row", "rows[]")] _ _ :=
    @Nested.inside _ _ _ _ _ _ ⟨.page, "rows", "row", none, none⟩
      [.list [.text "a"], .list [.text "b", .text "c"]] 1
      .top (by decide) (by decide) rfl (by decide) rfl rfl
  have cells : Nested twoRows [("row", "rows[]"), ("cell", "rows[][]")] _ _ :=
    @Nested.inside _ _ _ _ _ _ ⟨.row, "row", "cell", none, none⟩ [.text "b", .text "c"] 0
      rows (by decide) (by decide) rfl (by decide) rfl rfl
  have hp : Path.isChain "cell" = true := by decide
  exact ⟨_, _, _, cells, rfl, rfl,
    (static_and_dynamic_resolution_agree cells hp (by decide)).1, rfl⟩

end TypedTemplate
