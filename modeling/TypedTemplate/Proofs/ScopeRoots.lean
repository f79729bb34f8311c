import TypedTemplate.Proofs.NestedScopes

/-!
# The first name of a path

The first name of a path is an alias, the name of a row's number or of its page, or a key of the
data. The schema decides which by the aliases that are bound and by the name alone; the document
by what the rows around have bound. Here rows are entered one after another with aliases of any
name, those of numbers and pages included, and what either scope then holds at a name is found
from the innermost row outwards. A row binds its number and its page after its alias. So the two
scopes agree on an alias as long as no row from its own inwards binds the same name once more.
-/
namespace TypedTemplate

/-- A row of an iteration as both scopes are told of it: the alias, the resolved path of the
list, the item, the number of the row and of how many, and whether it is a page. -/
structure EnteredRow where
  itemName : Text
  source : Text
  item : Value
  index : Int
  count : Int
  isPage : Bool

namespace EnteredRow

def implicit? (row : EnteredRow) (name : Text) : Option Value :=
  if name = "$index" then some (.ofInt row.index)
  else if name = "$page" ∧ row.isPage = true then
    some (.object [("index", .ofInt row.index), ("number", .ofInt (row.index + 1)),
      ("count", .ofInt row.count)])
  else none

def binding? (row : EnteredRow) (name : Text) : Option Value :=
  (row.implicit? name).or (if name = row.itemName then some row.item else none)

theorem implicit?_eq_none {name : Text} (h : name ∉ Path.implicitNames) (row : EnteredRow) :
    row.implicit? name = none := by
  rw [Path.implicitNames, List.mem_cons, List.mem_singleton, not_or] at h
  rw [implicit?, if_neg h.1, if_neg fun e => h.2 e.1]

theorem binding?_of_ne {name : Text} {row : EnteredRow} (h : row.itemName ≠ name) :
    row.binding? name = row.implicit? name := by
  rw [binding?, if_neg (Ne.symm h), Option.or_none]

theorem binding?_of_implicit?_eq_none {name : Text} {row : EnteredRow}
    (h : row.implicit? name = none) :
    row.binding? name = if name = row.itemName then some row.item else none := by
  rw [binding?, h, Option.none_or]

theorem get?_rowBindings_eq (row : EnteredRow) (name : Text) :
    Keyed.get? name (DynamicScope.rowBindings row.itemName row.item row.index row.count
      row.isPage) = row.binding? name := by
  have halias : Keyed.get? name [(row.itemName, row.item)] =
      if name = row.itemName then some row.item else none := by
    simp only [Keyed.get?, eq_comm]
  have hnumber : Keyed.get? name (Keyed.set "$index" (.ofInt row.index)
      [(row.itemName, row.item)]) = if name = "$index" then some (.ofInt row.index)
        else if name = row.itemName then some row.item else none := by
    rw [Keyed.get?_set, halias]
  unfold DynamicScope.rowBindings binding? implicit?
  cases hpage : row.isPage with
  | false =>
    rw [if_neg Bool.false_ne_true, hnumber]
    by_cases hi : name = "$index"
    · rw [if_pos hi, if_pos hi, Option.some_or]
    · simp only [if_neg hi, Bool.false_eq_true, and_false, if_false, Option.none_or]
  | true =>
    rw [if_pos rfl, Keyed.get?_set, hnumber]
    by_cases hi : name = "$index"
    · have hp : name ≠ "$page" := hi ▸ by decide
      rw [if_neg hp, if_pos hi, if_pos hi, Option.some_or]
    · by_cases hp : name = "$page"
      · rw [if_pos hp, if_neg hi, if_pos ⟨hp, rfl⟩, Option.some_or]
      · rw [if_neg hp, if_neg hi, if_neg hi, if_neg (fun e => hp e.1 : ¬(_ ∧ _)), Option.none_or]

end EnteredRow

def StaticScope.inRows : List EnteredRow → StaticScope → Except Fault StaticScope
  | [], scope => .ok scope
  | row :: rest, scope => do inRows rest (← scope.bind row.itemName row.source)

def DynamicScope.inRows : List EnteredRow → DynamicScope → Except Fault DynamicScope
  | [], scope => .ok scope
  | row :: rest, scope => do
    inRows rest (← scope.bind row.itemName row.item row.index row.count row.isPage)

theorem StaticScope.ne_self_of_bind {scope inner : StaticScope} {itemName source : Text}
    (h : scope.bind itemName source = .ok inner) : itemName ≠ "self" := by
  unfold StaticScope.bind at h
  split at h
  · cases h
  · assumption

theorem StaticScope.get?_bind {scope inner : StaticScope} {itemName source : Text}
    (h : scope.bind itemName source = .ok inner) (name : Text) :
    Keyed.get? name inner =
      if name = itemName then some (source ++ Path.arrayMarker) else Keyed.get? name scope := by
  rw [StaticScope.bind, if_neg (ne_self_of_bind h)] at h
  rw [← Except.ok.inj h, Keyed.get?_set]

section

variable {rows : List EnteredRow}

/-- In the schema the innermost row of an alias counts. -/
theorem StaticScope.get?_inRows {outer inner : StaticScope}
    (h : StaticScope.inRows rows outer = .ok inner) (name : Text) :
    Keyed.get? name inner =
      ((rows.reverse.find? fun row => row.itemName = name).map (·.source ++ Path.arrayMarker)).or
        (Keyed.get? name outer) := by
  induction rows generalizing outer with
  | nil =>
    rw [← Except.ok.inj h]
    rfl
  | cons row rest ih =>
    obtain ⟨scope, hbind, hrest⟩ := Fault.bind_eq_ok_iff.1 h
    rw [ih hrest, StaticScope.get?_bind hbind, List.reverse_cons, List.find?_append]
    cases rest.reverse.find? fun row => row.itemName = name with
    | some found => rfl
    | none =>
      rw [Option.none_or, Option.map_none, Option.none_or, List.find?_singleton]
      by_cases hn : row.itemName = name
      · rw [if_pos hn.symm, if_pos (decide_eq_true hn)]
        rfl
      · rw [if_neg (Ne.symm hn), if_neg (by simpa using hn)]
        rfl

/-- In the document the innermost row counts that binds a name in any way. Rows can be entered
wherever their aliases can be bound in the schema. -/
theorem DynamicScope.exists_inRows {outer inner : StaticScope}
    (h : StaticScope.inRows rows outer = .ok inner) (around : DynamicScope) :
    ∃ within, DynamicScope.inRows rows around = .ok within ∧ within.data = around.data ∧
      ∀ name, Keyed.get? name within.bindings =
        (rows.reverse.findSome? (·.binding? name)).or (Keyed.get? name around.bindings) := by
  induction rows generalizing outer around with
  | nil => exact ⟨around, rfl, rfl, fun name => rfl⟩
  | cons row rest ih =>
    obtain ⟨scope, hbind, hrest⟩ := Fault.bind_eq_ok_iff.1 h
    obtain ⟨entered, henter⟩ : ∃ entered, around.bind row.itemName row.item row.index row.count
        row.isPage = .ok entered := by
      rw [DynamicScope.bind, if_neg (StaticScope.ne_self_of_bind hbind)]
      exact ⟨_, rfl⟩
    obtain ⟨hdata, hget⟩ := DynamicScope.bind_eq_ok henter
    obtain ⟨within, hwithin, hsame, hnames⟩ := ih hrest entered
    refine ⟨within, Fault.bind_eq_ok_iff.2 ⟨entered, henter, hwithin⟩, hsame.trans hdata, ?_⟩
    intro name
    rw [hnames, hget, EnteredRow.get?_rowBindings_eq, List.reverse_cons, List.findSome?_append,
      List.findSome?_singleton, Option.or_assoc]

end

namespace EnteredRow

variable {rows : List EnteredRow}

/-- What the rows say of their numbers and pages is all that they bind to a name that is no
alias. -/
theorem findSome?_binding?_of_find?_eq_none {name : Text}
    (h : (rows.find? fun row => row.itemName = name) = none) :
    rows.findSome? (·.binding? name) = rows.findSome? (·.implicit? name) := by
  induction rows with
  | nil => rfl
  | cons row rest ih =>
    obtain ⟨hrow, hrest⟩ := List.forall_mem_cons.1 (List.find?_eq_none.1 h)
    rw [List.findSome?_cons, List.findSome?_cons,
      binding?_of_ne fun e => hrow (decide_eq_true e), ih (List.find?_eq_none.2 hrest)]

/-- The innermost row of an alias is the one that binds it, unless it or a row inside it binds
the name as that of a number or a page. -/
theorem findSome?_binding?_reverse {before after : List EnteredRow} {row : EnteredRow}
    (hafter : ∀ other ∈ after, other.itemName ≠ row.itemName)
    (himplicit : ∀ other ∈ row :: after, other.implicit? row.itemName = none) :
    (before ++ row :: after).reverse.findSome? (·.binding? row.itemName) = some row.item := by
  obtain ⟨hrow, hrest⟩ := List.forall_mem_cons.1 himplicit
  have hnone : after.reverse.findSome? (·.binding? row.itemName) = none := by
    rw [List.findSome?_eq_none_iff]
    intro other ho
    rw [List.mem_reverse] at ho
    rw [binding?_of_ne (hafter other ho), hrest other ho]
  rw [List.reverse_append, List.reverse_cons, List.append_assoc, List.findSome?_append, hnone,
    Option.none_or, List.singleton_append, List.findSome?_cons,
    binding?_of_implicit?_eq_none hrow, if_pos rfl]

end EnteredRow

/-- Under the same rows both scopes classify the first name of a path alike. An alias of the
schema is that of the innermost row with this name; in the document it is bound to the item of
the same row, if no row from there inwards binds it as the name of its number or page. A name
that exists only while rows are rendered is bound to what the innermost row says that has it, and
to nothing if there is no such row. Any other name is bound in neither scope. -/
theorem path_roots_are_classified_alike {rows : List EnteredRow} {inner : StaticScope}
    (h : StaticScope.inRows rows .empty = .ok inner) (data : Value) :
    ∃ within, DynamicScope.inRows rows (.ofData data) = .ok within ∧ within.data = data ∧
      ∀ path,
        (∀ target, Keyed.get? (Path.root path) inner = some target →
          ∃ before row after, rows = before ++ row :: after ∧ row.itemName = Path.root path ∧
            row.source ++ Path.arrayMarker = target ∧
            (∀ other ∈ after, other.itemName ≠ Path.root path) ∧
            ((∀ other ∈ row :: after, other.implicit? (Path.root path) = none) →
              Keyed.get? (Path.root path) within.bindings = some row.item)) ∧
        (inner.isImplicit path = true → Keyed.get? (Path.root path) within.bindings =
          rows.reverse.findSome? (·.implicit? (Path.root path))) ∧
        (Keyed.get? (Path.root path) inner = none → inner.isImplicit path = false →
          Keyed.get? (Path.root path) within.bindings = none) := by
  obtain ⟨within, hwithin, hdata, hbound⟩ := DynamicScope.exists_inRows h (.ofData data)
  refine ⟨within, hwithin, hdata, fun path => ?_⟩
  have hstatic := (StaticScope.get?_inRows h (Path.root path)).trans (Option.or_none ..)
  have hdynamic := (hbound (Path.root path)).trans (Option.or_none ..)
  -- Where the schema has no alias, the document has only numbers and pages.
  have hunbound : Keyed.get? (Path.root path) inner = none →
      Keyed.get? (Path.root path) within.bindings =
        rows.reverse.findSome? (·.implicit? (Path.root path)) := by
    intro hnone
    rw [hstatic, Option.map_eq_none_iff] at hnone
    rw [hdynamic, EnteredRow.findSome?_binding?_of_find?_eq_none hnone]
  refine ⟨?_, ?_, ?_⟩
  · intro target htarget
    rw [hstatic, Option.map_eq_some_iff] at htarget
    obtain ⟨row, hfound, hsource⟩ := htarget
    obtain ⟨hname, inside, outside, hsplit, hothers⟩ := List.find?_eq_some_iff_append.1 hfound
    replace hname : row.itemName = Path.root path := of_decide_eq_true hname
    have hrows : rows = outside.reverse ++ row :: inside.reverse := by
      rw [← rows.reverse_reverse, hsplit]
      simp
    have hafter : ∀ other ∈ inside.reverse, other.itemName ≠ Path.root path := by
      intro other ho
      simpa using hothers other (List.mem_reverse.1 ho)
    refine ⟨outside.reverse, row, inside.reverse, hrows, hname, hsource, hafter, ?_⟩
    intro himplicit
    rw [hdynamic, hrows]
    rw [← hname] at hafter himplicit ⊢
    exact EnteredRow.findSome?_binding?_reverse hafter himplicit
  · intro himplicit
    refine hunbound ?_
    simp only [StaticScope.isImplicit, Keyed.has, Bool.and_eq_true, Bool.not_eq_true'] at himplicit
    exact Option.isNone_iff_eq_none.1 (by simpa using himplicit.2)
  · intro hnone himplicit
    have hroot : Path.root path ∉ Path.implicitNames := by
      simpa [StaticScope.isImplicit, Path.isImplicit, Keyed.has, hnone] using himplicit
    rw [hunbound hnone, List.findSome?_eq_none_iff]
    exact fun row _ => row.implicit?_eq_none hroot

/-- The second page, and on it the fifth row of a list, whose alias is the name of a page. -/
def rowOnPage : List EnteredRow :=
  [⟨"page", "pages", .object [("title", .text "P")], 1, 3, true⟩,
    ⟨"$page", "pages[].rows", .object [("title", .text "R")], 4, 9, false⟩]

/-- The alias hides the page, the number is that of the row, and other names are free. -/
theorem path_roots_are_classified_alike_on_a_page :
    ∃ inner within, StaticScope.inRows rowOnPage .empty = .ok inner ∧
      DynamicScope.inRows rowOnPage (.ofData (.object [])) = .ok within ∧
      Keyed.get? "$page" inner = some "pages[].rows[]" ∧
      Keyed.get? "$page" within.bindings = some (.object [("title", .text "R")]) ∧
      inner.isImplicit "$index" = true ∧
      Keyed.get? "$index" within.bindings = some (.ofInt 4) ∧
      Keyed.get? "total" inner = none ∧ Keyed.get? "total" within.bindings = none := by
  have h : StaticScope.inRows rowOnPage .empty =
      .ok [("page", "pages[]"), ("$page", "pages[].rows[]")] := rfl
  obtain ⟨within, hwithin, -, hclass⟩ := path_roots_are_classified_alike h (.object [])
  refine ⟨_, within, h, hwithin, rfl, ?_, rfl, ?_, rfl, ?_⟩
  · rw [← Except.ok.inj hwithin]
    rfl
  · exact (hclass "$index").2.1 rfl
  · exact (hclass "total").2.2 rfl rfl

/-- An alias with the name of a row's number stands for the items in the schema and for the
number in the document. The name of a page counts as such in the schema where no row around is a
page, and in the document it is then a key of the data. -/
theorem path_roots_are_not_classified_alike_for_some_rows :
    (∃ inner within,
      StaticScope.inRows [⟨"$index", "rows", .text "A", 0, 1, false⟩] .empty = .ok inner ∧
      DynamicScope.inRows [⟨"$index", "rows", .text "A", 0, 1, false⟩]
        (.ofData (.object [("rows", .list [.text "A"])])) = .ok within ∧
      Keyed.get? "$index" inner = some "rows[]" ∧
      Keyed.get? "$index" within.bindings = some (.ofInt 0) ∧
      Keyed.get? "$index" within.bindings ≠ some (.text "A")) ∧
    (∃ inner within,
      StaticScope.inRows [⟨"row", "rows", .text "A", 0, 1, false⟩] .empty = .ok inner ∧
      DynamicScope.inRows [⟨"row", "rows", .text "A", 0, 1, false⟩]
        (.ofData (.object [("rows", .list [.text "A"]), ("$page", .text "x")])) = .ok within ∧
      inner.isImplicit "$page" = true ∧ Keyed.get? "$page" within.bindings = none ∧
      within.resolve "$page" = .text "x") :=
  ⟨⟨_, _, rfl, rfl, rfl, rfl, by decide⟩, ⟨_, _, rfl, rfl, rfl, rfl, rfl⟩⟩

end TypedTemplate
