import TypedTemplate.Scope.Static

/-!
# Paths as joined components

A path of a template is a chain of identifiers. A resolved path is one whose components may
carry array markers, as many as lists lie inside one another there. Resolving a chain in a
static scope puts the components that its alias stands for in place of the first one.
-/
namespace TypedTemplate

namespace Text

theorem splitOn_cons_self (c : Char) (t : Text) : splitOn c (c :: t) = [] :: splitOn c t := by
  simp [splitOn, splitAt]

theorem splitOn_cons_ne {c d : Char} (h : d ≠ c) (t : Text) :
    splitOn c (d :: t) = consHead d (splitOn c t) := by
  simp [splitOn, splitAt, h]

theorem splitOn_ne_nil (c : Char) (t : Text) : splitOn c t ≠ [] := splitAt_ne_nil _ t

theorem splitOn_append (c : Char) (a b : Text) :
    splitOn c (a ++ c :: b) = splitOn c a ++ splitOn c b := by
  induction a with
  | nil => exact splitOn_cons_self c b
  | cons d a ih =>
    rw [List.cons_append]
    by_cases h : d = c
    · rw [h, splitOn_cons_self, splitOn_cons_self, ih, List.cons_append]
    · rw [splitOn_cons_ne h, splitOn_cons_ne h, ih]
      obtain ⟨first, others, hs⟩ := List.exists_cons_of_ne_nil (splitOn_ne_nil c a)
      rw [hs]
      rfl

theorem splitOn_of_not_mem {c : Char} {t : Text} (h : c ∉ t) : splitOn c t = [t] := by
  induction t with
  | nil => rfl
  | cons d t ih =>
    rw [List.mem_cons, not_or] at h
    rw [splitOn_cons_ne (Ne.symm h.1), ih h.2]
    rfl

theorem splitOn_join_of_not_mem {c : Char} {texts : List Text} (hne : texts ≠ [])
    (h : ∀ t ∈ texts, c ∉ t) : splitOn c (join [c] texts) = texts := by
  induction texts with
  | nil => exact absurd rfl hne
  | cons t rest ih =>
    obtain ⟨ht, hrest⟩ := List.forall_mem_cons.1 h
    cases rest with
    | nil => exact splitOn_of_not_mem ht
    | cons u others =>
      have hjoin : join [c] (t :: u :: others) = t ++ c :: join [c] (u :: others) := by simp [join]
      rw [hjoin, splitOn_append, splitOn_of_not_mem ht, ih (List.cons_ne_nil u others) hrest,
        List.singleton_append]

theorem splitOn_append_of_not_mem {c : Char} {more : Text} (h : c ∉ more) (t : Text) :
    ∃ pieces last, splitOn c t = pieces ++ [last] ∧
      splitOn c (t ++ more) = pieces ++ [last ++ more] := by
  induction t with
  | nil => exact ⟨[], [], rfl, splitOn_of_not_mem h⟩
  | cons d t ih =>
    obtain ⟨pieces, last, ht, hm⟩ := ih
    rw [List.cons_append]
    by_cases hd : d = c
    · refine ⟨[] :: pieces, last, ?_, ?_⟩
      · rw [hd, splitOn_cons_self, ht, List.cons_append]
      · rw [hd, splitOn_cons_self, hm, List.cons_append]
    · rw [splitOn_cons_ne hd, splitOn_cons_ne hd, ht, hm]
      cases pieces with
      | nil => exact ⟨[], d :: last, rfl, rfl⟩
      | cons piece pieces => exact ⟨(d :: piece) :: pieces, last, rfl, rfl⟩

theorem cut_append_self {c : Char} {a : Text} (h : c ∉ a) (b : Text) :
    cut c (a ++ c :: b) = (a, some b) := by
  induction a with
  | nil => simp [cut]
  | cons d a ih =>
    rw [List.mem_cons, not_or] at h
    simp [cut, Ne.symm h.1, ih h.2]

theorem cut_of_not_mem {c : Char} {t : Text} (h : c ∉ t) : cut c t = (t, none) := by
  induction t with
  | nil => rfl
  | cons d t ih =>
    rw [List.mem_cons, not_or] at h
    simp [cut, Ne.symm h.1, ih h.2]

theorem splitOn_eq_cut (c : Char) (t : Text) :
    splitOn c t = (cut c t).1 :: ((cut c t).2.map (splitOn c)).getD [] := by
  induction t with
  | nil => rfl
  | cons d t ih =>
    by_cases h : d = c
    · simp [h, splitOn_cons_self, cut]
    · rw [splitOn_cons_ne h, ih]
      simp [consHead, cut, h]

end Text

namespace Path

def markers (count : Nat) : Text := (List.replicate count arrayMarker).flatten

def nameOf (part : Text) : Text := part.takeWhile (· != '[')

def depthOf (part : Text) : Nat := part.count '['

/-- An identifier with array markers after it. -/
def IsComponent (part : Text) : Prop :=
  ∃ name count, isIdentifier name = true ∧ part = name ++ markers count

/-- A path whose components are identifiers with array markers after them. -/
def IsResolved (path : Text) : Prop := ∀ part ∈ Text.splitOn '.' path, IsComponent part

theorem markers_succ (count : Nat) : markers (count + 1) = markers count ++ arrayMarker := by
  simp [markers, List.replicate_succ', List.flatten_append]

theorem count_markers (count : Nat) : (markers count).count '[' = count := by
  induction count with
  | zero => rfl
  | succ n ih => rw [markers_succ, List.count_append, ih]; rfl

theorem isIdentifier_ne_nil {t : Text} (h : isIdentifier t = true) : t ≠ [] := by
  intro e
  simp [e, isIdentifier] at h

theorem isIdentifierChar_of_mem {t : Text} {c : Char} (h : isIdentifier t = true) (hc : c ∈ t) :
    isIdentifierChar c = true := by
  cases t with
  | nil => simp at hc
  | cons first rest =>
    simp only [isIdentifier, Bool.and_eq_true, List.all_eq_true] at h
    rcases List.mem_cons.1 hc with rfl | hc
    · simp [isIdentifierChar, h.1]
    · exact h.2 c hc

theorem not_mem_of_isIdentifier {t : Text} {c : Char} (h : isIdentifier t = true)
    (hc : isIdentifierChar c = false) : c ∉ t := by
  intro hm
  rw [isIdentifierChar_of_mem h hm] at hc
  exact absurd hc (by decide)

theorem IsComponent.ne_nil {part : Text} (h : IsComponent part) : part ≠ [] := by
  obtain ⟨name, count, hname, rfl⟩ := h
  simp [isIdentifier_ne_nil hname]

theorem IsComponent.of_isIdentifier {t : Text} (h : isIdentifier t = true) : IsComponent t :=
  ⟨t, 0, h, by simp [markers]⟩

theorem IsComponent.append_marker {part : Text} (h : IsComponent part) :
    IsComponent (part ++ arrayMarker) := by
  obtain ⟨name, count, hname, rfl⟩ := h
  exact ⟨name, count + 1, hname, by rw [markers_succ, List.append_assoc]⟩

theorem nameOf_component {name : Text} (h : isIdentifier name = true) (count : Nat) :
    nameOf (name ++ markers count) = name := by
  have hname : ∀ c ∈ name, (c != '[') = true := by
    intro c hc
    simp only [bne_iff_ne, ne_eq]
    rintro rfl
    exact not_mem_of_isIdentifier h (by decide) hc
  unfold nameOf
  rw [List.takeWhile_append_of_pos hname]
  cases count with
  | zero => simp [markers]
  | succ n => simp [markers, List.replicate_succ, arrayMarker]

theorem depthOf_component {name : Text} (h : isIdentifier name = true) (count : Nat) :
    depthOf (name ++ markers count) = count := by
  have hn : name.count '[' = 0 := List.count_eq_zero.2 (not_mem_of_isIdentifier h (by decide))
  rw [depthOf, List.count_append, count_markers, hn, Nat.zero_add]

theorem nameOf_append_marker {part : Text} (h : IsComponent part) :
    nameOf (part ++ arrayMarker) = nameOf part := by
  obtain ⟨name, count, hname, rfl⟩ := h
  rw [List.append_assoc, ← markers_succ, nameOf_component hname, nameOf_component hname]

theorem depthOf_append_marker (part : Text) : depthOf (part ++ arrayMarker) = depthOf part + 1 := by
  rw [depthOf, List.count_append]
  rfl

theorem splitMarker_of_isIdentifier {name : Text} (h : isIdentifier name = true) :
    splitMarker name = (name, false) := by
  unfold splitMarker
  rw [if_neg]
  intro hs
  obtain ⟨before, he⟩ := List.isSuffixOf_iff_suffix.1 hs
  have hm : '[' ∈ name := by simp [← he, arrayMarker]
  exact not_mem_of_isIdentifier h (by decide) hm

theorem splitMarker_append_marker (part : Text) :
    splitMarker (part ++ arrayMarker) = (part, true) := by
  have hs : arrayMarker.isSuffixOf (part ++ arrayMarker) = true :=
    List.isSuffixOf_iff_suffix.2 ⟨part, rfl⟩
  have hlen : (part ++ arrayMarker).length - 2 = part.length := by
    rw [List.length_append, arrayMarker]
    rfl
  rw [splitMarker, if_pos hs, hlen, List.take_left]

theorem IsComponent.splitMarker {part : Text} (h : IsComponent part) :
    IsComponent (splitMarker part).1 := by
  obtain ⟨name, count, hname, rfl⟩ := h
  cases count with
  | zero =>
    rw [show name ++ markers 0 = name from List.append_nil name,
      splitMarker_of_isIdentifier hname]
    exact .of_isIdentifier hname
  | succ n =>
    rw [markers_succ, ← List.append_assoc, splitMarker_append_marker]
    exact ⟨name, n, hname, rfl⟩

theorem components_of_isResolved {path : Text} (h : IsResolved path) :
    components path = Text.splitOn '.' path := by
  unfold components
  rw [List.filter_eq_self]
  intro part hpart
  simpa using (h part hpart).ne_nil

theorem isIdentifier_of_mem_splitOn {path part : Text} (h : isChain path = true)
    (hp : part ∈ Text.splitOn '.' path) : isIdentifier part = true :=
  List.all_eq_true.1 h part hp

theorem isResolved_of_isChain {path : Text} (h : isChain path = true) : IsResolved path :=
  fun _ hp => .of_isIdentifier (isIdentifier_of_mem_splitOn h hp)

theorem isIdentifier_of_mem_components {path part : Text} (h : isChain path = true)
    (hp : part ∈ components path) : isIdentifier part = true :=
  isIdentifier_of_mem_splitOn h (List.mem_filter.1 hp).1

theorem components_of_isChain {path : Text} (h : isChain path = true) :
    components path = root path :: (components path).tail := by
  rw [components_of_isResolved (isResolved_of_isChain h), Text.splitOn_eq_cut]
  rfl

theorem IsResolved.append_marker {path : Text} (h : IsResolved path) :
    IsResolved (path ++ arrayMarker) := by
  obtain ⟨pieces, last, hp, hm⟩ :=
    Text.splitOn_append_of_not_mem (show '.' ∉ arrayMarker by decide) path
  intro part hpart
  rw [hm] at hpart
  unfold IsResolved at h
  rw [hp] at h
  rcases List.mem_append.1 hpart with hpart | hpart
  · exact h part (List.mem_append_left _ hpart)
  · rw [List.mem_singleton.1 hpart]
    exact (h last (by simp)).append_marker

theorem components_append_marker {path : Text} (h : IsResolved path) :
    ∃ parts last, components path = parts ++ [last] ∧ IsComponent last ∧
      components (path ++ arrayMarker) = parts ++ [last ++ arrayMarker] := by
  obtain ⟨parts, last, hp, hm⟩ :=
    Text.splitOn_append_of_not_mem (show '.' ∉ arrayMarker by decide) path
  refine ⟨parts, last, ?_, h last (by simp [hp]), ?_⟩
  · rw [components_of_isResolved h, hp]
  · rw [components_of_isResolved h.append_marker, hm]

end Path

namespace StaticScope

/-- The aliases of a scope stand for resolved paths. -/
def IsResolved (scope : StaticScope) : Prop :=
  ∀ name target, Keyed.get? name scope = some target → Path.IsResolved target

/-- The pieces of what a chain means: those that its alias stands for, and the others. -/
theorem splitOn_resolve (scope : StaticScope) (path : Text) :
    Text.splitOn '.' (scope.resolve path) =
      match Keyed.get? (Path.root path) scope with
      | none => Text.splitOn '.' path
      | some target => Text.splitOn '.' target ++ (Text.splitOn '.' path).tail := by
  unfold resolve Path.root Path.split
  cases hg : Keyed.get? (Text.cut '.' path).1 scope with
  | none => simp [hg]
  | some target =>
    rw [Text.splitOn_eq_cut '.' path]
    cases hr : (Text.cut '.' path).2 with
    | none => simp [hg, hr]
    | some rest => simp [hg, hr, Text.splitOn_append]

theorem isResolved_resolve {scope : StaticScope} (hs : scope.IsResolved) {path : Text}
    (hp : Path.isChain path = true) : Path.IsResolved (scope.resolve path) := by
  have hpath := Path.isResolved_of_isChain hp
  intro part hpart
  rw [splitOn_resolve] at hpart
  cases hg : Keyed.get? (Path.root path) scope with
  | none =>
    rw [hg] at hpart
    exact hpath part hpart
  | some target =>
    rw [hg] at hpart
    rcases List.mem_append.1 hpart with hpart | hpart
    · exact hs _ target hg part hpart
    · exact hpath part (List.mem_of_mem_tail hpart)

theorem components_resolve {scope : StaticScope} (hs : scope.IsResolved) {path : Text}
    (hp : Path.isChain path = true) :
    Path.components (scope.resolve path) =
      match Keyed.get? (Path.root path) scope with
      | none => Path.components path
      | some target => Path.components target ++ (Path.components path).tail := by
  rw [Path.components_of_isResolved (isResolved_resolve hs hp), splitOn_resolve,
    Path.components_of_isResolved (Path.isResolved_of_isChain hp)]
  cases hg : Keyed.get? (Path.root path) scope with
  | none => rfl
  | some target => simp only [Path.components_of_isResolved (hs _ target hg)]

theorem splitOn_resolve_of_not_bare {scope : StaticScope} {path : Text}
    (hp : Path.isChain path = true) (hb : Keyed.has path scope = false) :
    ∃ parts last, Text.splitOn '.' (scope.resolve path) = parts ++ [last] ∧
      Path.isIdentifier last = true := by
  have hlast : ∀ {pieces : List Text}, pieces ≠ [] →
      (∀ part ∈ pieces, Path.isIdentifier part = true) →
      ∃ parts last, pieces = parts ++ [last] ∧ Path.isIdentifier last = true := by
    intro pieces hne hall
    exact ⟨pieces.dropLast, pieces.getLast hne, (List.dropLast_concat_getLast hne).symm,
      hall _ (List.getLast_mem hne)⟩
  rw [splitOn_resolve]
  cases hg : Keyed.get? (Path.root path) scope with
  | none =>
    exact hlast (Text.splitOn_ne_nil _ _) fun _ h => Path.isIdentifier_of_mem_splitOn hp h
  | some target =>
    have hne : (Text.splitOn '.' path).tail ≠ [] := by
      intro he
      have hroot : Path.root path = path := by
        have hjoin := Text.join_splitOn '.' path
        rw [Text.splitOn_eq_cut] at hjoin he
        rw [List.tail_cons] at he
        rw [he] at hjoin
        exact hjoin
      rw [hroot] at hg
      rw [Keyed.has, hg] at hb
      cases hb
    obtain ⟨parts, last, he, hi⟩ := hlast hne fun _ h =>
      Path.isIdentifier_of_mem_splitOn hp (List.mem_of_mem_tail h)
    exact ⟨Text.splitOn '.' target ++ parts, last, by simp only [he, List.append_assoc], hi⟩

end StaticScope
end TypedTemplate
