import TypedTemplate.Proofs.NestedScopes
import TypedTemplate.Proofs.Registrations

/-!
# What rendering reads

A document is written piece by piece. A piece is markup, the value of an interpolation in its
scope, or the list of an iteration that was looked up, and a row may lie beyond the items of its
list. Where the pieces of a template read a path there is an occurrence of the path in the
template, and the scope of the document followed that of the schema to it.
-/
namespace TypedTemplate.Render

/-- A part of the work of rendering. Padded is what lies in a row that shows no item. -/
inductive Piece where
  | markup (t : Text)
  | interpolation (i : Interpolation) (scope : DynamicScope) (padded : Bool)
  | iteration (tag : Text) (i : Iteration) (scope : DynamicScope) (padded : Bool)
  | fault (e : Fault)

def Piece.write (zone : Text) : Piece → Except Fault Text
  | .markup t => .ok t
  | .interpolation i scope _ => segment zone scope (.interpolation i)
  | .iteration .. => .ok []
  | .fault e => .error e

def writeAll (zone : Text) : List Piece → Except Fault Text
  | [] => .ok []
  | piece :: rest => do
    let first ← piece.write zone
    let others ← writeAll zone rest
    return first ++ others

def segmentPiece (scope : DynamicScope) (padded : Bool) : Segment → Piece
  | .literal t => .markup (Reference.escape t)
  | .interpolation i => .interpolation i scope padded

def oncePieces (head : Head) (content : DynamicScope → Bool → List Piece) (scope : DynamicScope)
    (padded breakAfter : Bool) : List Piece :=
  match isHidden head scope with
  | .error e => [.fault e]
  | .ok hidden =>
    if hidden || head.tag = "meta" then []
    else .markup ('<' :: head.tag ++ attributes head breakAfter ++ ['>']) ::
      if head.isVoid then [] else content scope padded ++ [.markup ("</" ++ head.tag ++ ['>'])]

def rowPieces (once : DynamicScope → Bool → Bool → List Piece) (iteration : Iteration)
    (scope : DynamicScope) (padded injectBreak : Bool) (taken total : Nat) :
    Nat → List Value → List Piece
  | _, [] => []
  | index, item :: rest =>
    (match scope.bind iteration.itemName item index total (iteration.kind == .page) with
      | .error e => [.fault e]
      | .ok inner => once inner (padded || taken ≤ index) (injectBreak && index + 1 < total)) ++
    rowPieces once iteration scope padded injectBreak taken total (index + 1) rest

def elementPieces (head : Head) (content : DynamicScope → Bool → List Piece)
    (scope : DynamicScope) (padded : Bool) : List Piece :=
  match head.iteration with
  | none => oncePieces head content scope padded false
  | some iteration =>
    .iteration head.tag iteration scope padded ::
      match scope.resolve iteration.source with
      | .list items =>
        let all := rows iteration items
        let injectBreak := iteration.kind == .page && !hasBreakAfter head
        rowPieces (oncePieces head content) iteration scope padded injectBreak
          (takenRows iteration items) all.length 0 all
      | _ => []

mutual

/-- The pieces of a part of a template in a scope, in the order in which they are read. -/
def pieces : Node → DynamicScope → Bool → List Piece
  | .text segments, scope, padded => segments.map (segmentPiece scope padded)
  | .element head children, scope, padded => elementPieces head (piecesOfList children) scope padded

def piecesOfList : List Node → DynamicScope → Bool → List Piece
  | [], _, _ => []
  | n :: rest, scope, padded => pieces n scope padded ++ piecesOfList rest scope padded

end

theorem writeAll_append (zone : Text) (all more : List Piece) :
    writeAll zone (all ++ more) = do
      let first ← writeAll zone all
      let others ← writeAll zone more
      return first ++ others := by
  induction all with
  | nil => cases h : writeAll zone more <;> simp [writeAll, h, bind, Except.bind, pure, Except.pure]
  | cons piece all ih =>
    rw [List.cons_append, writeAll, writeAll, ih]
    cases piece.write zone with
    | error e => rfl
    | ok first =>
      cases writeAll zone all with
      | error e => rfl
      | ok second =>
        cases writeAll zone more with
        | error e => rfl
        | ok third => exact congrArg Except.ok (List.append_assoc first second third).symm

theorem writeAll_singleton (zone : Text) (piece : Piece) :
    writeAll zone [piece] = piece.write zone := by
  unfold writeAll writeAll
  cases piece.write zone with
  | error e => rfl
  | ok t => exact congrArg Except.ok (List.append_nil t)

theorem writeAll_markup (zone t : Text) (rest : List Piece) :
    writeAll zone (.markup t :: rest) = (t ++ ·) <$> writeAll zone rest := by
  rw [writeAll]
  cases writeAll zone rest <;> rfl

theorem segments_eq_writeAll (zone : Text) (scope : DynamicScope) (padded : Bool)
    (all : List Segment) :
    segments zone scope all = writeAll zone (all.map (segmentPiece scope padded)) := by
  induction all with
  | nil => rfl
  | cons s rest ih =>
    rw [segments, List.map_cons, writeAll, ih]
    cases s <;> rfl

theorem showOnce_eq_writeAll {zone : Text} {head : Head}
    {content : DynamicScope → Except Fault Text}
    {contentPieces : DynamicScope → Bool → List Piece}
    (h : ∀ scope padded, content scope = writeAll zone (contentPieces scope padded))
    (scope : DynamicScope) (padded breakAfter : Bool) :
    showOnce head content scope breakAfter =
      writeAll zone (oncePieces head contentPieces scope padded breakAfter) := by
  rw [showOnce, oncePieces]
  cases isHidden head scope with
  | error e => rfl
  | ok hidden =>
    simp only [bind, Except.bind, pure, Except.pure]
    by_cases hskip : (hidden || head.tag = "meta") = true
    · rw [if_pos hskip, if_pos hskip]
      rfl
    · rw [if_neg hskip, if_neg hskip, writeAll_markup]
      by_cases hvoid : head.isVoid = true
      · rw [if_pos hvoid, if_pos hvoid]
        exact congrArg Except.ok (List.append_nil _).symm
      · rw [if_neg hvoid, if_neg hvoid, writeAll_append, writeAll_singleton, h scope padded]
        cases writeAll zone (contentPieces scope padded) with
        | error e => rfl
        | ok body => exact congrArg Except.ok (by simp only [List.append_assoc])

theorem showRows_eq_writeAll {zone : Text} {once : DynamicScope → Bool → Except Fault Text}
    {many : DynamicScope → Bool → Bool → List Piece}
    (h : ∀ scope padded breakAfter, once scope breakAfter =
      writeAll zone (many scope padded breakAfter))
    (iteration : Iteration) (scope : DynamicScope) (padded injectBreak : Bool)
    (taken total index : Nat) (items : List Value) :
    showRows once iteration scope injectBreak total index items =
      writeAll zone
        (rowPieces many iteration scope padded injectBreak taken total index items) := by
  induction items generalizing index with
  | nil => rfl
  | cons item rest ih =>
    rw [showRows, rowPieces, writeAll_append, ← ih]
    cases scope.bind iteration.itemName item index total (iteration.kind == .page) with
    | error e => rfl
    | ok inner => rw [← h]; rfl

theorem showElement_eq_writeAll {zone : Text} {head : Head}
    {content : DynamicScope → Except Fault Text}
    {contentPieces : DynamicScope → Bool → List Piece}
    (h : ∀ scope padded, content scope = writeAll zone (contentPieces scope padded))
    (scope : DynamicScope) (padded : Bool) :
    showElement head content scope =
      writeAll zone (elementPieces head contentPieces scope padded) := by
  unfold showElement elementPieces
  cases head.iteration with
  | none => exact showOnce_eq_writeAll h scope padded false
  | some iteration =>
    have hread : ∀ rest, writeAll zone (.iteration head.tag iteration scope padded :: rest) =
        writeAll zone rest := by
      intro rest
      rw [writeAll]
      cases writeAll zone rest <;> rfl
    simp only [hread]
    cases scope.resolve iteration.source with
    | list items => exact showRows_eq_writeAll (showOnce_eq_writeAll h) ..
    | _ => rfl

mutual

theorem node_eq_writeAll (zone : Text) (n : Node) (scope : DynamicScope) (padded : Bool) :
    node zone n scope = writeAll zone (pieces n scope padded) := by
  cases n with
  | text segments => exact segments_eq_writeAll zone scope padded segments
  | element head children => exact showElement_eq_writeAll (nodes_eq_writeAll zone children) ..

theorem nodes_eq_writeAll (zone : Text) (all : List Node) (scope : DynamicScope)
    (padded : Bool) : nodes zone all scope = writeAll zone (piecesOfList all scope padded) := by
  cases all with
  | nil => rfl
  | cons n rest =>
    rw [nodes, piecesOfList, writeAll_append, ← node_eq_writeAll zone n scope padded,
      ← nodes_eq_writeAll zone rest scope padded]

end

/-- What a piece reads stands in some occurrence, in a scope of the schema to which the scope of
the document is related. Nothing is said of rows that show no item. -/
def Piece.Reads (Related : StaticScope → DynamicScope → Prop) (occurrences : List Occurrence) :
    Piece → Prop
  | .markup _ | .fault _ => True
  | .interpolation i scope padded => padded = false →
    ∃ around, .interpolation around i ∈ occurrences ∧ Related around scope
  | .iteration tag i scope padded => padded = false → tag ≠ "meta" →
    ∃ around, .iteration around i ∈ occurrences ∧ Related around scope

theorem Piece.Reads.mono {Related : StaticScope → DynamicScope → Prop} {piece : Piece}
    {occurrences more : List Occurrence} (h : piece.Reads Related occurrences)
    (hsub : occurrences ⊆ more) : piece.Reads Related more := by
  cases piece with
  | markup t => trivial
  | fault e => trivial
  | interpolation i scope padded =>
    intro hp
    obtain ⟨around, hm, hr⟩ := h hp
    exact ⟨around, hsub hm, hr⟩
  | iteration tag i scope padded =>
    intro hp ht
    obtain ⟨around, hm, hr⟩ := h hp ht
    exact ⟨around, hsub hm, hr⟩

theorem mem_oncePieces {head : Head} {content : DynamicScope → Bool → List Piece}
    {scope : DynamicScope} {padded breakAfter : Bool} {piece : Piece}
    (h : piece ∈ oncePieces head content scope padded breakAfter) :
    (∃ e, piece = .fault e) ∨ (∃ t, piece = .markup t) ∨
      (head.tag ≠ "meta" ∧ piece ∈ content scope padded) := by
  unfold oncePieces at h
  cases hh : isHidden head scope with
  | error e =>
    rw [hh] at h
    exact .inl ⟨e, List.mem_singleton.1 h⟩
  | ok hidden =>
    simp only [hh] at h
    split at h
    · cases h
    · rename_i hshown
      have htag : head.tag ≠ "meta" := by
        intro ht
        simp [ht] at hshown
      rcases List.mem_cons.1 h with rfl | h
      · exact .inr (.inl ⟨_, rfl⟩)
      · split at h
        · cases h
        · rcases List.mem_append.1 h with h | h
          · exact .inr (.inr ⟨htag, h⟩)
          · exact .inr (.inl ⟨_, List.mem_singleton.1 h⟩)

theorem mem_rowPieces {once : DynamicScope → Bool → Bool → List Piece} {iteration : Iteration}
    {scope : DynamicScope} {padded injectBreak : Bool} {taken total start : Nat}
    {items : List Value} {piece : Piece}
    (h : piece ∈ rowPieces once iteration scope padded injectBreak taken total start items) :
    (∃ e, piece = .fault e) ∨ ∃ k item inner breakAfter, items[k]? = some item ∧
      scope.bind iteration.itemName item ((start + k : Nat) : Int) total
        (iteration.kind == .page) = .ok inner ∧
      piece ∈ once inner (padded || taken ≤ start + k) breakAfter := by
  induction items generalizing start with
  | nil => cases h
  | cons item rest ih =>
    rcases List.mem_append.1 h with h | h
    · cases hb : scope.bind iteration.itemName item start total (iteration.kind == .page) with
      | error e =>
        rw [hb] at h
        exact .inl ⟨e, List.mem_singleton.1 h⟩
      | ok inner =>
        rw [hb] at h
        exact .inr ⟨0, item, inner, _, rfl, hb, h⟩
    · rcases ih h with h | ⟨k, other, inner, breakAfter, hk, hb, h⟩
      · exact .inl h
      · have hnext : start + 1 + k = start + (k + 1) := by omega
        rw [hnext] at hb h
        exact .inr ⟨k + 1, other, inner, breakAfter, hk, hb, h⟩

theorem mem_elementPieces {head : Head} {content : DynamicScope → Bool → List Piece}
    {scope : DynamicScope} {padded : Bool} {piece : Piece}
    (h : piece ∈ elementPieces head content scope padded) :
    (∃ e, piece = .fault e) ∨ (∃ t, piece = .markup t) ∨
      (∃ i, head.iteration = some i ∧ piece = .iteration head.tag i scope padded) ∨
      (head.iteration = none ∧ head.tag ≠ "meta" ∧ piece ∈ content scope padded) ∨
      ∃ i items index inner, head.iteration = some i ∧ head.tag ≠ "meta" ∧
        scope.resolve i.source = .list items ∧ scope.enter i items index = .ok inner ∧
        piece ∈ content inner (padded || takenRows i items ≤ index) := by
  unfold elementPieces at h
  cases hi : head.iteration with
  | none =>
    rw [hi] at h
    rcases mem_oncePieces h with h | h | h
    · exact .inl h
    · exact .inr (.inl h)
    · exact .inr (.inr (.inr (.inl ⟨rfl, h⟩)))
  | some i =>
    simp only [hi] at h
    rcases List.mem_cons.1 h with h | h
    · exact .inr (.inr (.inl ⟨i, rfl, h⟩))
    · cases hl : scope.resolve i.source with
      | list items =>
        simp only [hl] at h
        rcases mem_rowPieces h with h | ⟨k, item, inner, breakAfter, hk, hb, h⟩
        · exact .inl h
        · rw [Nat.zero_add] at hb h
          have hrow : scope.enter i items k = .ok inner := by
            rw [DynamicScope.enter, hk]
            exact hb
          rcases mem_oncePieces h with h | h | ⟨ht, h⟩
          · exact .inl h
          · exact .inr (.inl h)
          · exact .inr (.inr (.inr (.inr ⟨i, items, k, inner, rfl, ht, hl, hrow, h⟩)))
      | _ =>
        rw [hl] at h
        cases h

/-- Scopes stay related from an occurrence of an iteration into any row that shows an item. -/
def KeepsInRows (Related : StaticScope → DynamicScope → Prop) (occurrences : List Occurrence) :
    Prop :=
  ∀ around scope i items index inner, .iteration around i ∈ occurrences → Related around scope →
    scope.resolve i.source = .list items → index < takenRows i items →
    scope.enter i items index = .ok inner →
    Related (Keyed.set i.itemName (around.resolve i.source ++ Path.arrayMarker) around) inner

theorem KeepsInRows.mono {Related : StaticScope → DynamicScope → Prop}
    {occurrences more : List Occurrence} (h : KeepsInRows Related more)
    (hsub : occurrences ⊆ more) : KeepsInRows Related occurrences :=
  fun around scope i items index inner hi => h around scope i items index inner (hsub hi)

mutual

/-- Where scopes are related and stay so in rows, every piece reads an occurrence in a scope
related to its own. -/
theorem reads_of_mem_pieces {Related : StaticScope → DynamicScope → Prop} {n : Node}
    {outer : StaticScope} {scope : DynamicScope} {padded : Bool}
    (hr : padded = false → Related outer scope)
    (hk : KeepsInRows Related (n.occurrences outer)) :
    ∀ piece ∈ pieces n scope padded, piece.Reads Related (n.occurrences outer) := by
  intro piece hp
  cases n with
  | text segments =>
    obtain ⟨segment, hs, rfl⟩ := List.mem_map.1 hp
    cases segment with
    | literal t => trivial
    | interpolation i =>
      intro hpadded
      exact ⟨outer, List.mem_filterMap.2 ⟨_, hs, rfl⟩, hr hpadded⟩
  | element head children =>
    have hshown : head.tag ≠ "meta" → (Node.element head children).occurrences outer =
        Occurrence.ofHead outer head ++ Node.occurrencesOfList (outer.inside head) children := by
      intro ht
      rw [Node.occurrences, if_neg ht]
    -- The scope of the content is the one outside, or that of a row. Only a row that shows an
    -- item keeps the scopes related, and a padded row says nothing.
    rcases mem_elementPieces hp with ⟨e, rfl⟩ | ⟨t, rfl⟩ | ⟨i, hi, rfl⟩ | ⟨hi, ht, hp⟩ |
      ⟨i, items, index, inner, hi, ht, hl, hrow, hp⟩
    · trivial
    · trivial
    · intro hpadded ht
      refine ⟨outer, ?_, hr hpadded⟩
      rw [hshown ht, Occurrence.ofHead, hi]
      exact List.mem_cons_self
    · have hinside : outer.inside head = outer := by rw [StaticScope.inside, hi]
      rw [hshown ht, hinside] at hk ⊢
      have hsub := List.subset_append_right (Occurrence.ofHead outer head)
        (Node.occurrencesOfList outer children)
      exact (reads_of_mem_piecesOfList hr (hk.mono hsub) piece hp).mono hsub
    · have hinside : outer.inside head =
          Keyed.set i.itemName (outer.resolve i.source ++ Path.arrayMarker) outer := by
        rw [StaticScope.inside, hi]
      have hfirst : .iteration outer i ∈ Occurrence.ofHead outer head := by
        rw [Occurrence.ofHead, hi]
        exact List.mem_cons_self
      rw [hshown ht, hinside] at hk ⊢
      have hsub := List.subset_append_right (Occurrence.ofHead outer head)
        (Node.occurrencesOfList
          (Keyed.set i.itemName (outer.resolve i.source ++ Path.arrayMarker) outer) children)
      refine (reads_of_mem_piecesOfList (fun hin => ?_) (hk.mono hsub) piece hp).mono hsub
      rw [Bool.or_eq_false_iff, decide_eq_false_iff_not, Nat.not_le] at hin
      exact hk outer scope i items index inner (List.mem_append_left _ hfirst) (hr hin.1) hl
        hin.2 hrow

theorem reads_of_mem_piecesOfList {Related : StaticScope → DynamicScope → Prop}
    {all : List Node} {outer : StaticScope} {scope : DynamicScope} {padded : Bool}
    (hr : padded = false → Related outer scope)
    (hk : KeepsInRows Related (Node.occurrencesOfList outer all)) :
    ∀ piece ∈ piecesOfList all scope padded,
      piece.Reads Related (Node.occurrencesOfList outer all) := by
  cases all with
  | nil => exact nofun
  | cons n rest =>
    intro piece hp
    have hfirst := List.subset_append_left (n.occurrences outer) (Node.occurrencesOfList outer rest)
    have hrest := List.subset_append_right (n.occurrences outer) (Node.occurrencesOfList outer rest)
    rcases List.mem_append.1 hp with hp | hp
    · exact (reads_of_mem_pieces hr (hk.mono hfirst) piece hp).mono hfirst
    · exact (reads_of_mem_piecesOfList hr (hk.mono hrest) piece hp).mono hrest

end

/-- Whether an iteration leaves the names of rows and pages alone. -/
def LeavesRowNames : Occurrence → Prop
  | .iteration _ i => i.itemName ∉ Path.implicitNames
  | _ => True

end TypedTemplate.Render
