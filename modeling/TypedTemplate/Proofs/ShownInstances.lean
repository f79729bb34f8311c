import TypedTemplate.Proofs.DocumentTags
import TypedTemplate.Proofs.SanitizedTemplates
import TypedTemplate.Render

/-!
# Instances of elements

Rendering shows instances of the elements of a template: one for each row of an iteration and
none where a condition is false. A document consists of the tags of its instances, with texts
without markup between them, whatever the data are. These tags are balanced.
-/
namespace TypedTemplate

namespace Render

def plainAttributes (head : Head) : Keyed Text :=
  let kept := head.attributes.filter fun (name, _) =>
    !Allowed.controlAttributes.contains name && name != "style".toList
  kept.map fun (name, value) => (name, Reference.escape value)

/-- The style that is shown, before it is escaped. -/
def shownStyle (head : Head) (breakAfter : Bool) : Text :=
  Text.join "; " (styleParts head breakAfter)

/-- The attributes that are shown, the style last. -/
def shownAttributes (head : Head) (breakAfter : Bool) : Keyed Text :=
  plainAttributes head ++
    if (styleParts head breakAfter).isEmpty then []
    else [("style".toList, Reference.escape (shownStyle head breakAfter))]

theorem startTag_shownAttributes (head : Head) (breakAfter : Bool) :
    Document.startTag head.tag (shownAttributes head breakAfter) =
      '<' :: head.tag ++ attributes head breakAfter ++ ['>'] := by
  unfold Document.startTag shownAttributes plainAttributes shownStyle attributes
  dsimp only
  split <;> simp [List.flatMap_append, List.flatMap_map, writeAttribute, Document.writeEntry]

theorem showOnce_eq_ok {head : Head} {content : DynamicScope → Except Fault Text}
    {scope : DynamicScope} {breakAfter : Bool} {out : Text}
    (h : showOnce head content scope breakAfter = .ok out) :
    ∃ hidden, isHidden head scope = .ok hidden ∧
      (((hidden || head.tag = "meta") = true ∧ out = []) ∨
        ((hidden || head.tag = "meta") = false ∧ ∃ body,
          (head.isVoid = false → content scope = .ok body) ∧
          out = Document.startTag head.tag (shownAttributes head breakAfter) ++
            if head.isVoid then [] else body ++ Document.endTag head.tag)) := by
  obtain ⟨hidden, hi, h⟩ := Fault.bind_eq_ok_iff.1 h
  refine ⟨hidden, hi, ?_⟩
  rw [startTag_shownAttributes]
  split at h
  · rename_i hskip
    exact .inl ⟨hskip, (Except.ok.inj h).symm⟩
  · rename_i hskip
    refine .inr ⟨by simpa using hskip, ?_⟩
    split at h
    · rename_i hv
      exact ⟨[], by simp [hv], by simpa [hv] using (Except.ok.inj h).symm⟩
    · rename_i hv
      obtain ⟨body, hbody, h⟩ := Fault.bind_eq_ok_iff.1 h
      exact ⟨body, fun _ => hbody, by simpa [hv, Document.endTag] using (Except.ok.inj h).symm⟩

theorem of_mem_keys_plainAttributes {head : Head} {name : Text}
    (h : name ∈ Keyed.keys (plainAttributes head)) :
    name ∈ Keyed.keys head.attributes ∧ name ∉ Allowed.controlAttributes ∧
      name ≠ "style".toList := by
  obtain ⟨entry, he, rfl⟩ := List.mem_map.1 h
  obtain ⟨given, hg, rfl⟩ := List.mem_map.1 he
  obtain ⟨hm, hp⟩ := List.mem_filter.1 hg
  have hname : given.1 ∈ Keyed.keys head.attributes := List.mem_map_of_mem hm
  exact ⟨hname, by simpa using hp⟩

theorem areShown_plainAttributes {head : Head} (h : Allowed.AreKept head.attributes) :
    Document.AreShown (plainAttributes head) where
  once := by
    rw [plainAttributes, Keyed.keys, List.map_map]
    exact h.once.sublist (List.filter_sublist.map _)
  allowed := by
    intro name hn
    obtain ⟨hm, hc, -⟩ := of_mem_keys_plainAttributes hn
    exact ⟨(h.known name hm).resolve_right hc, hc⟩
  inert := by
    intro entry he
    obtain ⟨given, -, rfl⟩ := List.mem_map.1 he
    exact Document.isInert_escape given.2

theorem areShown_shownAttributes {head : Head} (h : Allowed.AreKept head.attributes)
    (breakAfter : Bool) : Document.AreShown (shownAttributes head breakAfter) := by
  unfold shownAttributes
  split
  · rw [List.append_nil]
    exact areShown_plainAttributes h
  · apply (areShown_plainAttributes h).append _ (by decide) (Document.isInert_escape _)
    intro hs
    exact (of_mem_keys_plainAttributes hs).2.2 rfl

theorem get?_style_shownAttributes (head : Head) (breakAfter : Bool) :
    Keyed.get? "style" (shownAttributes head breakAfter) =
      if (styleParts head breakAfter).isEmpty then none
      else some (Reference.escape (shownStyle head breakAfter)) := by
  have hplain : Keyed.get? "style" (plainAttributes head) = none := by
    rw [Keyed.get?_eq_none_iff]
    intro hs
    exact (of_mem_keys_plainAttributes hs).2.2 rfl
  rw [shownAttributes, Keyed.get?_append, hplain, Option.none_or]
  split <;> simp [Keyed.get?]

theorem isStartTag_of_isSanitized {head : Head} (h : head.IsSanitized) (hm : head.tag ≠ "meta")
    (breakAfter : Bool) :
    Document.IsStartTag head.tag ('<' :: head.tag ++ attributes head breakAfter ++ ['>']) where
  known := h.tag_mem
  shown := hm
  written := ⟨shownAttributes head breakAfter, areShown_shownAttributes h.attributes breakAfter,
    (startTag_shownAttributes head breakAfter).symm⟩

/-- An element that is shown, with the elements that are shown in it. -/
inductive Instance where
  | mk (head : Head) (breakAfter : Bool) (children : List Instance)

namespace Instance

mutual

def tags : Instance → List Text
  | .mk head breakAfter children =>
    ('<' :: head.tag ++ attributes head breakAfter ++ ['>']) ::
      if head.isVoid then [] else tagsOfList children ++ [Document.endTag head.tag]

def tagsOfList : List Instance → List Text
  | [] => []
  | i :: rest => tags i ++ tagsOfList rest

end

mutual

/-- The heads of an instance and of those in it, each with whether a page break is added. -/
def starts : Instance → List (Head × Bool)
  | .mk head breakAfter children => (head, breakAfter) :: startsOfList children

def startsOfList : List Instance → List (Head × Bool)
  | [] => []
  | i :: rest => starts i ++ startsOfList rest

end

theorem tagsOfList_append (all more : List Instance) :
    tagsOfList (all ++ more) = tagsOfList all ++ tagsOfList more := by
  induction all with
  | nil => rfl
  | cons i rest ih => rw [List.cons_append, tagsOfList, tagsOfList, ih, List.append_assoc]

theorem startsOfList_append (all more : List Instance) :
    startsOfList (all ++ more) = startsOfList all ++ startsOfList more := by
  induction all with
  | nil => rfl
  | cons i rest ih => rw [List.cons_append, startsOfList, startsOfList, ih, List.append_assoc]

end Instance

def onceInstances (head : Head) (content : DynamicScope → Except Fault (List Instance))
    (scope : DynamicScope) (breakAfter : Bool) : Except Fault (List Instance) := do
  let hidden ← isHidden head scope
  if hidden || head.tag = "meta" then
    return []
  if head.isVoid then
    return [.mk head breakAfter []]
  let children ← content scope
  return [.mk head breakAfter children]

def rowInstances (once : DynamicScope → Bool → Except Fault (List Instance))
    (iteration : Iteration) (scope : DynamicScope) (injectBreak : Bool) (total : Nat) :
    Nat → List Value → Except Fault (List Instance)
  | _, [] => .ok []
  | index, item :: rest => do
    let inner ← scope.bind iteration.itemName item index total (iteration.kind == .page)
    let first ← once inner (injectBreak && index + 1 < total)
    let others ← rowInstances once iteration scope injectBreak total (index + 1) rest
    return first ++ others

def elementInstances (head : Head) (content : DynamicScope → Except Fault (List Instance))
    (scope : DynamicScope) : Except Fault (List Instance) :=
  match head.iteration with
  | none => onceInstances head content scope false
  | some iteration =>
    match scope.resolve iteration.source with
    | .list items =>
      let all := rows iteration items
      let injectBreak := iteration.kind == .page && !hasBreakAfter head
      rowInstances (onceInstances head content) iteration scope injectBreak all.length 0 all
    | _ => .ok []

mutual

def instances : Node → DynamicScope → Except Fault (List Instance)
  | .text _, _ => .ok []
  | .element head children, scope => elementInstances head (instancesOfList children) scope

def instancesOfList : List Node → DynamicScope → Except Fault (List Instance)
  | [], _ => .ok []
  | n :: rest, scope => do
    let first ← instances n scope
    let others ← instancesOfList rest scope
    return first ++ others

end

/-- Instances that show nothing but some elements, no meta element among them, and whose tags make
up a document. -/
structure MakeUp (heads : List Head) (shown : List Instance) (document : Text) : Prop where
  only : ∀ start ∈ Instance.startsOfList shown, start.1 ∈ heads ∧ start.1.tag ≠ "meta"
  consists : Document.Consists (Instance.tagsOfList shown) document

namespace MakeUp

variable {heads more : List Head} {shown others : List Instance} {document rest : Text}

theorem of_isInert (h : Document.IsInert document) : MakeUp heads [] document where
  only := nofun
  consists := .of_isInert h

theorem append (h : MakeUp heads shown document) (hr : MakeUp heads others rest) :
    MakeUp heads (shown ++ others) (document ++ rest) where
  only := by
    intro start hs
    rw [Instance.startsOfList_append] at hs
    exact (List.mem_append.1 hs).elim (h.only start) (hr.only start)
  consists := by
    rw [Instance.tagsOfList_append]
    exact h.consists.append hr.consists

theorem mono (h : MakeUp heads shown document) (hsub : heads ⊆ more) :
    MakeUp more shown document where
  only := by
    intro start hs
    obtain ⟨hm, ht⟩ := h.only start hs
    exact ⟨hsub hm, ht⟩
  consists := h.consists

end MakeUp

theorem makeUp_segments {zone : Text} {scope : DynamicScope} {heads : List Head}
    {all : List Segment} {out : Text} (h : segments zone scope all = .ok out) :
    MakeUp heads [] out := by
  induction all generalizing out with
  | nil => exact Except.ok.inj h ▸ .of_isInert Document.isInert_nil
  | cons s rest ih =>
    obtain ⟨first, hf, h⟩ := Fault.bind_eq_ok_iff.1 h
    obtain ⟨others, ho, h⟩ := Fault.bind_eq_ok_iff.1 h
    have hinert : Document.IsInert first := by
      cases s with
      | literal t => exact Except.ok.inj hf ▸ Document.isInert_escape t
      | interpolation i =>
        obtain ⟨value, -, hf⟩ := Fault.bind_eq_ok_iff.1 hf
        exact Except.ok.inj hf ▸ Document.isInert_escape value.display
    exact Except.ok.inj h ▸ (MakeUp.of_isInert hinert).append (ih ho)

section Elements

variable {head : Head} {heads : List Head} (hh : head.IsSanitized) (hm : head ∈ heads)
include hh hm

theorem makeUp_void (ht : head.tag ≠ "meta") (hv : head.isVoid = true) (breakAfter : Bool) :
    MakeUp heads [.mk head breakAfter []]
      ('<' :: head.tag ++ attributes head breakAfter ++ ['>']) where
  only := by
    intro start hs
    rw [List.mem_singleton.1 hs]
    exact ⟨hm, ht⟩
  consists := by
    simp only [Instance.tagsOfList, Instance.tags, if_pos hv, List.append_nil]
    exact .of_isTag (isStartTag_of_isSanitized hh ht breakAfter).isTag

theorem makeUp_element (ht : head.tag ≠ "meta") (hv : ¬head.isVoid = true) (breakAfter : Bool)
    {children : List Instance} {body : Text} (hc : MakeUp heads children body) :
    MakeUp heads [.mk head breakAfter children]
      ('<' :: head.tag ++ attributes head breakAfter ++ ['>'] ++ body ++ "</" ++ head.tag ++
        ['>']) where
  only := by
    intro start hs
    rw [Instance.startsOfList, Instance.starts, Instance.startsOfList, List.append_nil] at hs
    rcases List.mem_cons.1 hs with rfl | hs
    · exact ⟨hm, ht⟩
    · exact hc.only start hs
  consists := by
    have hstart := (isStartTag_of_isSanitized hh ht breakAfter).isTag
    have hend := Document.Consists.of_isTag (Document.isTag_endTag hh.tag_mem)
    have hall := Document.Consists.tag hstart (hc.consists.append hend)
    simp only [Instance.tagsOfList, Instance.tags, if_neg hv, List.append_nil]
    simpa [Document.endTag] using hall

variable {content : DynamicScope → Except Fault Text}
  {contentInstances : DynamicScope → Except Fault (List Instance)}
  (hc : ∀ scope body, content scope = .ok body →
    ∃ shown, contentInstances scope = .ok shown ∧ MakeUp heads shown body)
include hc

theorem exists_onceInstances {scope : DynamicScope} {breakAfter : Bool} {out : Text}
    (h : showOnce head content scope breakAfter = .ok out) :
    ∃ shown, onceInstances head contentInstances scope breakAfter = .ok shown ∧
      MakeUp heads shown out := by
  obtain ⟨hidden, hi, hout⟩ := showOnce_eq_ok h
  rw [onceInstances, hi]
  simp only [bind, Except.bind, pure, Except.pure]
  rcases hout with ⟨hskip, rfl⟩ | ⟨hshow, body, hbody, rfl⟩
  · rw [if_pos hskip]
    exact ⟨[], rfl, .of_isInert Document.isInert_nil⟩
  · have ht : head.tag ≠ "meta" := by
      intro ht
      simp [ht] at hshow
    rw [if_neg (Bool.eq_false_iff.1 hshow), startTag_shownAttributes]
    by_cases hv : head.isVoid = true
    · rw [if_pos hv, if_pos hv, List.append_nil]
      exact ⟨_, rfl, makeUp_void hh hm ht hv breakAfter⟩
    · rw [if_neg hv, if_neg hv]
      obtain ⟨children, hchildren, hmake⟩ := hc scope body (hbody (Bool.eq_false_iff.2 hv))
      rw [hchildren]
      refine ⟨_, rfl, ?_⟩
      simpa [Document.endTag] using makeUp_element hh hm ht hv breakAfter hmake

end Elements

theorem exists_rowInstances {heads : List Head} {once : DynamicScope → Bool → Except Fault Text}
    {many : DynamicScope → Bool → Except Fault (List Instance)}
    (ho : ∀ scope breakAfter out, once scope breakAfter = .ok out →
      ∃ shown, many scope breakAfter = .ok shown ∧ MakeUp heads shown out)
    {iteration : Iteration} {scope : DynamicScope} {injectBreak : Bool} {total index : Nat}
    {items : List Value} {out : Text}
    (h : showRows once iteration scope injectBreak total index items = .ok out) :
    ∃ shown, rowInstances many iteration scope injectBreak total index items = .ok shown ∧
      MakeUp heads shown out := by
  induction items generalizing index out with
  | nil => exact ⟨[], rfl, Except.ok.inj h ▸ .of_isInert Document.isInert_nil⟩
  | cons item rest ih =>
    obtain ⟨inner, hb, h⟩ := Fault.bind_eq_ok_iff.1 h
    obtain ⟨first, hf, h⟩ := Fault.bind_eq_ok_iff.1 h
    obtain ⟨others, hr, h⟩ := Fault.bind_eq_ok_iff.1 h
    obtain ⟨shown, hshown, hmake⟩ := ho inner _ first hf
    obtain ⟨more, hmore, hrest⟩ := ih hr
    refine ⟨shown ++ more, ?_, Except.ok.inj h ▸ hmake.append hrest⟩
    apply Fault.bind_eq_ok_iff.2 ⟨inner, hb, _⟩
    apply Fault.bind_eq_ok_iff.2 ⟨shown, hshown, _⟩
    exact Fault.bind_eq_ok_iff.2 ⟨more, hmore, rfl⟩

theorem exists_elementInstances {head : Head} {heads : List Head} (hh : head.IsSanitized)
    (hm : head ∈ heads) {content : DynamicScope → Except Fault Text}
    {contentInstances : DynamicScope → Except Fault (List Instance)}
    (hc : ∀ scope body, content scope = .ok body →
      ∃ shown, contentInstances scope = .ok shown ∧ MakeUp heads shown body)
    {scope : DynamicScope} {out : Text} (h : showElement head content scope = .ok out) :
    ∃ shown, elementInstances head contentInstances scope = .ok shown ∧
      MakeUp heads shown out := by
  have honce : ∀ scope breakAfter out, showOnce head content scope breakAfter = .ok out →
      ∃ shown, onceInstances head contentInstances scope breakAfter = .ok shown ∧
        MakeUp heads shown out := fun _ _ _ => exists_onceInstances hh hm hc
  unfold showElement at h
  unfold elementInstances
  cases hi : head.iteration with
  | none =>
    rw [hi] at h
    exact honce scope false out h
  | some iteration =>
    simp only [hi] at h
    cases hs : scope.resolve iteration.source with
    | list items =>
      simp only [hs] at h ⊢
      exact exists_rowInstances honce h
    | _ =>
      simp only [hs] at h ⊢
      exact ⟨[], rfl, Except.ok.inj h ▸ .of_isInert Document.isInert_nil⟩

mutual

theorem exists_instances {zone : Text} {n : Node} (hn : n.IsSanitized) {scope : DynamicScope}
    {out : Text} (h : node zone n scope = .ok out) :
    ∃ shown, instances n scope = .ok shown ∧ MakeUp n.heads shown out := by
  cases hn with
  | text _ => exact ⟨[], rfl, makeUp_segments h⟩
  | element hh _ hc =>
    refine exists_elementInstances hh List.mem_cons_self ?_ h
    intro inner body hbody
    obtain ⟨shown, hshown, hmake⟩ := exists_instancesOfList hc hbody
    exact ⟨shown, hshown, hmake.mono (List.subset_cons_self _ _)⟩

theorem exists_instancesOfList {zone : Text} {all : List Node} (hn : ∀ n ∈ all, n.IsSanitized)
    {scope : DynamicScope} {out : Text} (h : nodes zone all scope = .ok out) :
    ∃ shown, instancesOfList all scope = .ok shown ∧ MakeUp (Node.headsOfList all) shown out := by
  cases all with
  | nil => exact ⟨[], rfl, Except.ok.inj h ▸ .of_isInert Document.isInert_nil⟩
  | cons n rest =>
    obtain ⟨hfirst, hrest⟩ := List.forall_mem_cons.1 hn
    obtain ⟨first, hf, h⟩ := Fault.bind_eq_ok_iff.1 h
    obtain ⟨others, ho, h⟩ := Fault.bind_eq_ok_iff.1 h
    obtain ⟨shown, hshown, hmake⟩ := exists_instances hfirst hf
    obtain ⟨more, hmore, hothers⟩ := exists_instancesOfList hrest ho
    refine ⟨shown ++ more, ?_, ?_⟩
    · apply Fault.bind_eq_ok_iff.2 ⟨shown, hshown, _⟩
      exact Fault.bind_eq_ok_iff.2 ⟨more, hmore, rfl⟩
    · rw [← Except.ok.inj h, Node.headsOfList]
      exact (hmake.mono (List.subset_append_left _ _)).append
        (hothers.mono (List.subset_append_right _ _))

end

mutual

/-- The tags of instances of sanitized elements are balanced. -/
theorem Instance.isBalanced_tags {i : Instance}
    (h : ∀ start ∈ i.starts, start.1.IsSanitized ∧ start.1.tag ≠ "meta") :
    Document.IsBalanced i.tags := by
  cases i with
  | mk head breakAfter children =>
    rw [Instance.starts] at h
    obtain ⟨⟨hh, ht⟩, hc⟩ := List.forall_mem_cons.1 h
    have hstart := isStartTag_of_isSanitized hh ht breakAfter
    rw [Instance.tags]
    split
    · rename_i hv
      exact .void (by simpa [Head.isVoid] using hv) hstart .nil
    · rename_i hv
      exact .element (by simpa [Head.isVoid] using hv) hstart
        (Instance.isBalanced_tagsOfList hc) .nil

theorem Instance.isBalanced_tagsOfList {all : List Instance}
    (h : ∀ start ∈ Instance.startsOfList all, start.1.IsSanitized ∧ start.1.tag ≠ "meta") :
    Document.IsBalanced (Instance.tagsOfList all) := by
  cases all with
  | nil => exact .nil
  | cons i rest =>
    rw [Instance.startsOfList] at h
    obtain ⟨hfirst, hrest⟩ := List.forall_mem_append.1 h
    exact (Instance.isBalanced_tags hfirst).append (Instance.isBalanced_tagsOfList hrest)

end

end Render

theorem Render.exists_instances_of_template {markup : Text} {root : Node}
    (hm : Node.ofMarkup markup = .ok root) {given : Option Settings} {data : Value} {out : Text}
    (h : Render.template given root data = .ok out) :
    ∃ shown, Render.instances root (.ofData data) = .ok shown ∧
      Render.MakeUp root.heads shown out := by
  obtain ⟨settings, -, h⟩ := Fault.bind_eq_ok_iff.1 h
  exact Render.exists_instances (Node.isSanitized_of_ofMarkup hm) h

/-- Whatever the data and the settings are, the tags of a document are those of the instances of
the elements of its template. They are balanced start and end tags of known elements with known
attributes, and neither the values of attributes nor the texts between the tags hold markup. -/
theorem data_adds_no_markup {markup : Text} {root : Node} (hm : Node.ofMarkup markup = .ok root)
    {given : Option Settings} {data : Value} {out : Text}
    (h : Render.template given root data = .ok out) :
    ∃ shown, Render.instances root (.ofData data) = .ok shown ∧
      Document.tags out = Render.Instance.tagsOfList shown ∧
      Document.IsBalanced (Document.tags out) ∧
      ∀ t ∈ Document.texts out, Document.IsInert t := by
  obtain ⟨shown, hshown, hmake⟩ := Render.exists_instances_of_template hm h
  have hsanitized := Node.isSanitized_of_ofMarkup hm
  have hstarts : ∀ start ∈ Render.Instance.startsOfList shown,
      start.1.IsSanitized ∧ start.1.tag ≠ "meta" := by
    intro start hs
    obtain ⟨hmem, ht⟩ := hmake.only start hs
    exact ⟨hsanitized.heads start.1 hmem, ht⟩
  refine ⟨shown, hshown, hmake.consists.tags_eq, ?_, hmake.consists.isInert_of_mem_texts⟩
  rw [hmake.consists.tags_eq]
  exact Render.Instance.isBalanced_tagsOfList hstarts

def listOfNames : Text :=
  "<ul class='a>b'><li data-repeat='rows as row'>\x7b\x7brow.name:string\x7d\x7d<br></li></ul>"

def hostileRows : Value :=
  .object [("rows", .list [.object [("name", .text "</li><script a='\"'>&lt;")], .object []])]

def tagsOfTwoNames : List Text := [
  "<html>", "<ul class=\"a&gt;b\">", "<li>", "<br>", "</li>", "<li>", "<br>", "</li>", "</ul>",
  "</html>"]

/-- Names with markup add no tag to a list. -/
theorem hostile_rows_add_no_markup : ∃ root out, Node.ofMarkup listOfNames = .ok root ∧
    Render.template (some .defaults) root hostileRows = .ok out ∧
    Document.IsBalanced (Document.tags out) ∧ (∀ t ∈ Document.texts out, Document.IsInert t) ∧
    Document.tags out = tagsOfTwoNames := by
  have hread : Fault.succeedsWith (fun root =>
      Fault.succeedsWith (fun out => decide (Document.tags out = tagsOfTwoNames))
        (Render.template (some .defaults) root hostileRows))
      (Node.ofMarkup listOfNames) = true := by
    decide +kernel
  obtain ⟨root, hm, hroot⟩ := Fault.exists_of_succeedsWith hread
  obtain ⟨out, ho, htags⟩ := Fault.exists_of_succeedsWith hroot
  obtain ⟨shown, -, -, hbalanced, hinert⟩ := data_adds_no_markup hm ho
  exact ⟨root, out, hm, ho, hbalanced, hinert, of_decide_eq_true htags⟩

end TypedTemplate
