import TypedTemplate.Markup.Builder

/-!
# Built trees

What the builder puts into a tree, whatever the tokens are. A text is put in with the segments
that were read from it. An element is put in with a known tag and its kept attributes, an image
only with its data, and a void element without content. This holds of every open element and of
every closed part after each token, so it holds of the tree in the end.
-/
namespace TypedTemplate

/-- Whether an element with these attributes is taken up: its tag is known, and an image carries
its data. -/
structure Allowed.Admits (tag : Text) (attributes : Attributes) : Prop where
  tag_mem : tag ∈ tags
  kept : ∃ given, attributes = filterAttributes given
  image : tag = "img" → "data:".toList <+: (Keyed.get? "src" attributes).getD []

/-- A draft as the builder makes it. -/
inductive Draft.IsBuilt : Draft → Prop
  | text {t : Text} {segments : List Segment} :
      t.isBlank = false → Segment.readAll t = .ok segments → IsBuilt (.text segments)
  | element {tag : Text} {attributes : Attributes} {children : List Draft} :
      Allowed.Admits tag attributes → (tag ∈ Allowed.voidTags → children = []) →
      (∀ d ∈ children, IsBuilt d) → IsBuilt (.element tag attributes children)

/-- An open element that may be closed as it is, and may take more content before. -/
structure OpenElement.IsBuilt (e : OpenElement) : Prop where
  admits : Allowed.Admits e.tag e.attributes
  notVoid : e.tag ∉ Allowed.voidTags
  children : ∀ d ∈ e.children, d.IsBuilt

theorem OpenElement.IsBuilt.close {e : OpenElement} (h : e.IsBuilt) : e.close.IsBuilt := by
  apply Draft.IsBuilt.element h.admits
  · intro hv
    exact absurd hv h.notVoid
  · intro d hd
    exact h.children d (List.mem_reverse.1 hd)

theorem OpenElement.IsBuilt.add {e : OpenElement} (h : e.IsBuilt) {d : Draft} (hd : d.IsBuilt) :
    (e.add d).IsBuilt where
  admits := h.admits
  notVoid := h.notVoid
  children := List.forall_mem_cons.2 ⟨hd, h.children⟩

namespace Builder

/-- Everything that the builder holds is built. -/
structure IsBuilt (b : Builder) : Prop where
  stack : ∀ e ∈ b.stack, e.IsBuilt
  top : ∀ d ∈ b.top, d.IsBuilt

theorem isBuilt_empty : empty.IsBuilt := ⟨nofun, nofun⟩

theorem isBuilt_add {b : Builder} (h : b.IsBuilt) {d : Draft} (hd : d.IsBuilt) :
    (b.add d).IsBuilt := by
  unfold add
  split
  · rename_i hs
    exact ⟨hs ▸ nofun, List.forall_mem_cons.2 ⟨hd, h.top⟩⟩
  · rename_i e rest hs
    obtain ⟨he, hrest⟩ := List.forall_mem_cons.1 (hs ▸ h.stack)
    exact ⟨List.forall_mem_cons.2 ⟨he.add hd, hrest⟩, h.top⟩

theorem isBuilt_closeThrough (tag : Text) {stack : List OpenElement} {top : List Draft}
    {inner : Option Draft} (hi : ∀ d ∈ inner, d.IsBuilt) (hs : ∀ e ∈ stack, e.IsBuilt)
    (ht : ∀ d ∈ top, d.IsBuilt) :
    (∀ e ∈ (closeThrough tag inner stack top).1, e.IsBuilt) ∧
      ∀ d ∈ (closeThrough tag inner stack top).2, d.IsBuilt := by
  induction stack generalizing inner with
  | nil =>
    refine ⟨nofun, fun d hd => ?_⟩
    rcases List.mem_append.1 hd with hd | hd
    · exact hi d (Option.mem_toList.1 hd)
    · exact ht d hd
  | cons e rest ih =>
    obtain ⟨he, hrest⟩ := List.forall_mem_cons.1 hs
    have hclosed : ∃ closed : OpenElement, closed.IsBuilt ∧
        closeThrough tag inner (e :: rest) top = closeThrough tag none (closed :: rest) top := by
      cases inner with
      | none => exact ⟨e, he, rfl⟩
      | some child => exact ⟨e.add child, he.add (hi child rfl), rfl⟩
    obtain ⟨closed, hc, hsame⟩ := hclosed
    rw [hsame]
    unfold closeThrough
    dsimp only
    split
    · cases rest with
      | nil => exact ⟨nofun, List.forall_mem_cons.2 ⟨hc.close, ht⟩⟩
      | cons parent others =>
        obtain ⟨hp, ho⟩ := List.forall_mem_cons.1 hrest
        exact ⟨List.forall_mem_cons.2 ⟨hp.add hc.close, ho⟩, ht⟩
    · apply ih _ hrest
      intro d hd
      exact Option.some.inj hd ▸ hc.close

theorem isBuilt_finish {b : Builder} (h : b.IsBuilt) (tag : Text) : (b.finish tag).IsBuilt := by
  unfold finish
  split
  · exact ⟨h.stack, h.top⟩
  · split
    · have hnone : ∀ d ∈ (none : Option Draft), d.IsBuilt := nofun
      obtain ⟨hs, ht⟩ := isBuilt_closeThrough tag hnone h.stack h.top
      exact ⟨hs, ht⟩
    · exact h

theorem isBuilt_start {b : Builder} (h : b.IsBuilt) (tag : Text)
    (given : List (Text × Option Text)) (selfClosing : Bool) :
    (b.start tag given selfClosing).IsBuilt := by
  unfold start
  dsimp only
  split
  · split
    · exact h
    · exact ⟨h.stack, h.top⟩
  · split
    · split
      · exact h
      · exact ⟨h.stack, h.top⟩
    · rename_i hknown
      split
      · exact h
      · rename_i himage
        have hadmits : Allowed.Admits tag (Allowed.filterAttributes given) := by
          refine ⟨?_, ⟨given, rfl⟩, ?_⟩
          · simpa using hknown
          · intro hi
            simpa [hi, List.isPrefixOf_iff_prefix] using himage
        split
        · exact isBuilt_add h (.element hadmits (fun _ => rfl) nofun)
        · rename_i hvoid
          rw [Bool.or_eq_true, not_or] at hvoid
          have hopen : (⟨tag, Allowed.filterAttributes given, []⟩ : OpenElement).IsBuilt := by
            refine ⟨hadmits, ?_, nofun⟩
            simpa using hvoid.2
          exact ⟨List.forall_mem_cons.2 ⟨hopen, h.stack⟩, h.top⟩

theorem isBuilt_text {b b' : Builder} (h : b.IsBuilt) {t : Text} (ht : b.text t = .ok b') :
    b'.IsBuilt := by
  unfold text at ht
  split at ht
  · exact Except.ok.inj ht ▸ h
  · rename_i htaken
    rw [Bool.or_eq_true, not_or] at htaken
    obtain ⟨segments, hs, ht⟩ := Fault.bind_eq_ok_iff.1 ht
    rw [← Except.ok.inj ht]
    split
    · exact h
    · exact isBuilt_add h (.text (Bool.eq_false_iff.2 htaken.2) hs)

theorem isBuilt_take {b b' : Builder} (h : b.IsBuilt) {token : Token}
    (ht : b.take token = .ok b') : b'.IsBuilt := by
  cases token with
  | text t => exact isBuilt_text h ht
  | start name attributes selfClosing =>
    exact Except.ok.inj ht ▸ isBuilt_start h name attributes selfClosing
  | finish name => exact Except.ok.inj ht ▸ isBuilt_finish h name
  | malformed => cases ht

/-- Whatever tokens are taken, what the builder holds stays built. -/
theorem isBuilt_takeAll {b b' : Builder} (h : b.IsBuilt) {tokens : List Token}
    (ht : b.takeAll tokens = .ok b') : b'.IsBuilt := by
  induction tokens generalizing b with
  | nil => exact Except.ok.inj ht ▸ h
  | cons token rest ih =>
    obtain ⟨c, hc, ht⟩ := Fault.bind_eq_ok_iff.1 ht
    exact ih (isBuilt_take h hc) ht

theorem isBuilt_closeAll {inner : Option Draft} (hi : ∀ d ∈ inner, d.IsBuilt)
    {stack : List OpenElement} (hs : ∀ e ∈ stack, e.IsBuilt) {top : List Draft}
    (ht : ∀ d ∈ top, d.IsBuilt) : ∀ d ∈ closeAll inner stack top, d.IsBuilt := by
  induction stack generalizing inner with
  | nil =>
    intro d hd
    rcases List.mem_append.1 (List.mem_reverse.1 hd) with hd | hd
    · exact hi d (Option.mem_toList.1 hd)
    · exact ht d hd
  | cons e rest ih =>
    obtain ⟨he, hrest⟩ := List.forall_mem_cons.1 hs
    apply ih _ hrest
    intro d hd
    rw [← Option.some.inj hd]
    cases inner with
    | none => exact he.close
    | some child => exact (he.add (hi child rfl)).close

end Builder

theorem Draft.isBuilt_document {parts : List Draft} (h : ∀ d ∈ parts, d.IsBuilt) :
    (document parts).IsBuilt ∧ (document parts).isElement "html" = true := by
  unfold document
  cases hf : parts.find? (·.isElement "html") with
  | none =>
    refine ⟨.element ⟨by decide, ⟨[], rfl⟩, ?_⟩ ?_ h, rfl⟩
    · intro hi
      exact absurd hi (by decide)
    · intro hv
      exact absurd hv (by decide)
  | some d => exact ⟨h d (List.mem_of_find?_eq_some hf), List.find?_some hf⟩

theorem Node.headsOfList_append (first second : List Node) :
    headsOfList (first ++ second) = headsOfList first ++ headsOfList second := by
  induction first with
  | nil => rfl
  | cons n rest ih => rw [List.cons_append, headsOfList, ih, headsOfList, List.append_assoc]

/-- A part of a template as it is built and its directives are read. -/
inductive Node.IsBuilt : Node → Prop
  | text {t : Text} {segments : List Segment} :
      t.isBlank = false → Segment.readAll t = .ok segments → IsBuilt (.text segments)
  | element {head : Head} {children : List Node} : Allowed.Admits head.tag head.attributes →
      Head.ofAttributes head.tag head.attributes = .ok head →
      (head.isVoid = true → children = []) → (∀ n ∈ children, IsBuilt n) →
      IsBuilt (.element head children)

theorem Head.ofAttributes_eq_ok {tag : Text} {attributes : Attributes} {head : Head}
    (h : ofAttributes tag attributes = .ok head) :
    head.tag = tag ∧ head.attributes = attributes ∧
      Directive.readAll attributes = .ok (head.iteration, head.condition) := by
  unfold ofAttributes at h
  split at h
  · rename_i iteration condition hr
    rw [← Except.ok.inj h]
    exact ⟨rfl, rfl, hr⟩
  · cases h
  · cases h

namespace Draft

mutual

theorem isBuilt_of_toNode {d : Draft} (hd : d.IsBuilt) {n : Node} (h : d.toNode = .ok n) :
    n.IsBuilt := by
  cases hd with
  | text ht hs => exact Except.ok.inj h ▸ .text ht hs
  | element hadmits hvoid hc =>
    rename_i tag attributes drafts
    obtain ⟨children, hn, h⟩ := Fault.bind_eq_ok_iff.1 h
    obtain ⟨head, hh, h⟩ := Fault.bind_eq_ok_iff.1 h
    rw [← Except.ok.inj h]
    obtain ⟨rfl, rfl, -⟩ := Head.ofAttributes_eq_ok hh
    refine .element hadmits hh ?_ (areBuilt_of_toNodes hc hn)
    intro hv
    have hnone : drafts = [] := hvoid (by simpa [Head.isVoid] using hv)
    rw [hnone] at hn
    exact (Except.ok.inj hn).symm

theorem areBuilt_of_toNodes {all : List Draft} (hd : ∀ d ∈ all, d.IsBuilt) {nodes : List Node}
    (h : Draft.toNodes all = .ok nodes) : ∀ n ∈ nodes, n.IsBuilt := by
  cases all with
  | nil => exact Except.ok.inj h ▸ nofun
  | cons d rest =>
    obtain ⟨hfirst, hrest⟩ := List.forall_mem_cons.1 hd
    obtain ⟨first, hf, h⟩ := Fault.bind_eq_ok_iff.1 h
    obtain ⟨others, ho, h⟩ := Fault.bind_eq_ok_iff.1 h
    rw [← Except.ok.inj h]
    exact List.forall_mem_cons.2 ⟨isBuilt_of_toNode hfirst hf, areBuilt_of_toNodes hrest ho⟩

end

end Draft

theorem Node.isBuilt_of_ofMarkup {markup : Text} {root : Node} (h : ofMarkup markup = .ok root) :
    root.IsBuilt ∧ ∃ head children, root = .element head children ∧ head.tag = "html" := by
  obtain ⟨b, hb, h⟩ := Fault.bind_eq_ok_iff.1 h
  have hbuilt := Builder.isBuilt_takeAll Builder.isBuilt_empty hb
  have hnone : ∀ d ∈ (none : Option Draft), d.IsBuilt := nofun
  have hparts := Builder.isBuilt_closeAll hnone hbuilt.stack hbuilt.top
  obtain ⟨hdocument, hhtml⟩ := Draft.isBuilt_document hparts
  refine ⟨Draft.isBuilt_of_toNode hdocument h, ?_⟩
  change (Draft.document (Builder.closeAll none b.stack b.top)).toNode = .ok root at h
  generalize Draft.document (Builder.closeAll none b.stack b.top) = d at h hhtml
  cases d with
  | text segments => cases hhtml
  | element tag attributes drafts =>
    obtain ⟨children, -, h⟩ := Fault.bind_eq_ok_iff.1 h
    obtain ⟨head, hh, h⟩ := Fault.bind_eq_ok_iff.1 h
    refine ⟨head, children, (Except.ok.inj h).symm, ?_⟩
    rw [(Head.ofAttributes_eq_ok hh).1]
    exact eq_of_beq hhtml

end TypedTemplate
