import TypedTemplate.Proofs.DocumentParts
import TypedTemplate.Proofs.ShownStyles

/-!
# Static templates

A template without interpolations and without directives shows the same document whatever the
data are. What is shown are its elements and texts: no meta elements, no attributes that steer
the template, the style of an element last, and texts that come to stand side by side joined.
Read again, the document is a template of these elements and texts, and it shows itself.
-/
namespace TypedTemplate

namespace Document.Part

/-- Puts a part in front of others; a text is joined with a text that follows it. -/
def before : Part → List Part → List Part
  | .text t, .text u :: rest => .text (t ++ u) :: rest
  | p, rest => p :: rest

def joined (all : List Part) : List Part := all.foldr before []

theorem before_cases (p : Part) (rest : List Part) :
    (∃ t u others, p = .text t ∧ rest = .text u :: others ∧
      before p rest = .text (t ++ u) :: others) ∨
    ((∀ q ∈ rest.head?, p.isText = true → q.isText = false) ∧ before p rest = p :: rest) := by
  cases p with
  | element _ _ _ => exact .inr ⟨fun _ _ => nofun, rfl⟩
  | text t =>
    cases rest with
    | nil => exact .inr ⟨nofun, rfl⟩
    | cons q others =>
      cases q with
      | text u => exact .inl ⟨t, u, others, rfl, rfl, rfl⟩
      | element _ _ _ =>
        refine .inr ⟨fun q hq _ => ?_, rfl⟩
        cases hq
        rfl

theorem writtenOfList_before (p : Part) (rest : List Part) :
    writtenOfList (before p rest) = p.written ++ writtenOfList rest := by
  rcases before_cases p rest with ⟨t, u, others, rfl, rfl, hb⟩ | ⟨-, hb⟩
  · rw [hb, writtenOfList_cons, writtenOfList_cons, written_text, written_text, written_text,
      Reference.escape_append, List.append_assoc]
  · rw [hb, writtenOfList_cons]

theorem areSpaced_before (p : Part) {rest : List Part} (h : AreSpaced rest) :
    AreSpaced (before p rest) := by
  rcases before_cases p rest with ⟨t, u, others, rfl, rfl, hb⟩ | ⟨hapart, hb⟩
  · rw [hb]
    exact List.isChain_cons.2 (List.isChain_cons.1 h)
  · rw [hb]
    exact List.isChain_cons.2 ⟨hapart, h⟩

theorem isPlain_before {p : Part} (hp : p.IsPlain) {rest : List Part}
    (hr : ∀ q ∈ rest, q.IsPlain) : ∀ q ∈ before p rest, q.IsPlain := by
  rcases before_cases p rest with ⟨t, u, others, rfl, rfl, hb⟩ | ⟨-, hb⟩
  · obtain ⟨-, hothers⟩ := List.forall_mem_cons.1 hr
    rw [hb]
    refine List.forall_mem_cons.2 ⟨.text ?_, hothers⟩
    cases hp with
    | text ht =>
      rw [Text.isBlank] at ht ⊢
      rw [List.all_append, ht, Bool.false_and]
  · rw [hb]
    exact List.forall_mem_cons.2 ⟨hp, hr⟩

theorem writtenOfList_joined (all : List Part) :
    writtenOfList (joined all) = writtenOfList all := by
  induction all with
  | nil => rfl
  | cons p rest ih =>
    rw [joined, List.foldr_cons, writtenOfList_before, writtenOfList_cons]
    exact congrArg (p.written ++ ·) ih

theorem areSpaced_joined (all : List Part) : AreSpaced (joined all) := by
  induction all with
  | nil => exact List.isChain_nil
  | cons p rest ih => exact areSpaced_before p ih

theorem isPlain_joined {all : List Part} (h : ∀ p ∈ all, p.IsPlain) :
    ∀ p ∈ joined all, p.IsPlain := by
  induction all with
  | nil => exact nofun
  | cons p rest ih =>
    obtain ⟨hfirst, hrest⟩ := List.forall_mem_cons.1 h
    exact isPlain_before hfirst (ih hrest)

theorem joined_of_areSpaced {all : List Part} (h : AreSpaced all) : joined all = all := by
  induction all with
  | nil => rfl
  | cons p rest ih =>
    obtain ⟨hapart, hspaced⟩ := List.isChain_cons.1 h
    rw [joined, List.foldr_cons]
    change before p (joined rest) = p :: rest
    rw [ih hspaced]
    rcases before_cases p rest with ⟨t, u, others, rfl, rfl, -⟩ | ⟨-, hb⟩
    · cases hapart (.text u) rfl rfl
    · exact hb

end Document.Part

def Segment.literalText : Segment → Text
  | .literal t => t
  | .interpolation _ => []

namespace Node

/-- A part of a template without interpolations and without directives. -/
inductive IsStatic : Node → Prop
  | text {segments : List Segment} : (∀ i, .interpolation i ∉ segments) →
      IsStatic (.text segments)
  | element {head : Head} {children : List Node} : head.IsStatic → (∀ n ∈ children, IsStatic n) →
      IsStatic (.element head children)

mutual

/-- What a document shows of a static part. -/
def parts : Node → List Document.Part
  | .text segments => [.text (segments.flatMap Segment.literalText)]
  | .element head children =>
    if head.tag = "meta" then []
    else [.element head.tag (Allowed.arrange head.attributes)
      (Document.Part.joined (partsOfList children))]

def partsOfList : List Node → List Document.Part
  | [] => []
  | n :: rest => parts n ++ partsOfList rest

end

end Node

namespace Keyed

theorem filter_key {α : Type} {l : Keyed α} (hl : (keys l).Nodup) (key : Text) :
    (l.filter fun e => e.1 == key) = ((get? key l).map fun value => (key, value)).toList := by
  induction l with
  | nil => rfl
  | cons entry rest ih =>
    obtain ⟨k, v⟩ := entry
    obtain ⟨hnew, hrest⟩ := List.nodup_cons.1 hl
    by_cases hk : k = key
    · have hnone : get? key rest = none := get?_eq_none_iff.2 (hk ▸ hnew)
      rw [List.filter_cons_of_pos (by simpa using hk), ih hrest, hnone, get?, if_pos hk, hk]
      rfl
    · rw [List.filter_cons_of_neg (by simpa using hk), ih hrest, get?, if_neg hk]

end Keyed

namespace Allowed

theorem areKept_arrange {kept : Attributes} (h : AreKept kept) : AreKept (arrange kept) where
  once := by
    rw [arrange, Keyed.keys, List.map_append]
    refine List.nodup_append.2 ⟨h.once.sublist (List.filter_sublist.map _),
      h.once.sublist (List.filter_sublist.map _), ?_⟩
    intro name hn other ho he
    obtain ⟨entry, hentry, rfl⟩ := List.mem_map.1 hn
    obtain ⟨last, hlast, rfl⟩ := List.mem_map.1 ho
    have hplain := (List.mem_filter.1 hentry).2
    have hstyle := (List.mem_filter.1 hlast).2
    rw [Bool.and_eq_true, bne_iff_ne] at hplain
    exact hplain.2 (he.trans (eq_of_beq hstyle))
  known := by
    intro name hn
    obtain ⟨entry, hentry, rfl⟩ := List.mem_map.1 hn
    apply h.known
    rcases List.mem_append.1 hentry with hm | hm
    · exact List.mem_map_of_mem (List.mem_filter.1 hm).1
    · exact List.mem_map_of_mem (List.mem_filter.1 hm).1
  style := by
    intro style hs
    rw [get?_arrange (by decide)] at hs
    exact h.style style hs

theorem mem_attributes_of_mem_arrange {kept : Attributes} (h : AreKept kept) :
    ∀ name ∈ Keyed.keys (arrange kept), name ∈ attributes := by
  intro name hn
  obtain ⟨entry, hentry, rfl⟩ := List.mem_map.1 hn
  rcases List.mem_append.1 hentry with hm | hm
  · obtain ⟨hkept, hplain⟩ := List.mem_filter.1 hm
    rw [Bool.and_eq_true] at hplain
    exact (h.known entry.1 (List.mem_map_of_mem hkept)).resolve_right (by simpa using hplain.1)
  · rw [eq_of_beq (List.mem_filter.1 hm).2]
    decide

end Allowed

namespace Render

theorem styleParts_of_isStatic {head : Head} (h : head.IsStatic) :
    styleParts head false = statedPart head "style" [] := by
  have hbreak : ∀ name ∈ ["data-break-before".toList, "data-break-after".toList], ∀ lead,
      statedPart head name lead = [] := by
    intro name hn lead
    rw [statedPart, h.breaks name hn]
    rfl
  rw [styleParts_eq, hbreak "data-break-before" (by decide), hbreak "data-break-after" (by decide)]
  simp

theorem shownAttributes_of_isStatic {head : Head} (hk : Allowed.AreKept head.attributes)
    (hs : head.IsStatic) :
    shownAttributes head false =
      (Allowed.arrange head.attributes).map fun e => (e.1, Reference.escape e.2) := by
  rw [shownAttributes, shownStyle, styleParts_of_isStatic hs, Allowed.arrange,
    Keyed.filter_key hk.once, List.map_append, statedPart, Head.valueOf]
  cases hstyle : Keyed.get? "style" head.attributes with
  | none => rfl
  | some style =>
    have hne : style.isEmpty = false := by simpa using (hk.style style hstyle).1
    simp [hne, Text.join, plainAttributes]

theorem startTag_of_isStatic {head : Head} (hk : Allowed.AreKept head.attributes)
    (hs : head.IsStatic) :
    '<' :: head.tag ++ attributes head false ++ ['>'] =
      Token.written (.start head.tag (Token.given (Allowed.arrange head.attributes)) false) := by
  rw [← startTag_shownAttributes, shownAttributes_of_isStatic hk hs, Token.written, Token.given,
    List.map_map]
  rfl

theorem segments_of_isStatic (zone : Text) (scope : DynamicScope) {pieces : List Segment}
    (h : ∀ i, .interpolation i ∉ pieces) :
    segments zone scope pieces = .ok (Reference.escape (pieces.flatMap Segment.literalText)) := by
  induction pieces with
  | nil => rfl
  | cons piece rest ih =>
    have hrest := ih fun i hi => h i (List.mem_cons_of_mem _ hi)
    cases piece with
    | interpolation i => exact absurd List.mem_cons_self (h i)
    | literal t =>
      rw [segments, hrest, List.flatMap_cons, Reference.escape_append]
      rfl

/-- A static element is shown with its start tag, and with its content and its end tag unless it
is void. -/
theorem showElement_of_isStatic {head : Head} (hh : head.IsSanitized) (hs : head.IsStatic)
    {content : DynamicScope → Except Fault Text} {scope : DynamicScope} {body : Text}
    (hc : content scope = .ok body) :
    showElement head content scope = .ok (
      if head.tag = "meta" then []
      else
        Token.written (.start head.tag (Token.given (Allowed.arrange head.attributes)) false) ++
          if head.isVoid then [] else body ++ Token.written (.finish head.tag)) := by
  have hnone : (none, none) = (head.iteration, head.condition) :=
    Except.ok.inj (hs.readAll.symm.trans hh.directives)
  obtain ⟨hiteration, hcondition⟩ := Prod.mk.inj hnone
  have hhidden : isHidden head scope = .ok false := by rw [isHidden, ← hcondition]
  have hstart := startTag_of_isStatic hh.attributes hs
  rw [showElement, ← hiteration]
  dsimp only
  rw [showOnce, hhidden]
  change (if decide (head.tag = "meta".toList) = true then _ else _) = _
  by_cases hmeta : head.tag = "meta"
  · rw [decide_eq_true hmeta, if_pos rfl, if_pos hmeta]
    rfl
  · rw [decide_eq_false hmeta, if_neg Bool.false_ne_true, if_neg hmeta, hstart]
    cases head.isVoid with
    | true => exact congrArg Except.ok (List.append_nil _).symm
    | false =>
      rw [if_neg Bool.false_ne_true, if_neg Bool.false_ne_true, hc]
      refine congrArg Except.ok ?_
      simp only [Token.written, Document.endTag, List.append_assoc]

mutual

/-- A static part is shown as it is written, whatever the scope is. -/
theorem node_of_isStatic {n : Node} (hn : n.IsSanitized) (hs : n.IsStatic) (zone : Text)
    (scope : DynamicScope) : node zone n scope = .ok (Document.Part.writtenOfList n.parts) := by
  cases hs with
  | text hsegments =>
    rw [node, segments_of_isStatic zone scope hsegments, Node.parts,
      Document.Part.writtenOfList_cons, Document.Part.written_text]
    exact congrArg Except.ok (List.append_nil _).symm
  | element hstatic hchildren =>
    cases hn with
    | element hh hvoid hc =>
      rename_i head children
      have hbody := nodes_of_isStatic hc hchildren zone scope
      rw [node, showElement_of_isStatic hh hstatic hbody, Node.parts]
      by_cases hmeta : head.tag = "meta"
      · rw [if_pos hmeta, if_pos hmeta]
        rfl
      · rw [if_neg hmeta, if_neg hmeta, Document.Part.writtenOfList_cons,
          Document.Part.written_element, Document.Part.writtenOfList_joined]
        exact congrArg Except.ok (List.append_nil _).symm

theorem nodes_of_isStatic {all : List Node} (hn : ∀ n ∈ all, n.IsSanitized)
    (hs : ∀ n ∈ all, n.IsStatic) (zone : Text) (scope : DynamicScope) :
    nodes zone all scope = .ok (Document.Part.writtenOfList (Node.partsOfList all)) := by
  cases all with
  | nil => rfl
  | cons n rest =>
    obtain ⟨hfirst, hrest⟩ := List.forall_mem_cons.1 hn
    obtain ⟨hstatic, hothers⟩ := List.forall_mem_cons.1 hs
    rw [nodes, node_of_isStatic hfirst hstatic, nodes_of_isStatic hrest hothers,
      Node.partsOfList, Document.Part.writtenOfList_append]
    rfl

end

end Render

theorem Segment.literalText_of_readAll {t : Text} {segments : List Segment}
    (h : readAll t = .ok segments) (hs : ∀ i, .interpolation i ∉ segments) :
    segments.flatMap literalText = t := by
  have hliteral : (literals t).flatMap literalText = t := by
    unfold literals
    split
    · rename_i hempty
      exact (List.isEmpty_iff.1 hempty).symm
    · exact List.append_nil t
  unfold readAll readFrom at h
  split at h
  · exact Except.ok.inj h ▸ hliteral
  · split at h
    · exact Except.ok.inj h ▸ hliteral
    · obtain ⟨i, -, h⟩ := Fault.bind_eq_ok_iff.1 h
      obtain ⟨others, -, h⟩ := Fault.bind_eq_ok_iff.1 h
      refine absurd ?_ (hs i)
      rw [← Except.ok.inj h]
      exact List.mem_append_right _ List.mem_cons_self

namespace Document.Part

theorem admits_arrange {head : Head} (h : head.IsSanitized) (hmeta : head.tag ≠ "meta") :
    Admits head.tag (Allowed.arrange head.attributes) where
  tag_mem := h.tag_mem
  shown := hmeta
  known := Allowed.mem_attributes_of_mem_arrange h.attributes
  kept := Allowed.areKept_arrange h.attributes
  arranged := Allowed.arrange_arrange head.attributes
  image := by
    intro himage
    obtain ⟨source, hsource, hdata⟩ := h.image himage
    rw [Allowed.get?_arrange (by decide), hsource]
    exact hdata

mutual

theorem isPlain_parts {n : Node} (hn : n.IsBuilt) (hs : n.IsStatic) : ∀ p ∈ n.parts, p.IsPlain := by
  cases hn with
  | text ht hread =>
    cases hs with
    | text hsegments =>
      rw [Node.parts, Segment.literalText_of_readAll hread hsegments]
      exact List.forall_mem_singleton.2 (.text ht)
  | element hadmits hh hvoid hc =>
    rename_i head children
    cases hs with
    | element hstatic hchildren =>
      have hinner := isPlain_partsOfList hc hchildren
      rw [Node.parts]
      split
      · exact nofun
      · rename_i hmeta
        refine List.forall_mem_singleton.2 (.element (admits_arrange (hadmits.isSanitized hh) hmeta)
          ?_ (areSpaced_joined _) (isPlain_joined hinner))
        intro hv
        rw [hvoid (by simpa [Head.isVoid] using hv)]
        rfl

theorem isPlain_partsOfList {all : List Node} (hn : ∀ n ∈ all, n.IsBuilt)
    (hs : ∀ n ∈ all, n.IsStatic) : ∀ p ∈ Node.partsOfList all, p.IsPlain := by
  cases all with
  | nil => exact nofun
  | cons n rest =>
    obtain ⟨hfirst, hrest⟩ := List.forall_mem_cons.1 hn
    obtain ⟨hstatic, hothers⟩ := List.forall_mem_cons.1 hs
    exact List.forall_mem_append.2
      ⟨isPlain_parts hfirst hstatic, isPlain_partsOfList hrest hothers⟩

end

mutual

/-- A plain part is static as a part of a template, and is what is shown of it. -/
theorem parts_node {p : Part} (hp : p.IsPlain) : p.node.IsStatic ∧ p.node.parts = [p] := by
  cases hp with
  | text _ =>
    refine ⟨.text fun i hi => ?_, ?_⟩
    · cases List.mem_singleton.1 hi
    · rw [node, Node.parts]
      simp [Segment.literalText]
  | element ha _ hspaced hc =>
    rename_i name attributes children _
    obtain ⟨hstatic, hparts⟩ := parts_nodeOfList hc
    refine ⟨.element (Head.isStatic_plain name ha.known) hstatic, ?_⟩
    change (if name = "meta".toList then [] else [element name (Allowed.arrange attributes)
      (joined (Node.partsOfList (nodeOfList children)))]) = [element name attributes children]
    rw [if_neg ha.shown, hparts, joined_of_areSpaced hspaced, ha.arranged]

theorem parts_nodeOfList {all : List Part} (hp : ∀ p ∈ all, p.IsPlain) :
    (∀ n ∈ nodeOfList all, n.IsStatic) ∧ Node.partsOfList (nodeOfList all) = all := by
  cases all with
  | nil => exact ⟨nofun, rfl⟩
  | cons p rest =>
    obtain ⟨hfirst, hrest⟩ := List.forall_mem_cons.1 hp
    obtain ⟨hstatic, hparts⟩ := parts_node hfirst
    obtain ⟨hothers, hmore⟩ := parts_nodeOfList hrest
    refine ⟨List.forall_mem_cons.2 ⟨hstatic, hothers⟩, ?_⟩
    rw [nodeOfList, Node.partsOfList, hparts, hmore]
    rfl

end

end Document.Part

/-- A static template shows what is written of its parts, whatever the settings and the data
are. -/
theorem Render.template_of_isStatic {root : Node} (hn : root.IsSanitized) (hs : root.IsStatic)
    (settings : Settings) (data : Value) :
    template (some settings) root data = .ok (Document.Part.writtenOfList root.parts) :=
  node_of_isStatic hn hs settings.timezone (.ofData data)

/-- What is shown of a static template is one plain `html` element. -/
theorem Node.exists_parts_eq {markup : Text} {root : Node} (h : Node.ofMarkup markup = .ok root)
    (hs : root.IsStatic) :
    ∃ attributes children, root.parts = [.element "html" attributes children] ∧
      (Document.Part.element "html" attributes children).IsPlain := by
  obtain ⟨hbuilt, head, children, rfl, htag⟩ := Node.isBuilt_of_ofMarkup h
  have hmeta : head.tag ≠ "meta" := by
    rw [htag]
    decide
  have hparts : (Node.element head children).parts = [.element "html"
      (Allowed.arrange head.attributes) (Document.Part.joined (partsOfList children))] := by
    rw [Node.parts, if_neg hmeta, htag]
  have hplain := Document.Part.isPlain_parts hbuilt hs
  rw [hparts] at hplain
  exact ⟨_, _, hparts, List.forall_mem_singleton.1 hplain⟩

/-- A static template is shown, and its document is the same for all settings and data. If no
braces are doubled in the document, it is read back, as a template that shows itself. -/
theorem static_document_shows_itself {markup : Text} {root : Node}
    (h : Node.ofMarkup markup = .ok root) (hs : root.IsStatic) :
    ∃ out, (∀ settings data, Render.template (some settings) root data = .ok out) ∧
      (¬Segment.openBraces <:+: out → ∃ again, Node.ofMarkup out = .ok again ∧
        ∀ settings data, Render.template (some settings) again data = .ok out) := by
  obtain ⟨attributes, children, hparts, hplain⟩ := Node.exists_parts_eq h hs
  let p := Document.Part.element "html" attributes children
  have hwritten : Document.Part.writtenOfList [p] = p.written :=
    (Document.Part.writtenOfList_cons p []).trans (List.append_nil _)
  refine ⟨p.written, fun settings data => ?_, fun hbraces => ?_⟩
  · rw [Render.template_of_isStatic (Node.isSanitized_of_ofMarkup h) hs, hparts]
    exact congrArg Except.ok hwritten
  · have hagain := Document.Part.ofMarkup_written hplain hbraces
    obtain ⟨hstatic, hsame⟩ := Document.Part.parts_node hplain
    refine ⟨p.node, hagain, fun settings data => ?_⟩
    rw [Render.template_of_isStatic (Node.isSanitized_of_ofMarkup hagain) hstatic, hsame]
    exact congrArg Except.ok hwritten

/-- A letter with a setting, a banned declaration, a dropped script and a dropped image. -/
def letter : Text :=
  "<meta name='semantic:timezone' content='UTC'>" ++
  "<p STYLE='Color: red; position: absolute' class='a&lt;\"b' data-format='long'>" ++
  "1 < 2<script>x</script> &amp; 3<br></p><img src='x'><img alt='' src='data:,'/>"

def letterTree : Node :=
  .element (.plain "html" []) [
    .element (.plain "meta" [("name", "semantic:timezone"), ("content", "UTC")]) [],
    .element (.plain "p" [("style", "color:red"), ("class", "a<\"b"), ("data-format", "long")]) [
      .text [.literal "1 "], .text [.literal "<"], .text [.literal " 2"], .text [.literal " & 3"],
      .element (.plain "br" []) []],
    .element (.plain "img" [("alt", ""), ("src", "data:,")]) []]

def letterDocument : Text :=
  "<html><p class=\"a&lt;&quot;b\" style=\"color:red\">1 &lt; 2 &amp; 3<br></p>" ++
  "<img alt=\"\" src=\"data:,\"></html>"

/-- The letter shows a document that shows itself. -/
theorem letter_document_shows_itself : Node.ofMarkup letter = .ok letterTree ∧
    letterTree.IsStatic ∧ ¬Segment.openBraces <:+: letterDocument ∧
    (∀ settings data, Render.template (some settings) letterTree data = .ok letterDocument) ∧
    ∃ again, Node.ofMarkup letterDocument = .ok again ∧
      ∀ settings data, Render.template (some settings) again data = .ok letterDocument := by
  have hread : Node.ofMarkup letter = .ok letterTree := by decide +kernel
  have hliteral : ∀ t : Text, (Node.text [.literal t]).IsStatic := by
    refine fun t => .text fun i hi => ?_
    cases List.mem_singleton.1 hi
  have hstatic : letterTree.IsStatic := by
    refine .element (by decide) ?_
    simp only [List.forall_mem_cons]
    refine ⟨.element (by decide) (List.forall_mem_nil _), .element (by decide) ?_,
      .element (by decide) (List.forall_mem_nil _), List.forall_mem_nil _⟩
    simp only [List.forall_mem_cons]
    exact ⟨hliteral _, hliteral _, hliteral _, hliteral _,
      .element (by decide) (List.forall_mem_nil _), List.forall_mem_nil _⟩
  have hshown : Render.template (some .defaults) letterTree .null = .ok letterDocument := by
    decide +kernel
  have hbraces : ¬Segment.openBraces <:+: letterDocument := by decide +kernel
  obtain ⟨out, hout, hagain⟩ := static_document_shows_itself hread hstatic
  obtain rfl : out = letterDocument := Except.ok.inj ((hout .defaults .null).symm.trans hshown)
  exact ⟨hread, hstatic, hbraces, hout, hagain hbraces⟩

end TypedTemplate
