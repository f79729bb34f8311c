import TypedTemplate.Proofs.ReadBack
import TypedTemplate.Proofs.SanitizedTemplates
import TypedTemplate.Proofs.TextSegments

/-!
# Documents as trees

A document is a tree of texts and elements, written as a row of tokens. Where its elements are
known and their attributes are as the builder keeps them, no text is blank, no two texts stand
side by side and no braces are doubled, markup that is written of the tree is read back as a
template of exactly these elements and texts.
-/
namespace TypedTemplate

namespace Allowed

theorem AreKept.filterAttributes_given {kept : Attributes} (h : AreKept kept) :
    filterAttributes (Token.given kept) = kept := by
  have hall : ∀ more before : Attributes, before ++ more = kept →
      (Token.given more).foldl keepAttribute before = kept := by
    intro more
    induction more with
    | nil => exact fun before hb => (List.append_nil before).symm.trans hb
    | cons entry rest ih =>
      intro before hb
      obtain ⟨name, value⟩ := entry
      have hmem : (name, value) ∈ kept := hb ▸ List.mem_append_right _ List.mem_cons_self
      have hknown := h.known name (List.mem_map_of_mem hmem)
      have hnew : name ∉ Keyed.keys before := by
        have honce := h.once
        rw [← hb, Keyed.keys, List.map_append, List.nodup_append] at honce
        exact fun hm => honce.2.2 name hm name List.mem_cons_self rfl
      have hstep : keepAttribute before (name, some value) = before ++ [(name, value)] := by
        rw [← Keyed.set_of_not_mem hnew value]
        unfold keepAttribute
        dsimp only [Option.getD_some]
        rw [if_neg (by simpa [or_iff_not_imp_left] using hknown)]
        split
        · rename_i hstyle
          obtain ⟨hne, hsame⟩ := h.style value (Keyed.get?_of_mem h.once (hstyle ▸ hmem))
          rw [hsame, if_neg (by simpa using hne), hstyle]
        · rfl
      change (Token.given rest).foldl keepAttribute (keepAttribute before (name, some value)) = kept
      rw [hstep]
      exact ih _ (by rw [List.append_assoc]; exact hb)
  exact hall kept [] rfl

/-- Attributes in the order in which documents show them: none that steers the template, and the
style last. -/
def arrange (kept : Attributes) : Attributes :=
  kept.filter (fun e => !controlAttributes.contains e.1 && e.1 != "style".toList) ++
    kept.filter fun e => e.1 == "style".toList

theorem arrange_arrange (kept : Attributes) : arrange (arrange kept) = arrange kept := by
  have hplain : ∀ e ∈ kept.filter fun e => e.1 == "style".toList,
      ¬(!controlAttributes.contains e.1 && e.1 != "style".toList) = true := by
    intro e he
    have hstyle := (List.mem_filter.1 he).2
    simp [eq_of_beq hstyle]
  have hstyle : ∀ e ∈ kept.filter fun e =>
      !controlAttributes.contains e.1 && e.1 != "style".toList,
      ¬(e.1 == "style".toList) = true := by
    intro e he
    have hother := (List.mem_filter.1 he).2
    rw [Bool.and_eq_true, bne_iff_ne] at hother
    simpa using hother.2
  unfold arrange
  rw [List.filter_append, List.filter_append, List.filter_eq_nil_iff.2 hplain,
    List.filter_eq_nil_iff.2 hstyle, List.append_nil, List.nil_append, List.filter_filter,
    List.filter_filter]
  simp only [Bool.and_self]

theorem get?_arrange {name : Text} (h : name ∉ controlAttributes) (kept : Attributes) :
    Keyed.get? name (arrange kept) = Keyed.get? name kept := by
  have hplain := Keyed.get?_filter (fun n => !controlAttributes.contains n && n != "style".toList)
    name kept
  have hstyle := Keyed.get?_filter (fun n => n == "style".toList) name kept
  rw [arrange, Keyed.get?_append, hplain, hstyle]
  by_cases hname : name = "style".toList
  · simp [hname]
  · have hshown : (!controlAttributes.contains name && name != "style".toList) = true := by
      rw [Bool.and_eq_true, bne_iff_ne]
      exact ⟨by simpa using h, hname⟩
    rw [if_pos hshown, if_neg (beq_eq_false_iff_ne.2 hname ▸ Bool.false_ne_true), Option.or_none]

end Allowed

namespace Head

/-- An element that is repeated by no directive, shown under no condition and breaks no page. -/
structure IsStatic (head : Head) : Prop where
  directives : ∀ name ∈ ["data-page".toList, "data-repeat".toList, "data-if".toList],
    head.valueOf name = []
  breaks : ∀ name ∈ ["data-break-before".toList, "data-break-after".toList],
    head.valueOf name = []

instance (head : Head) : Decidable head.IsStatic :=
  decidable_of_iff
    ((∀ name ∈ ["data-page".toList, "data-repeat".toList, "data-if".toList],
        head.valueOf name = []) ∧
      ∀ name ∈ ["data-break-before".toList, "data-break-after".toList], head.valueOf name = [])
    ⟨fun h => ⟨h.1, h.2⟩, fun h => ⟨h.directives, h.breaks⟩⟩

def plain (name : Text) (attributes : Attributes) : Head := ⟨name, attributes, none, none⟩

theorem isStatic_plain (name : Text) {attributes : Attributes}
    (h : ∀ name ∈ Keyed.keys attributes, name ∈ Allowed.attributes) :
    (plain name attributes).IsStatic := by
  have habsent : ∀ other ∈ Allowed.controlAttributes,
      (plain name attributes).valueOf other = [] := by
    intro other ho
    have hunknown : ∀ other ∈ Allowed.controlAttributes, other ∉ Allowed.attributes := by decide
    have hnone : Keyed.get? other attributes = none :=
      Keyed.get?_eq_none_iff.2 fun hm => hunknown other ho (h other hm)
    rw [valueOf, plain, hnone]
    rfl
  constructor
  · intro other ho
    apply habsent
    revert other
    decide
  · intro other ho
    apply habsent
    revert other
    decide

theorem IsStatic.readAll {head : Head} (h : head.IsStatic) :
    Directive.readAll head.attributes = .ok (none, none) := by
  have hkind : ∀ kind, Directive.readKind head.attributes kind = .ok none := by
    intro kind
    apply (Directive.readKind_eq_none_iff _ _).2
    cases kind with
    | page => exact h.directives "data-page" (by decide)
    | row => exact h.directives "data-repeat" (by decide)
  have hcondition : Directive.readCondition head.attributes = .ok none := by
    have hif : (Keyed.get? "data-if" head.attributes).getD [] = [] :=
      h.directives "data-if" (by decide)
    rw [Directive.readCondition, hif]
    rfl
  exact Directive.readAll_eq_ok_iff.2 ⟨.inr ⟨hkind .page, hkind .row⟩, hcondition⟩

theorem ofAttributes_plain {name : Text} {attributes : Attributes}
    (h : (plain name attributes).IsStatic) :
    ofAttributes name attributes = .ok (plain name attributes) := by
  have hread : Directive.readAll attributes = .ok (none, none) := h.readAll
  rw [ofAttributes, hread]
  rfl

end Head

namespace Document

/-- A part of a document: a text, or an element with its attributes in order. -/
inductive Part where
  | text (t : Text)
  | element (name : Text) (attributes : Keyed Text) (children : List Part)

namespace Part

mutual

def tokens : Part → List Token
  | .text t => [.text t]
  | .element name attributes children =>
    .start name (Token.given attributes) false ::
      if Allowed.voidTags.contains name then [] else tokensOfList children ++ [.finish name]

def tokensOfList : List Part → List Token
  | [] => []
  | p :: rest => tokens p ++ tokensOfList rest

end

def written (p : Part) : Text := p.tokens.flatMap Token.written

def writtenOfList (all : List Part) : Text := (tokensOfList all).flatMap Token.written

mutual

def draft : Part → Draft
  | .text t => .text [.literal t]
  | .element name attributes children => .element name attributes (draftOfList children)

def draftOfList : List Part → List Draft
  | [] => []
  | p :: rest => draft p :: draftOfList rest

end

mutual

def node : Part → Node
  | .text t => .text [.literal t]
  | .element name attributes children => .element (.plain name attributes) (nodeOfList children)

def nodeOfList : List Part → List Node
  | [] => []
  | p :: rest => node p :: nodeOfList rest

end

def isText : Part → Bool
  | .text _ => true
  | .element .. => false

def AreSpaced (all : List Part) : Prop :=
  all.IsChain fun first second => first.isText = true → second.isText = false

/-- Attributes of an element of a known name, as documents show them. -/
structure Admits (name : Text) (attributes : Keyed Text) : Prop where
  tag_mem : name ∈ Allowed.tags
  shown : name ≠ "meta"
  known : ∀ name ∈ Keyed.keys attributes, name ∈ Allowed.attributes
  kept : Allowed.AreKept attributes
  arranged : Allowed.arrange attributes = attributes
  image : name = "img" → "data:".toList <+: (Keyed.get? "src" attributes).getD []

/-- A part of a document as it is shown of a template. -/
inductive IsPlain : Part → Prop
  | text {t : Text} : t.isBlank = false → IsPlain (.text t)
  | element {name : Text} {attributes : Keyed Text} {children : List Part} :
      Admits name attributes → (name ∈ Allowed.voidTags → children = []) → AreSpaced children →
      (∀ p ∈ children, IsPlain p) → IsPlain (.element name attributes children)

mutual

theorem isReadable_of_mem_tokens {p : Part} (hp : p.IsPlain) :
    ∀ token ∈ p.tokens, token.IsReadable := by
  cases hp with
  | text ht =>
    intro token hm
    obtain rfl := List.mem_singleton.1 hm
    refine .text ?_
    rintro rfl
    cases ht
  | element ha _ _ hc =>
    rw [tokens]
    refine List.forall_mem_cons.2 ⟨.start ha.tag_mem fun name hn => ?_, ?_⟩
    · exact Text.isName_of_known (List.mem_append_right _ (ha.known name hn))
    · split
      · exact nofun
      · refine List.forall_mem_append.2 ⟨isReadable_of_mem_tokensOfList hc, ?_⟩
        exact List.forall_mem_singleton.2 (.finish ha.tag_mem)

theorem isReadable_of_mem_tokensOfList {all : List Part} (hp : ∀ p ∈ all, p.IsPlain) :
    ∀ token ∈ tokensOfList all, token.IsReadable := by
  cases all with
  | nil => exact nofun
  | cons p rest =>
    obtain ⟨hfirst, hrest⟩ := List.forall_mem_cons.1 hp
    exact List.forall_mem_append.2
      ⟨isReadable_of_mem_tokens hfirst, isReadable_of_mem_tokensOfList hrest⟩

end

mutual

theorem areSpaced_tokens {p : Part} (hp : p.IsPlain) {more : List Token}
    (hm : Token.AreSpaced more)
    (hnext : p.isText = true → ∀ token ∈ more.head?, token.isText = false) :
    Token.AreSpaced (p.tokens ++ more) := by
  cases hp with
  | text _ => exact List.isChain_cons.2 ⟨fun token ht _ => hnext rfl token ht, hm⟩
  | element _ _ hs hc =>
    rw [tokens, List.cons_append]
    refine List.isChain_cons.2 ⟨fun _ _ => nofun, ?_⟩
    split
    · exact hm
    · rw [List.append_assoc]
      refine areSpaced_tokensOfList hc hs (List.isChain_cons.2 ⟨fun _ _ => nofun, hm⟩) ?_
      intro token ht
      cases ht
      rfl

theorem areSpaced_tokensOfList {all : List Part} (hp : ∀ p ∈ all, p.IsPlain) (hs : AreSpaced all)
    {more : List Token} (hm : Token.AreSpaced more)
    (hnext : ∀ token ∈ more.head?, token.isText = false) :
    Token.AreSpaced (tokensOfList all ++ more) := by
  cases all with
  | nil => exact hm
  | cons p rest =>
    obtain ⟨hfirst, hrest⟩ := List.forall_mem_cons.1 hp
    obtain ⟨hapart, hspaced⟩ := List.isChain_cons.1 hs
    rw [tokensOfList, List.append_assoc]
    refine areSpaced_tokens hfirst (areSpaced_tokensOfList hrest hspaced hm hnext) ?_
    intro ht token hhead
    cases rest with
    | nil => exact hnext token hhead
    | cons second others =>
      have hsecond := hapart second rfl ht
      cases second with
      | text _ => cases hsecond
      | element _ _ _ =>
        cases hhead
        rfl

end

theorem readAll_written {p : Part} (hp : p.IsPlain) : Token.readAll p.written = p.tokens := by
  refine Token.readAll_flatMap_written (isReadable_of_mem_tokens hp) ?_
  rw [← List.append_nil p.tokens]
  exact areSpaced_tokens hp List.isChain_nil nofun

end Part
end Document

theorem Reference.openBraces_infix_escape {t : Text} (h : Segment.openBraces <:+: t) :
    Segment.openBraces <:+: escape t := by
  obtain ⟨before, after, rfl⟩ := h
  rw [escape_append, escape_append]
  exact List.infix_append _ _ _

namespace Builder

def addAll (b : Builder) (all : List Draft) : Builder := all.foldl (fun b child => b.add child) b

theorem add_ignored (b : Builder) (child : Draft) : (b.add child).ignored = b.ignored := by
  unfold add
  split <;> rfl

/-- Parts are added to the innermost open element. -/
theorem addAll_open (e : OpenElement) (outer : List OpenElement) (top : List Draft) (ignored : Nat)
    (all : List Draft) :
    addAll ⟨e :: outer, top, ignored⟩ all =
      ⟨⟨e.tag, e.attributes, all.reverse ++ e.children⟩ :: outer, top, ignored⟩ := by
  induction all generalizing e with
  | nil => rfl
  | cons d rest ih =>
    change addAll ⟨e.add d :: outer, top, ignored⟩ rest = _
    rw [ih]
    simp [OpenElement.add]

theorem finish_open (e : OpenElement) (b : Builder) (hi : b.ignored = 0) :
    finish e.tag { b with stack := e :: b.stack } = b.add e.close := by
  unfold finish
  rw [if_neg (by simp [hi]), if_pos (by simp)]
  unfold add
  cases hs : b.stack with
  | nil => simp [closeThrough]
  | cons parent others => simp [closeThrough]

end Builder

namespace Document.Part

theorem written_text (t : Text) : (Part.text t).written = Reference.escape t :=
  List.flatMap_singleton ..

theorem writtenOfList_cons (p : Part) (rest : List Part) :
    writtenOfList (p :: rest) = p.written ++ writtenOfList rest :=
  List.flatMap_append

theorem writtenOfList_append (all more : List Part) :
    writtenOfList (all ++ more) = writtenOfList all ++ writtenOfList more := by
  induction all with
  | nil => rfl
  | cons p rest ih =>
    rw [List.cons_append, writtenOfList_cons, writtenOfList_cons, ih, List.append_assoc]

theorem written_element (name : Text) (attributes : Keyed Text) (children : List Part) :
    (Part.element name attributes children).written =
      Token.written (.start name (Token.given attributes) false) ++
        if Allowed.voidTags.contains name then []
        else writtenOfList children ++ Token.written (.finish name) := by
  rw [written, tokens, List.flatMap_cons]
  cases Allowed.voidTags.contains name with
  | true => rfl
  | false =>
    rw [if_neg Bool.false_ne_true, if_neg Bool.false_ne_true, List.flatMap_append,
      List.flatMap_singleton]
    rfl

theorem infix_writtenOfList (name : Text) (attributes : Keyed Text) {children : List Part}
    (h : name ∉ Allowed.voidTags) :
    writtenOfList children <:+: (Part.element name attributes children).written := by
  rw [written_element, if_neg (by simpa using h), ← List.append_assoc]
  exact List.infix_append _ _ _

theorem start_given {name : Text} {attributes : Keyed Text} (h : Admits name attributes)
    {b : Builder} (hi : b.ignored = 0) :
    b.start name (Token.given attributes) false =
      if Allowed.voidTags.contains name then b.add (.element name attributes [])
      else { b with stack := ⟨name, attributes, []⟩ :: b.stack } := by
  have himage : ¬(name = "img".toList ∧
      (!"data:".toList.isPrefixOf ((Keyed.get? "src" attributes).getD [])) = true) := by
    rintro ⟨hname, hsource⟩
    rw [List.isPrefixOf_iff_prefix.2 (h.image hname)] at hsource
    cases hsource
  unfold Builder.start
  dsimp only
  rw [if_neg (by simp [hi]), if_neg (by simpa using h.tag_mem), h.kept.filterAttributes_given,
    if_neg himage, Bool.false_or]

theorem text_of_plain {t : Text} (ht : t.isBlank = false) (hb : ¬Segment.openBraces <:+: t)
    {b : Builder} (hi : b.ignored = 0) : b.text t = .ok (b.add (.text [.literal t])) := by
  have hne : t ≠ [] := by
    rintro rfl
    cases ht
  rw [Builder.text, if_neg (by simp [hi, ht]), Segment.readAll_of_no_braces hne hb]
  rfl

mutual

/-- The tokens of a part add that part, whatever the builder holds. -/
theorem takeAll_tokens {p : Part} (hp : p.IsPlain) (hb : ¬Segment.openBraces <:+: p.written)
    {b : Builder} (hi : b.ignored = 0) (more : List Token) :
    b.takeAll (p.tokens ++ more) = (b.add p.draft).takeAll more := by
  cases hp with
  | text ht =>
    rename_i t
    rw [written_text] at hb
    have htake : b.take (.text t) = .ok (b.add (.text [.literal t])) :=
      text_of_plain ht (fun h => hb (Reference.openBraces_infix_escape h)) hi
    rw [tokens, List.singleton_append, Builder.takeAll, htake]
    rfl
  | element ha hv _ hc =>
    rename_i name attributes children _
    have hstart := start_given ha hi
    rw [tokens, List.cons_append, Builder.takeAll, Builder.take, hstart]
    by_cases hvoid : name ∈ Allowed.voidTags
    · rw [hv hvoid, if_pos (by simpa using hvoid), if_pos (by simpa using hvoid)]
      rfl
    · have hinner : ¬Segment.openBraces <:+: writtenOfList children := fun h =>
        hb (h.trans (infix_writtenOfList name attributes hvoid))
      let opened : Builder := ⟨⟨name, attributes, []⟩ :: b.stack, b.top, b.ignored⟩
      let e : OpenElement := ⟨name, attributes, (draftOfList children).reverse⟩
      have hadded : opened.addAll (draftOfList children) = { b with stack := e :: b.stack } := by
        rw [Builder.addAll_open, List.append_nil]
      have hclose : e.close = (Part.element name attributes children).draft := by
        rw [OpenElement.close, List.reverse_reverse]
        rfl
      rw [if_neg (by simpa using hvoid), if_neg (by simpa using hvoid), List.append_assoc]
      calc opened.takeAll (tokensOfList children ++ (Token.finish name :: more))
          = (opened.addAll (draftOfList children)).takeAll (.finish name :: more) :=
            takeAll_tokensOfList hc hinner (b := opened) hi _
        _ = (Builder.finish name { b with stack := e :: b.stack }).takeAll more := by
            rw [hadded]
            rfl
        _ = (b.add (Part.element name attributes children).draft).takeAll more := by
            rw [Builder.finish_open e b hi, hclose]

theorem takeAll_tokensOfList {all : List Part} (hp : ∀ p ∈ all, p.IsPlain)
    (hb : ¬Segment.openBraces <:+: writtenOfList all) {b : Builder} (hi : b.ignored = 0)
    (more : List Token) :
    b.takeAll (tokensOfList all ++ more) = (b.addAll (draftOfList all)).takeAll more := by
  cases all with
  | nil => rfl
  | cons p rest =>
    obtain ⟨hfirst, hrest⟩ := List.forall_mem_cons.1 hp
    rw [writtenOfList_cons] at hb
    have hleft : ¬Segment.openBraces <:+: p.written := fun h =>
      hb (h.trans (List.prefix_append _ _).isInfix)
    have hright : ¬Segment.openBraces <:+: writtenOfList rest := fun h =>
      hb (h.trans (List.suffix_append _ _).isInfix)
    rw [tokensOfList, List.append_assoc, takeAll_tokens hfirst hleft hi,
      takeAll_tokensOfList hrest hright ((Builder.add_ignored b _).trans hi)]
    rfl

end

mutual

theorem toNode_draft {p : Part} (hp : p.IsPlain) : p.draft.toNode = .ok p.node := by
  cases hp with
  | text _ => rfl
  | element ha _ _ hc =>
    rename_i name attributes children _ _
    have hhead := Head.ofAttributes_plain (Head.isStatic_plain name ha.known)
    rw [draft, Draft.toNode, toNodes_draftOfList hc]
    exact Fault.bind_eq_ok_iff.2 ⟨_, rfl, Fault.bind_eq_ok_iff.2 ⟨_, hhead, rfl⟩⟩

theorem toNodes_draftOfList {all : List Part} (hp : ∀ p ∈ all, p.IsPlain) :
    Draft.toNodes (draftOfList all) = .ok (nodeOfList all) := by
  cases all with
  | nil => rfl
  | cons p rest =>
    obtain ⟨hfirst, hrest⟩ := List.forall_mem_cons.1 hp
    rw [draftOfList, Draft.toNodes, toNode_draft hfirst, toNodes_draftOfList hrest]
    rfl

end

/-- A document in which no braces are doubled is read back as the tree that it was written of. -/
theorem ofMarkup_written {attributes : Keyed Text} {children : List Part}
    (hp : (Part.element "html" attributes children).IsPlain)
    (hb : ¬Segment.openBraces <:+: (Part.element "html" attributes children).written) :
    Node.ofMarkup (Part.element "html" attributes children).written =
      .ok (Part.element "html" attributes children).node := by
  have htaken := takeAll_tokens hp hb (b := .empty) rfl []
  rw [List.append_nil] at htaken
  rw [Node.ofMarkup, readAll_written hp, htaken]
  exact toNode_draft hp

end Document.Part
end TypedTemplate
