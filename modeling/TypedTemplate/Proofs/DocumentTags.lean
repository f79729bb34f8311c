import TypedTemplate.Markup.Allowed
import TypedTemplate.Markup.Reference

/-!
# Tags of a document

A document is cut into its tags and the texts between them: a tag goes from an opening angle
bracket to the next closing one. Where a document is put together from tags and from texts
without markup, the cut finds exactly these tags, and every text between them is without markup.
What is shown of a template are balanced tags of known elements with known attributes.
-/
namespace TypedTemplate.Document

mutual

/-- The text that a document begins with, and every tag with the text after it. -/
def outside : Text → Text × List (Text × Text)
  | [] => ([], [])
  | c :: rest =>
    if c = '<' then
      let (tag, after) := inside rest
      ([], (c :: tag, after.1) :: after.2)
    else
      let (t, tagged) := outside rest
      (c :: t, tagged)

/-- The rest of a tag, and what comes after it. -/
def inside : Text → Text × Text × List (Text × Text)
  | [] => ([], [], [])
  | c :: rest =>
    if c = '>' then ([c], outside rest)
    else
      let (tag, after) := inside rest
      (c :: tag, after)

end

/-- The tags of a document, each with its angle brackets. -/
def tags (document : Text) : List Text := (outside document).2.map (·.1)

def texts (document : Text) : List Text :=
  (outside document).1 :: (outside document).2.map (·.2)

theorem outside_append_text {t : Text} (h : '<' ∉ t) (rest : Text) :
    outside (t ++ rest) = (t ++ (outside rest).1, (outside rest).2) := by
  induction t with
  | nil => rfl
  | cons c t ih =>
    rw [List.mem_cons, not_or] at h
    rw [List.cons_append, outside, if_neg (Ne.symm h.1), ih h.2]
    rfl

theorem inside_append {body : Text} (h : '>' ∉ body) (rest : Text) :
    inside (body ++ '>' :: rest) = (body ++ ['>'], outside rest) := by
  induction body with
  | nil => rfl
  | cons c body ih =>
    rw [List.mem_cons, not_or] at h
    rw [List.cons_append, inside, if_neg (Ne.symm h.1), ih h.2]
    rfl

def IsTag (tag : Text) : Prop := ∃ body, '>' ∉ body ∧ tag = '<' :: body ++ ['>']

theorem outside_append_tag {tag : Text} (h : IsTag tag) (rest : Text) :
    outside (tag ++ rest) = ([], (tag, (outside rest).1) :: (outside rest).2) := by
  obtain ⟨body, hbody, rfl⟩ := h
  have hcut : '<' :: body ++ ['>'] ++ rest = '<' :: (body ++ '>' :: rest) := by simp
  rw [hcut, outside, if_pos rfl, inside_append hbody]
  rfl

def references : List Text := ["&amp;", "&lt;", "&gt;", "&quot;", "&#x27;"]

/-- A text without markup: no angle brackets, no quotes, and an ampersand only where a reference
begins. -/
structure IsInert (t : Text) : Prop where
  plain : ∀ c ∈ t, c ∉ ['<', '>', '"', '\'']
  referring : ∀ before after, t = before ++ '&' :: after →
    ∃ reference ∈ references, reference <+: '&' :: after

theorem isInert_nil : IsInert [] := by
  refine ⟨nofun, ?_⟩
  intro before after h
  cases before <;> cases h

theorem IsInert.append {t u : Text} (ht : IsInert t) (hu : IsInert u) : IsInert (t ++ u) where
  plain := by
    intro c hc
    exact (List.mem_append.1 hc).elim (ht.plain c) (hu.plain c)
  referring := by
    intro before after h
    -- The ampersand stands in the second text, or in the first, and then the second text only
    -- makes longer what follows it.
    rcases List.append_eq_append_iff.1 h with ⟨middle, rfl, hu'⟩ | ⟨middle, ht', hafter⟩
    · exact hu.referring middle after hu'
    · cases middle with
      | nil => exact hu.referring [] after hafter.symm
      | cons c middle =>
        obtain ⟨rfl, rfl⟩ := List.cons.inj hafter
        obtain ⟨reference, hr, hprefix⟩ := ht.referring before middle ht'
        exact ⟨reference, hr, hprefix.trans (List.prefix_append _ u)⟩

theorem isInert_of_mem_references {reference : Text} (h : reference ∈ references) :
    IsInert reference := by
  have hall : ∀ reference ∈ references,
      reference.all (fun c => decide (c ∉ ['<', '>', '"', '\''])) = true ∧
        '&' ∉ reference.tail := by decide
  obtain ⟨hplain, htail⟩ := hall reference h
  constructor
  · intro c hc
    simpa using List.all_eq_true.1 hplain c hc
  · intro before after he
    cases before with
    | nil => exact ⟨reference, h, he ▸ List.prefix_rfl⟩
    | cons c before =>
      rw [he] at htail
      exact absurd (List.mem_append_right before List.mem_cons_self) htail

theorem isInert_escapeChar (c : Char) : IsInert (Reference.escapeChar c) := by
  by_cases h : c ∈ ['&', '<', '>', '"', '\'']
  · have hreference : Reference.escapeChar c ∈ references := by
      simp only [List.mem_cons, List.not_mem_nil, or_false] at h
      rcases h with rfl | rfl | rfl | rfl | rfl <;> decide
    exact isInert_of_mem_references hreference
  · simp only [List.mem_cons, List.not_mem_nil, or_false, not_or] at h
    obtain ⟨hamp, hlt, hgt, hquote, hapostrophe⟩ := h
    have hself : Reference.escapeChar c = [c] := by
      simp [Reference.escapeChar, hamp, hlt, hgt, hquote, hapostrophe]
    rw [hself]
    constructor
    · simp [hlt, hgt, hquote, hapostrophe]
    · intro before after he
      have hmem : '&' ∈ [c] := he ▸ List.mem_append_right before List.mem_cons_self
      exact absurd (List.mem_singleton.1 hmem).symm hamp

theorem isInert_escape (t : Text) : IsInert (Reference.escape t) := by
  induction t with
  | nil => exact isInert_nil
  | cons c t ih =>
    rw [Reference.escape, List.flatMap_cons]
    exact (isInert_escapeChar c).append ih

/-- A document put together from some tags, in this order, and from texts without markup. -/
inductive Consists : List Text → Text → Prop
  | nil : Consists [] []
  | text {t rest : Text} {tags : List Text} :
      IsInert t → Consists tags rest → Consists tags (t ++ rest)
  | tag {tag rest : Text} {tags : List Text} :
      IsTag tag → Consists tags rest → Consists (tag :: tags) (tag ++ rest)

namespace Consists

variable {first second : List Text} {document more : Text}

theorem append (h : Consists first document) (hm : Consists second more) :
    Consists (first ++ second) (document ++ more) := by
  induction h with
  | nil => exact hm
  | text ht _ ih =>
    rw [List.append_assoc]
    exact .text ht ih
  | tag ht _ ih =>
    rw [List.append_assoc]
    exact .tag ht ih

theorem of_isInert (h : IsInert document) : Consists [] document := by
  have hlast := Consists.text h .nil
  rwa [List.append_nil] at hlast

theorem of_isTag (h : IsTag document) : Consists [document] document := by
  have hlast := Consists.tag h .nil
  rwa [List.append_nil] at hlast

/-- The cut finds the tags from which a document was put together. -/
theorem tags_eq (h : Consists first document) : tags document = first := by
  induction h with
  | nil => rfl
  | text ht _ ih =>
    have hopen : '<' ∉ _ := fun hm => absurd (ht.plain '<' hm) (by decide)
    rw [tags, outside_append_text hopen]
    exact ih
  | tag ht _ ih =>
    rw [tags, outside_append_tag ht, List.map_cons]
    exact congrArg _ ih

theorem isInert_of_mem_texts (h : Consists first document) : ∀ t ∈ texts document, IsInert t := by
  induction h with
  | nil =>
    intro t ht
    exact List.mem_singleton.1 ht ▸ isInert_nil
  | text ht _ ih =>
    have hopen : '<' ∉ _ := fun hm => absurd (ht.plain '<' hm) (by decide)
    obtain ⟨hfirst, hothers⟩ := List.forall_mem_cons.1 ih
    rw [texts, outside_append_text hopen]
    exact List.forall_mem_cons.2 ⟨ht.append hfirst, hothers⟩
  | tag ht _ ih =>
    rw [texts, outside_append_tag ht, List.map_cons]
    exact List.forall_mem_cons.2 ⟨isInert_nil, ih⟩

end Consists

def writeEntry (entry : Text × Text) : Text := ' ' :: (entry.1 ++ "=\"" ++ entry.2 ++ "\"")

def startTag (name : Text) (attributes : Keyed Text) : Text :=
  '<' :: name ++ attributes.flatMap writeEntry ++ ['>']

def endTag (name : Text) : Text := "</" ++ name ++ ['>']

/-- Attributes as documents show them: each once, known, none that steers the template, and no
value with markup. -/
structure AreShown (attributes : Keyed Text) : Prop where
  once : (Keyed.keys attributes).Nodup
  allowed : ∀ name ∈ Keyed.keys attributes,
    name ∈ Allowed.attributes ∧ name ∉ Allowed.controlAttributes
  inert : ∀ entry ∈ attributes, IsInert entry.2

theorem AreShown.append {attributes : Keyed Text} (h : AreShown attributes) {name value : Text}
    (hn : name ∉ Keyed.keys attributes)
    (ha : name ∈ Allowed.attributes ∧ name ∉ Allowed.controlAttributes) (hv : IsInert value) :
    AreShown (attributes ++ [(name, value)]) where
  once := by
    rw [Keyed.keys, List.map_append]
    refine List.nodup_append.2 ⟨h.once, List.pairwise_singleton _ name, ?_⟩
    intro other ho last hl he
    obtain rfl : last = name := List.mem_singleton.1 hl
    exact hn (he ▸ ho)
  allowed := by
    intro other ho
    rw [Keyed.keys, List.map_append] at ho
    rcases List.mem_append.1 ho with ho | ho
    · exact h.allowed other ho
    · exact List.mem_singleton.1 ho ▸ ha
  inert := by
    intro entry he
    rcases List.mem_append.1 he with he | he
    · exact h.inert entry he
    · exact List.mem_singleton.1 he ▸ hv

/-- A start tag of a known element that is shown. -/
structure IsStartTag (name tag : Text) : Prop where
  known : name ∈ Allowed.tags
  shown : name ≠ "meta"
  written : ∃ attributes, AreShown attributes ∧ tag = startTag name attributes

/-- Tags of which each end tag closes the last start tag that is open, and all are closed in the
end. Start tags of void elements stand alone. -/
inductive IsBalanced : List Text → Prop
  | nil : IsBalanced []
  | void {name tag : Text} {rest : List Text} : name ∈ Allowed.voidTags → IsStartTag name tag →
      IsBalanced rest → IsBalanced (tag :: rest)
  | element {name tag : Text} {inner rest : List Text} : name ∉ Allowed.voidTags →
      IsStartTag name tag → IsBalanced inner → IsBalanced rest →
      IsBalanced (tag :: inner ++ endTag name :: rest)

theorem IsBalanced.append {first second : List Text} (hf : IsBalanced first)
    (hs : IsBalanced second) : IsBalanced (first ++ second) := by
  induction hf with
  | nil => exact hs
  | void hv ht _ ih => exact .void hv ht ih
  | element hv ht hi _ _ ih =>
    have hnext := IsBalanced.element hv ht hi ih
    simpa using hnext

theorem not_mem_of_known {name : Text} (h : name ∈ Allowed.tags ++ Allowed.attributes) :
    '>' ∉ name := by
  revert name
  decide

theorem IsStartTag.isTag {name tag : Text} (h : IsStartTag name tag) : IsTag tag := by
  obtain ⟨attributes, ha, rfl⟩ := h.written
  refine ⟨_, ?_, rfl⟩
  have hname := not_mem_of_known (List.mem_append_left _ h.known)
  have hentries : '>' ∉ attributes.flatMap writeEntry := by
    intro hm
    obtain ⟨entry, he, hm⟩ := List.mem_flatMap.1 hm
    have hknown := (ha.allowed entry.1 (List.mem_map_of_mem he)).1
    have hkey := not_mem_of_known (List.mem_append_right Allowed.tags hknown)
    have hvalue : '>' ∉ entry.2 := fun hv => absurd ((ha.inert entry he).plain _ hv) (by decide)
    simp [writeEntry, hkey, hvalue] at hm
  simp [hname, hentries]

theorem isTag_endTag {name : Text} (h : name ∈ Allowed.tags) : IsTag (endTag name) := by
  refine ⟨'/' :: name, ?_, rfl⟩
  simpa using not_mem_of_known (List.mem_append_left _ h)

end TypedTemplate.Document
