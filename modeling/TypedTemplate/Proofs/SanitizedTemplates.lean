import TypedTemplate.Proofs.Lookup
import TypedTemplate.Proofs.ParsedTemplates
import TypedTemplate.Proofs.StyleText

/-!
# Sanitized templates

Whatever the markup is, a template that is read from it holds known elements with known
attributes only, a style in normal form, images that carry their data, and void elements without
content. Its directives are those that the attributes state, and its interpolations are those
that are read from expressions.
-/
namespace TypedTemplate

namespace Allowed

/-- Attributes as they are kept: each once, all of them known, and a style in normal form. -/
structure AreKept (kept : Attributes) : Prop where
  once : (Keyed.keys kept).Nodup
  known : ∀ name ∈ Keyed.keys kept, name ∈ attributes ∨ name ∈ controlAttributes
  style : ∀ style, Keyed.get? "style" kept = some style → style ≠ [] ∧ Style.sanitize style = style

theorem areKept_nil : AreKept [] := ⟨List.nodup_nil, nofun, nofun⟩

theorem AreKept.set {kept : Attributes} (h : AreKept kept) {name value : Text}
    (hn : name ∈ attributes ∨ name ∈ controlAttributes)
    (hs : name = "style" → value ≠ [] ∧ Style.sanitize value = value) :
    AreKept (Keyed.set name value kept) where
  once := Keyed.nodup_keys_set h.once name value
  known := by
    intro other ho
    rcases Keyed.mem_keys_set.1 ho with rfl | ho
    · exact hn
    · exact h.known other ho
  style := by
    intro style hg
    rw [Keyed.get?_set] at hg
    split at hg
    · rename_i he
      exact Option.some.inj hg ▸ hs he.symm
    · exact h.style style hg

theorem areKept_keepAttribute {kept : Attributes} (h : AreKept kept)
    (given : Text × Option Text) : AreKept (keepAttribute kept given) := by
  unfold keepAttribute
  dsimp only
  split
  · exact h
  · rename_i hknown
    have hn : given.1 ∈ attributes ∨ given.1 ∈ controlAttributes := by
      simpa [or_iff_not_imp_left] using hknown
    split
    · split
      · exact h
      · rename_i hempty
        apply h.set hn
        intro _
        refine ⟨?_, Style.sanitize_sanitize _⟩
        simpa using hempty
    · rename_i hstyle
      apply h.set hn
      intro he
      exact absurd he hstyle

theorem areKept_filterAttributes (given : List (Text × Option Text)) :
    AreKept (filterAttributes given) := by
  have hall : ∀ kept, AreKept kept → AreKept (given.foldl keepAttribute kept) := by
    induction given with
    | nil => exact fun _ h => h
    | cons first rest ih => exact fun kept h => ih _ (areKept_keepAttribute h first)
  exact hall [] areKept_nil

end Allowed

/-- An element as sanitized templates have it. -/
structure Head.IsSanitized (head : Head) : Prop where
  tag_mem : head.tag ∈ Allowed.tags
  attributes : Allowed.AreKept head.attributes
  image : head.tag = "img" → ∃ source, Keyed.get? "src" head.attributes = some source ∧
    "data:".toList <+: source
  directives : Directive.readAll head.attributes = .ok (head.iteration, head.condition)

/-- A part of a template whose elements are all sanitized and whose interpolations have all been
read from expressions. -/
inductive Node.IsSanitized : Node → Prop
  | text {segments : List Segment} :
      (∀ i, .interpolation i ∈ segments → ∃ raw, Expression.read raw = .ok i) →
      IsSanitized (.text segments)
  | element {head : Head} {children : List Node} : head.IsSanitized →
      (head.tag ∈ Allowed.voidTags → children = []) → (∀ n ∈ children, IsSanitized n) →
      IsSanitized (.element head children)

/-- An element that was taken up is sanitized. -/
theorem Allowed.Admits.isSanitized {head : Head}
    (h : Allowed.Admits head.tag head.attributes)
    (hh : Head.ofAttributes head.tag head.attributes = .ok head) : head.IsSanitized where
  tag_mem := h.tag_mem
  attributes := by
    obtain ⟨given, hg⟩ := h.kept
    exact hg ▸ Allowed.areKept_filterAttributes given
  image := by
    intro hi
    have hdata := h.image hi
    cases hs : Keyed.get? "src" head.attributes with
    | none =>
      rw [hs] at hdata
      exact absurd (List.prefix_nil.1 hdata) (by decide)
    | some source =>
      rw [hs] at hdata
      exact ⟨source, rfl, hdata⟩
  directives := (Head.ofAttributes_eq_ok hh).2.2

theorem Node.IsBuilt.isSanitized {n : Node} (h : n.IsBuilt) : n.IsSanitized := by
  induction h with
  | text _ hs => exact .text fun i hi => Segment.exists_read_of_readFrom hs hi
  | element hadmits hh hvoid _ ih =>
    refine .element (hadmits.isSanitized hh) ?_ ih
    intro hv
    apply hvoid
    simpa [Head.isVoid] using hv

mutual

theorem Node.IsSanitized.heads {n : Node} (h : n.IsSanitized) :
    ∀ head ∈ n.heads, head.IsSanitized := by
  cases h with
  | text _ => exact nofun
  | element hh _ hc => exact List.forall_mem_cons.2 ⟨hh, Node.IsSanitized.headsOfList hc⟩

theorem Node.IsSanitized.headsOfList {all : List Node} (h : ∀ n ∈ all, n.IsSanitized) :
    ∀ head ∈ Node.headsOfList all, head.IsSanitized := by
  cases all with
  | nil => exact nofun
  | cons n rest =>
    obtain ⟨hfirst, hrest⟩ := List.forall_mem_cons.1 h
    exact List.forall_mem_append.2
      ⟨Node.IsSanitized.heads hfirst, Node.IsSanitized.headsOfList hrest⟩

end

theorem Node.isSanitized_of_ofMarkup {markup : Text} {root : Node}
    (h : Node.ofMarkup markup = .ok root) : root.IsSanitized :=
  (Node.isBuilt_of_ofMarkup h).1.isSanitized

/-- Whatever markup a template is read from, its root is an `html` element and the whole template
is sanitized. -/
theorem template_is_sanitized {markup : Text} {root : Node} (h : Node.ofMarkup markup = .ok root) :
    (∃ head children, root = .element head children ∧ head.tag = "html") ∧ root.IsSanitized := by
  have hhtml := (Node.isBuilt_of_ofMarkup h).2
  exact ⟨hhtml, Node.isSanitized_of_ofMarkup h⟩

def hostileMarkup : Text := String.toList <| "<p onclick='f()' style='color: red; float: left'>"
  ++ "\x7b\x7bx:string\x7d\x7d</p><script><p>x</p></script>"
  ++ "<img src='a.gif'><img src='data:x'/><br>end"

def keptOfHostileMarkup : List (Text × Attributes) := [
  ("html", []), ("p", [("style", "color:red")]), ("img", [("src", "data:x")]), ("br", [])]

/-- A template that is read from hostile markup is sanitized. -/
theorem hostile_template_is_sanitized : ∃ root, Node.ofMarkup hostileMarkup = .ok root ∧
    root.IsSanitized ∧
    root.heads.map (fun head => (head.tag, head.attributes)) = keptOfHostileMarkup := by
  have hread : Fault.succeedsWith (fun root => decide (
      root.heads.map (fun head => (head.tag, head.attributes)) = keptOfHostileMarkup))
      (Node.ofMarkup hostileMarkup) = true := by
    decide +kernel
  obtain ⟨root, hm, hroot⟩ := Fault.exists_of_succeedsWith hread
  exact ⟨root, hm, (template_is_sanitized hm).2, of_decide_eq_true hroot⟩

end TypedTemplate
