import TypedTemplate.Markup.Builder

/-!
# Dropped elements

Inside a dropped element the builder counts tags without their names. Well-formed content gives
back every level that it takes, but for its void elements: the builder knows the four that
templates may hold, and waits for the end tag of any other one. So an element is dropped alone
exactly when it, and its content, write no other void element without a slash.
-/
namespace TypedTemplate

/-- A piece of HTML: a text, a tag without an end tag, or an element with its content. -/
inductive Fragment where
  | text (t : Text)
  | lone (tag : Text) (attributes : List (Text × Option Text)) (selfClosing : Bool)
  | element (tag : Text) (attributes : List (Text × Option Text)) (content : List Fragment)

namespace Fragment

/-- The elements that HTML writes without an end tag. -/
def voidTags : List Text := [
  "area", "base", "br", "col", "embed", "hr", "img", "input", "link", "meta", "param", "source",
  "track", "wbr"]

def tag? : Fragment → Option Text
  | .text _ => none
  | .lone tag .. => some tag
  | .element tag .. => some tag

mutual

def tokens : Fragment → List Token
  | .text t => [.text t]
  | .lone tag attributes selfClosing => [.start tag attributes selfClosing]
  | .element tag attributes content =>
    .start tag attributes false :: tokensOfList content ++ [.finish tag]

def tokensOfList : List Fragment → List Token
  | [] => []
  | f :: rest => tokens f ++ tokensOfList rest

end

mutual

/-- Whether exactly the void elements, and the tags closed by a slash, have no end tag. -/
def isWellFormed : Fragment → Bool
  | .text _ => true
  | .lone tag _ selfClosing => selfClosing || voidTags.contains tag
  | .element tag _ content => !voidTags.contains tag && areWellFormed content

def areWellFormed : List Fragment → Bool
  | [] => true
  | f :: rest => isWellFormed f && areWellFormed rest

end

mutual

/-- The tags without an end tag, each with whether a slash closes it. -/
def loneTags : Fragment → List (Text × Bool)
  | .text _ => []
  | .lone tag _ selfClosing => [(tag, selfClosing)]
  | .element _ _ content => loneTagsOfList content

def loneTagsOfList : List Fragment → List (Text × Bool)
  | [] => []
  | f :: rest => loneTags f ++ loneTagsOfList rest

end

/-- Whether the builder waits for an end tag that a lone tag does not have. -/
def isAwaited (lone : Text × Bool) : Bool := !lone.2 && !Allowed.voidTags.contains lone.1

theorem mem_voidTags_of_mem_allowed {tag : Text} (h : tag ∈ Allowed.voidTags) :
    tag ∈ voidTags := by
  have hsub : Allowed.voidTags ⊆ voidTags := by decide
  exact hsub h

end Fragment

namespace Builder

/-- The builder at a depth inside a dropped element. -/
def atDepth (b : Builder) (depth : Nat) : Builder := { b with ignored := depth }

@[simp] theorem ignored_atDepth (b : Builder) (depth : Nat) : (b.atDepth depth).ignored = depth :=
  rfl

@[simp] theorem atDepth_atDepth (b : Builder) (depth other : Nat) :
    (b.atDepth depth).atDepth other = b.atDepth other := rfl

theorem atDepth_eq_self_iff {b : Builder} {depth : Nat} :
    b.atDepth depth = b ↔ b.ignored = depth := by
  constructor
  · intro h
    rw [← h]
    rfl
  · rintro rfl
    rfl

theorem text_of_ignored {b : Builder} (h : 0 < b.ignored) (t : Text) : b.text t = .ok b := by
  simp [text, h]

theorem start_of_ignored {b : Builder} (h : 0 < b.ignored) (tag : Text)
    (given : List (Text × Option Text)) (selfClosing : Bool) :
    b.start tag given selfClosing =
      if selfClosing || Allowed.voidTags.contains tag then b else b.atDepth (b.ignored + 1) := by
  simp only [start, h, if_true]
  rfl

theorem finish_of_ignored {b : Builder} (h : 0 < b.ignored) (tag : Text) :
    b.finish tag = b.atDepth (b.ignored - 1) := by
  simp only [finish, h, if_true]
  rfl

theorem takeAll_text {b : Builder} (h : 0 < b.ignored) (t : Text) (rest : List Token) :
    b.takeAll (.text t :: rest) = b.takeAll rest := by
  rw [takeAll, take, text_of_ignored h]
  rfl

theorem takeAll_start (b : Builder) (tag : Text) (given : List (Text × Option Text))
    (selfClosing : Bool) (rest : List Token) :
    b.takeAll (.start tag given selfClosing :: rest) =
      (b.start tag given selfClosing).takeAll rest := rfl

theorem takeAll_finish (b : Builder) (tag : Text) (rest : List Token) :
    b.takeAll (.finish tag :: rest) = (b.finish tag).takeAll rest := rfl

mutual

/-- Well-formed content of a dropped element leaves the builder as deep as it was, and deeper by
one for every lone tag whose end tag the builder awaits. -/
theorem takeAll_tokens {f : Fragment} (hf : f.isWellFormed = true) {b : Builder}
    (hb : 0 < b.ignored) (rest : List Token) :
    b.takeAll (f.tokens ++ rest) =
      (b.atDepth (b.ignored + f.loneTags.countP Fragment.isAwaited)).takeAll rest := by
  cases f with
  | text t =>
    have hsame : b.atDepth (b.ignored + 0) = b := rfl
    rw [Fragment.tokens, Fragment.loneTags, List.countP_nil, hsame]
    exact takeAll_text hb t rest
  | lone tag attributes selfClosing =>
    rw [Fragment.tokens, Fragment.loneTags, List.singleton_append, takeAll_start,
      start_of_ignored hb, List.countP_singleton]
    cases hknown : selfClosing || Allowed.voidTags.contains tag with
    | true =>
      have hawaited : Fragment.isAwaited (tag, selfClosing) = false := by
        rw [Fragment.isAwaited, ← Bool.not_or, hknown, Bool.not_true]
      simp only [hawaited, if_true, Bool.false_eq_true, if_false]
      rfl
    | false =>
      have hawaited : Fragment.isAwaited (tag, selfClosing) = true := by
        rw [Fragment.isAwaited, ← Bool.not_or, hknown, Bool.not_false]
      simp only [hawaited, if_true, Bool.false_eq_true, if_false]
  | element tag attributes content =>
    rw [Fragment.isWellFormed, Bool.and_eq_true, Bool.not_eq_true'] at hf
    have hvoid : Allowed.voidTags.contains tag = false := by
      rw [Bool.eq_false_iff] at hf ⊢
      intro hknown
      apply hf.1
      rw [List.contains_iff_mem] at hknown ⊢
      exact Fragment.mem_voidTags_of_mem_allowed hknown
    have hstart : b.start tag attributes false = b.atDepth (b.ignored + 1) := by
      rw [start_of_ignored hb, hvoid]
      rfl
    rw [Fragment.tokens, Fragment.loneTags, List.cons_append, List.cons_append, takeAll_start,
      hstart, List.append_assoc, takeAll_tokensOfList hf.2 (Nat.succ_pos _),
      List.singleton_append, takeAll_finish, finish_of_ignored]
    · have hdepth : ∀ count, b.ignored + 1 + count - 1 = b.ignored + count := by omega
      simp only [ignored_atDepth, atDepth_atDepth, hdepth]
    · simp only [ignored_atDepth]
      omega

theorem takeAll_tokensOfList {content : List Fragment}
    (hc : Fragment.areWellFormed content = true) {b : Builder} (hb : 0 < b.ignored)
    (rest : List Token) :
    b.takeAll (Fragment.tokensOfList content ++ rest) =
      (b.atDepth (b.ignored + (Fragment.loneTagsOfList content).countP Fragment.isAwaited)).takeAll
        rest := by
  cases content with
  | nil => rfl
  | cons f others =>
    rw [Fragment.areWellFormed, Bool.and_eq_true] at hc
    have hdeep : 0 < (b.atDepth (b.ignored + f.loneTags.countP Fragment.isAwaited)).ignored :=
      Nat.lt_of_lt_of_le hb (Nat.le_add_right _ _)
    rw [Fragment.tokensOfList, Fragment.loneTagsOfList, List.append_assoc,
      takeAll_tokens hc.1 hb, takeAll_tokensOfList hc.2 hdeep, List.countP_append]
    simp only [ignored_atDepth, atDepth_atDepth, Nat.add_assoc]

end

/-- A disallowed element leaves the builder as deep in it as there are lone tags, its own among
them, whose end tags the builder awaits. -/
theorem takeAll_disallowed {f : Fragment} (hf : f.isWellFormed = true) {tag : Text}
    (ht : f.tag? = some tag) (hx : tag ∉ Allowed.tags) {b : Builder} (hb : b.ignored = 0)
    (rest : List Token) :
    b.takeAll (f.tokens ++ rest) =
      (b.atDepth (f.loneTags.countP Fragment.isAwaited)).takeAll rest := by
  have hvoid : Allowed.voidTags.contains tag = false := by
    have hsub : Allowed.voidTags ⊆ Allowed.tags := by decide
    rw [Bool.eq_false_iff, Ne, List.contains_iff_mem]
    exact fun hknown => hx (hsub hknown)
  have hstart : ∀ given selfClosing, b.start tag given selfClosing =
      if selfClosing then b else b.atDepth 1 := by
    intro given selfClosing
    have hunknown : Allowed.tags.contains tag = false := by
      rw [Bool.eq_false_iff, Ne, List.contains_iff_mem]
      exact hx
    simp only [start, hb, hunknown, hvoid, Nat.lt_irrefl, if_false, Bool.or_false,
      Bool.not_false, if_true]
    rfl
  cases f with
  | text t => cases ht
  | lone name attributes selfClosing =>
    obtain rfl := Option.some.inj ht
    rw [Fragment.tokens, List.singleton_append, takeAll_start, hstart, Fragment.loneTags,
      List.countP_singleton, Fragment.isAwaited, hvoid]
    cases selfClosing with
    | true =>
      have hsame : b.atDepth 0 = b := atDepth_eq_self_iff.2 hb
      simp [hsame]
    | false => simp
  | element name attributes content =>
    obtain rfl := Option.some.inj ht
    rw [Fragment.isWellFormed, Bool.and_eq_true] at hf
    rw [Fragment.tokens, Fragment.loneTags, List.cons_append, List.cons_append, takeAll_start,
      hstart, if_neg Bool.false_ne_true, List.append_assoc,
      takeAll_tokensOfList hf.2 Nat.one_pos, List.singleton_append, takeAll_finish,
      finish_of_ignored]
    · simp only [ignored_atDepth, atDepth_atDepth, Nat.add_sub_cancel_left]
    · simp only [ignored_atDepth]
      omega

end Builder

/-- Where the builder drops nothing yet, a disallowed element of well-formed HTML brings it into
the element as deep as there are void elements that it does not know. The element leaves no
trace, and what follows is read as if it were absent, exactly when every tag without an end tag
is closed by a slash or is one of the void elements of templates. -/
theorem dropped_element_leaves_no_trace_iff_voids_are_known {f : Fragment}
    (hf : f.isWellFormed = true) {tag : Text} (ht : f.tag? = some tag)
    (hx : tag ∉ Allowed.tags) {b : Builder} (hb : b.ignored = 0) :
    b.takeAll f.tokens = .ok { b with ignored := f.loneTags.countP Fragment.isAwaited } ∧
    (b.takeAll f.tokens = .ok b ↔
      ∀ lone ∈ f.loneTags, lone.2 = true ∨ lone.1 ∈ Allowed.voidTags) ∧
    ((∀ lone ∈ f.loneTags, lone.2 = true ∨ lone.1 ∈ Allowed.voidTags) →
      ∀ rest, b.takeAll (f.tokens ++ rest) = b.takeAll rest) := by
  have htaken : b.takeAll f.tokens = .ok (b.atDepth (f.loneTags.countP Fragment.isAwaited)) := by
    have hall := Builder.takeAll_disallowed hf ht hx hb []
    rw [List.append_nil] at hall
    exact hall
  have hknown : (∀ lone ∈ f.loneTags, lone.2 = true ∨ lone.1 ∈ Allowed.voidTags) ↔
      f.loneTags.countP Fragment.isAwaited = 0 := by
    rw [List.countP_eq_zero]
    apply forall₂_congr
    intro lone _
    cases hclosed : lone.2 <;> simp [Fragment.isAwaited, hclosed]
  refine ⟨htaken, ?_, ?_⟩
  · rw [htaken, hknown, Except.ok.injEq, Builder.atDepth_eq_self_iff, hb, eq_comm]
  · intro h rest
    rw [Builder.takeAll_disallowed hf ht hx hb, hknown.1 h, Builder.atDepth_eq_self_iff.2 hb]

/-- A form with a line break, an image and a closed input in nested elements. -/
def formOfKnownVoids : Fragment :=
  .element "form" [] [.text "a", .element "div" [] [.lone "br" [] false,
    .element "b" [] [.lone "img" [("src", some "x")] false]], .lone "input" [] true]

/-- The form is dropped alone from an open paragraph. -/
theorem form_of_known_voids_leaves_no_trace :
    formOfKnownVoids.isWellFormed = true ∧ ("form" : Text) ∉ Allowed.tags ∧
    (⟨[⟨"p", [], []⟩], [], 0⟩ : Builder).takeAll formOfKnownVoids.tokens =
      .ok ⟨[⟨"p", [], []⟩], [], 0⟩ := by
  have hf : formOfKnownVoids.isWellFormed = true := by decide
  have hx : ("form" : Text) ∉ Allowed.tags := by decide
  have hknown : ∀ lone ∈ formOfKnownVoids.loneTags, lone.2 = true ∨ lone.1 ∈ Allowed.voidTags := by
    decide
  exact ⟨hf, hx,
    (dropped_element_leaves_no_trace_iff_voids_are_known hf rfl hx rfl).2.1.2 hknown⟩

/-- An input is not dropped alone: the builder stays inside it, and reads no paragraph after
it. -/
theorem input_swallows_what_follows :
    (Fragment.lone "input" [] false).isWellFormed = true ∧ ("input" : Text) ∉ Allowed.tags ∧
    Builder.empty.takeAll (Fragment.lone "input" [] false).tokens ≠ .ok Builder.empty ∧
    Node.ofMarkup "<input><p>x</p>" = .ok (.element ⟨"html", [], none, none⟩ []) ∧
    Node.ofMarkup "<p>x</p>" ≠ .ok (.element ⟨"html", [], none, none⟩ []) := by
  refine ⟨by decide, by decide, ?_, by decide +kernel, by decide +kernel⟩
  intro h
  have hdepth := congrArg Builder.ignored (Except.ok.inj h)
  exact absurd hdepth (by decide)

end TypedTemplate
