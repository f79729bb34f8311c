import Mathlib.Data.List.Infix
import TypedTemplate.Proofs.BuiltTrees
import TypedTemplate.Proofs.DroppedElements
import TypedTemplate.Proofs.GrowingTrees

/-!
# Open elements

The builder keeps a tree taken apart: the open elements from the innermost outwards, each with the
children that it has so far. Put together again it is a tree that grows from its root, whose open
elements stand at the beginnings of one place. Every token does the same to both, so the builder
keeps a spine of its tree open and the tree lists the accepted tokens as they arrived.
-/
namespace TypedTemplate

namespace Draft

def entry : Draft → Entry
  | .element tag attributes _ => .element tag attributes
  | .text segments => .text segments

def Entry.ofHead (head : Head) : Entry := .element head.tag head.attributes

def Entry.isElement : Entry → Bool
  | .element .. => true
  | .text _ => false

mutual

theorem heads_of_toNode {d : Draft} {n : Node} (h : d.toNode = .ok n) :
    n.heads.map Entry.ofHead = d.preorder.filter Entry.isElement := by
  cases d with
  | text segments =>
    rw [← Except.ok.inj h]
    rfl
  | element tag attributes children =>
    obtain ⟨nodes, hnodes, hrest⟩ := Fault.bind_eq_ok_iff.1 h
    obtain ⟨head, hhead, hnode⟩ := Fault.bind_eq_ok_iff.1 hrest
    obtain ⟨htag, hattributes, -⟩ := Head.ofAttributes_eq_ok hhead
    rw [← Except.ok.inj hnode, Node.heads, List.map_cons, heads_of_toNodes hnodes, Entry.ofHead,
      htag, hattributes]
    rfl

theorem heads_of_toNodes {drafts : List Draft} {nodes : List Node}
    (h : toNodes drafts = .ok nodes) :
    (Node.headsOfList nodes).map Entry.ofHead =
      (preorderOfList drafts).filter Entry.isElement := by
  cases drafts with
  | nil =>
    rw [← Except.ok.inj h]
    rfl
  | cons d rest =>
    obtain ⟨first, hfirst, hrest⟩ := Fault.bind_eq_ok_iff.1 h
    obtain ⟨others, hothers, hnodes⟩ := Fault.bind_eq_ok_iff.1 hrest
    rw [← Except.ok.inj hnodes, Node.headsOfList, List.map_append, heads_of_toNode hfirst,
      heads_of_toNodes hothers, preorderOfList, List.filter_append]

end

end Draft

namespace OpenElement

/-- A part with the open elements around it, each of which it comes last in. -/
def enclose (inner : Draft) : List OpenElement → Draft
  | [] => inner
  | e :: outer => enclose (e.add inner).close outer

/-- The place of what comes last in the innermost of some open elements. -/
def path (outer : List OpenElement) : List Nat := outer.reverse.map (·.children.length)

/-- The tree of an open element and those around it, which are its open elements. -/
def growth (e : OpenElement) (outer : List OpenElement) (ignored : Nat) : Growth :=
  ⟨enclose e.close outer, (path outer).inits, ignored⟩

theorem path_cons (e : OpenElement) (outer : List OpenElement) :
    path (e :: outer) = path outer ++ [e.children.length] := by
  rw [path, List.reverse_cons, List.map_append, List.map_singleton, ← path]

theorem length_path (outer : List OpenElement) : (path outer).length = outer.length := by
  rw [path, List.length_map, List.length_reverse]

theorem inits_path_cons (e : OpenElement) (outer : List OpenElement) :
    (path (e :: outer)).inits = (path outer).inits ++ [path outer ++ [e.children.length]] := by
  rw [path_cons, List.inits_append]
  rfl

theorem close_add (e : OpenElement) (d : Draft) :
    (e.add d).close = .element e.tag e.attributes (e.children.reverse ++ [d]) := by
  rw [close, add, List.reverse_cons]

theorem at?_close_add (e : OpenElement) (d : Draft) (place : List Nat) :
    (e.add d).close.at? (e.children.length :: place) = d.at? place := by
  rw [close_add, ← List.length_reverse, Draft.at?_last]

theorem addAt_close_add (part : Draft) (e : OpenElement) (d : Draft) (place : List Nat) :
    Draft.addAt part (e.children.length :: place) (e.add d).close =
      (e.add (Draft.addAt part place d)).close := by
  rw [close_add, close_add, ← List.length_reverse, Draft.addAt_last]

theorem at?_enclose (inner : Draft) (outer : List OpenElement) (place : List Nat) :
    (enclose inner outer).at? (path outer ++ place) = inner.at? place := by
  induction outer generalizing inner place with
  | nil => rfl
  | cons e outer ih =>
    rw [path_cons, List.append_assoc, enclose, ih]
    exact at?_close_add e inner place

theorem addAt_enclose (part inner : Draft) (outer : List OpenElement) (place : List Nat) :
    Draft.addAt part (path outer ++ place) (enclose inner outer) =
      enclose (Draft.addAt part place inner) outer := by
  induction outer generalizing inner place with
  | nil => rfl
  | cons e outer ih =>
    rw [path_cons, List.append_assoc, enclose, ih, enclose, ← addAt_close_add]
    rfl

/-- What is seen at the places of the open elements, when it does not depend on what is put into
an element. -/
theorem map_at?_enclose {α : Type} {f : Draft → α}
    (hf : ∀ (e : OpenElement) d, f (e.add d).close = f e.close) (inner : Draft)
    (outer : List OpenElement) :
    (path outer).inits.map (fun place => ((enclose inner outer).at? place).map f) =
      outer.reverse.map (fun e => some (f e.close)) ++ [some (f inner)] := by
  induction outer generalizing inner with
  | nil => rfl
  | cons e outer ih =>
    have hinner : ((enclose inner (e :: outer)).at? (path outer ++ [e.children.length])).map f =
        some (f inner) := by
      rw [enclose, at?_enclose, at?_close_add]
      rfl
    rw [inits_path_cons, List.map_append, List.map_singleton, hinner, enclose, ih, hf,
      List.reverse_cons, List.map_append, List.map_singleton]

section Growth

variable (e : OpenElement) (outer : List OpenElement) (ignored : Nat)

theorem innermost_growth : (e.growth outer ignored).innermost = path outer := by
  cases outer with
  | nil => rfl
  | cons f outer =>
    rw [Growth.innermost, Draft.IsSpine.innermost, growth, inits_path_cons,
      List.getLast?_concat, path_cons]
    rfl

theorem root_add_growth (part : Draft) :
    Draft.addAt part (path outer) (e.growth outer ignored).root =
      enclose (e.add part).close outer := by
  have hroot := addAt_enclose part e.close outer []
  rw [List.append_nil] at hroot
  rw [growth, hroot, close_add, close, Draft.addAt]

theorem add_growth (part : Draft) :
    (e.growth outer ignored).add part = (e.add part).growth outer ignored := by
  rw [Growth.add, innermost_growth, root_add_growth]
  rfl

theorem push_growth (tag : Text) (attributes : Attributes) :
    (e.growth outer ignored).push (.element tag attributes []) =
      growth ⟨tag, attributes, []⟩ (e :: outer) ignored := by
  have hsize : (e.growth outer ignored).root.sizeAt (path outer) = e.children.length := by
    have hat := at?_enclose e.close outer []
    rw [List.append_nil] at hat
    rw [Draft.sizeAt, growth, hat]
    exact List.length_reverse
  rw [Growth.push, innermost_growth, root_add_growth, hsize]
  have hplaces := inits_path_cons e outer
  rw [growth, growth, hplaces]
  rfl

theorem keep_growth (f : OpenElement) :
    (e.growth (f :: outer) ignored).keep (outer.length + 1) =
      (f.add e.close).growth outer ignored := by
  have hlength : (path outer).inits.length = outer.length + 1 := by
    rw [List.length_inits, length_path]
  rw [Growth.keep, growth, inits_path_cons, ← hlength, List.take_left' rfl]
  rfl

end Growth

/-- The innermost open element of a name, if there is one, with those around it. -/
def around (tag : Text) (stack : List OpenElement) : List OpenElement :=
  stack.dropWhile fun e => !(e.tag == tag)

section Around

variable {tag : Text} {e : OpenElement} {rest : List OpenElement}

theorem around_of_eq (h : e.tag = tag) : around tag (e :: rest) = e :: rest := by
  simp [around, h]

theorem around_of_ne (h : e.tag ≠ tag) : around tag (e :: rest) = around tag rest := by
  simp [around, h]

theorem around_eq_nil_iff {stack : List OpenElement} :
    around tag stack = [] ↔ ∀ e ∈ stack, e.tag ≠ tag := by
  simp [around]

theorem length_around_add (d : Draft) :
    (around tag (e.add d :: rest)).length = (around tag (e :: rest)).length := by
  by_cases h : e.tag = tag
  · have hadded : (e.add d).tag = tag := h
    rw [around_of_eq h, around_of_eq hadded]
    rfl
  · have hadded : (e.add d).tag ≠ tag := h
    rw [around_of_ne h, around_of_ne hadded]

theorem length_around_le (tag : Text) (stack : List OpenElement) :
    (around tag stack).length ≤ stack.length := (List.dropWhile_suffix _).length_le

end Around
end OpenElement

namespace Builder

/-- The open elements from the innermost outwards, the root last, which holds the closed parts. -/
def frames (stack : List OpenElement) (top : List Draft) : List OpenElement :=
  stack ++ [⟨"__root__", [], top⟩]

/-- The tree of a builder with the places of its open elements. The root holds all parts. -/
def growth (b : Builder) : Growth where
  root := .element "__root__" [] b.parts
  stack := (OpenElement.path (frames b.stack b.top).tail).inits
  ignored := b.ignored

theorem exists_frames (stack : List OpenElement) (top : List Draft) :
    ∃ e outer, frames stack top = e :: outer := by
  cases stack with
  | nil => exact ⟨_, _, rfl⟩
  | cons e rest => exact ⟨_, _, rfl⟩

theorem enclose_frames (inner : Draft) (stack : List OpenElement) (top : List Draft) :
    OpenElement.enclose inner (frames stack top) =
      .element "__root__" [] (closeAll (some inner) stack top) := by
  induction stack generalizing inner with
  | nil => rfl
  | cons e rest ih => exact ih (e.add inner).close

theorem growth_eq {b : Builder} {e : OpenElement} {outer : List OpenElement}
    (h : frames b.stack b.top = e :: outer) : b.growth = e.growth outer b.ignored := by
  have hroot : Draft.element "__root__" [] b.parts = OpenElement.enclose e.close outer := by
    unfold parts
    cases hs : b.stack with
    | nil =>
      rw [hs] at h
      obtain ⟨rfl, rfl⟩ := List.cons.inj h
      rfl
    | cons f rest =>
      rw [hs] at h
      obtain ⟨rfl, rfl⟩ := List.cons.inj h
      exact (enclose_frames f.close rest b.top).symm
  rw [growth, hroot, h]
  rfl

theorem growth_add (b : Builder) (part : Draft) : (b.add part).growth = b.growth.add part := by
  obtain ⟨stack, top, ignored⟩ := b
  cases stack with
  | nil =>
    rw [growth_eq (b := ⟨[], top, ignored⟩) rfl, OpenElement.add_growth]
    exact growth_eq rfl
  | cons e rest =>
    rw [growth_eq (b := ⟨e :: rest, top, ignored⟩) rfl, OpenElement.add_growth]
    exact growth_eq rfl

theorem growth_push (b : Builder) (tag : Text) (attributes : Attributes) :
    growth { b with stack := ⟨tag, attributes, []⟩ :: b.stack } =
      b.growth.push (.element tag attributes []) := by
  obtain ⟨e, outer, hframes⟩ := exists_frames b.stack b.top
  rw [growth_eq hframes, OpenElement.push_growth, ← hframes]
  exact growth_eq rfl

theorem length_frames (stack : List OpenElement) (top : List Draft) :
    (frames stack top).length = stack.length + 1 := List.length_append

/-- Elements that are closed up to one of a name leave the tree as it is. What stays open, with
the root in place of the element that was found, is what follows that element. -/
theorem growth_closeThrough {tag : Text} (e : OpenElement) (rest : List OpenElement)
    (top : List Draft) (ignored : Nat) (h : ∃ f ∈ e :: rest, f.tag = tag) :
    (mk (closeThrough tag none (e :: rest) top).1 (closeThrough tag none (e :: rest) top).2
      ignored).growth =
        (e.growth (frames rest top) ignored).keep
          (OpenElement.around tag (e :: rest)).length := by
  induction rest generalizing e with
  | nil =>
    obtain ⟨f, hf, htag⟩ := h
    obtain rfl := List.mem_singleton.1 hf
    have hclosed : closeThrough tag none [f] top = ([], f.close :: top) := by
      rw [closeThrough, if_pos htag]
    rw [hclosed, OpenElement.around_of_eq htag]
    exact (growth_eq rfl).trans (OpenElement.keep_growth f [] ignored _).symm
  | cons parent others ih =>
    by_cases htag : e.tag = tag
    · have hclosed : closeThrough tag none (e :: parent :: others) top =
          (parent.add e.close :: others, top) := by
        rw [closeThrough, if_pos htag]
      have hlength : (e :: parent :: others).length = (frames others top).length + 1 := by
        rw [length_frames]
        rfl
      rw [hclosed, OpenElement.around_of_eq htag, hlength]
      exact (growth_eq rfl).trans (OpenElement.keep_growth e (frames others top) ignored _).symm
    · have hclosed : closeThrough tag none (e :: parent :: others) top =
          closeThrough tag none (parent.add e.close :: others) top := by
        rw [closeThrough, if_neg htag]
        rfl
      have hfound : ∃ f ∈ parent.add e.close :: others, f.tag = tag := by
        obtain ⟨f, hf, hfound⟩ := h
        rcases List.mem_cons.1 hf with rfl | hf
        · exact absurd hfound htag
        · rcases List.mem_cons.1 hf with rfl | hf
          · exact ⟨_, List.mem_cons_self, hfound⟩
          · exact ⟨f, List.mem_cons_of_mem _ hf, hfound⟩
      have hle : (OpenElement.around tag (parent :: others)).length ≤
          (frames others top).length + 1 := by
        have hrest := OpenElement.length_around_le tag (parent :: others)
        rw [List.length_cons] at hrest
        rw [length_frames]
        omega
      rw [hclosed, ih _ hfound, OpenElement.length_around_add, OpenElement.around_of_ne htag,
        ← OpenElement.keep_growth e (frames others top) ignored parent, Growth.keep_keep _ hle]
      rfl

theorem map_at?_stack {α : Type} {f : Draft → α}
    (hf : ∀ (e : OpenElement) d, f (e.add d).close = f e.close) (b : Builder) :
    b.growth.stack.tail.map (fun place => (b.growth.root.at? place).map f) =
      b.stack.reverse.map fun e => some (f e.close) := by
  obtain ⟨e, outer, hframes⟩ := exists_frames b.stack b.top
  have hseen : b.growth.stack.map (fun place => (b.growth.root.at? place).map f) =
      (frames b.stack b.top).reverse.map fun e => some (f e.close) := by
    rw [growth_eq hframes, hframes, List.reverse_cons, List.map_append]
    exact OpenElement.map_at?_enclose hf e.close outer
  rw [List.map_tail, hseen, frames, List.reverse_append]
  rfl

theorem length_rdropWhile_eq {α β : Type} {l : List α} {m : List β} {p : α → Bool} {q : β → Bool}
    (h : l.map p = m.reverse.map q) : (l.rdropWhile p).length = (m.dropWhile q).length := by
  have hreversed : l.reverse.map p = m.map q := by
    rw [List.map_reverse, h, ← List.map_reverse, List.reverse_reverse]
  calc (l.rdropWhile p).length
    _ = (l.reverse.dropWhile p).length := List.length_reverse
    _ = ((l.reverse.map p).dropWhile id).length := by
      rw [List.dropWhile_map, List.length_map, Function.id_comp]
    _ = ((m.map q).dropWhile id).length := by rw [hreversed]
    _ = (m.dropWhile q).length := by rw [List.dropWhile_map, List.length_map, Function.id_comp]

/-- An end tag finds the innermost open element of its name in the tree as on the stack. -/
theorem length_rdropWhile_stack (b : Builder) (tag : Text) :
    (b.growth.stack.tail.rdropWhile fun place =>
      !(b.growth.root.at? place).any (·.isElement tag)).length =
        (OpenElement.around tag b.stack).length := by
  apply length_rdropWhile_eq
  have hseen := map_at?_stack (f := Draft.isElement tag) (fun _ _ => rfl) b
  have hnames := congrArg (List.map fun o => !Option.any id o) hseen
  simp only [List.map_map, Function.comp_def, Option.any_map] at hnames
  exact hnames

theorem growth_finish {b : Builder} (h : b.ignored = 0) (tag : Text) :
    (b.finish tag).growth = b.growth.close tag := by
  have hthrough := length_rdropWhile_stack b tag
  unfold finish Growth.close
  rw [if_neg (Nat.not_lt.2 (Nat.le_of_eq h))]
  dsimp only
  simp only [List.isEmpty_iff_length_eq_zero, hthrough, List.length_eq_zero_iff]
  by_cases hfound : ∃ e ∈ b.stack, e.tag = tag
  · have hany : b.stack.any (·.tag == tag) = true := by simpa using hfound
    have hsome : OpenElement.around tag b.stack ≠ [] := by
      rw [Ne, OpenElement.around_eq_nil_iff]
      obtain ⟨e, he, htag⟩ := hfound
      exact fun hnone => hnone e he htag
    rw [if_pos hany, if_neg hsome]
    cases hs : b.stack with
    | nil => exact absurd (by rw [hs]; rfl) hsome
    | cons e rest =>
      rw [hs] at hfound
      have hframes : frames b.stack b.top = e :: frames rest b.top := by rw [hs]; rfl
      rw [growth_eq hframes]
      exact growth_closeThrough e rest b.top b.ignored hfound
  · have hany : ¬b.stack.any (·.tag == tag) = true := by simpa using hfound
    have hnone : OpenElement.around tag b.stack = [] := by
      rw [OpenElement.around_eq_nil_iff]
      exact fun e he htag => hfound ⟨e, he, htag⟩
    rw [if_neg hany, if_pos hnone]

theorem growth_text (b : Builder) (t : Text) :
    (b.text t).map growth = b.growth.take (.text t) := by
  have haccepted : (0 < b.ignored || t.isBlank) = !(Token.text t).isAccepted b.ignored := by
    cases b.ignored <;> simp [Token.isAccepted]
  have htake : b.growth.take (.text t) = if (Token.text t).isAccepted b.ignored then do
      let segments ← Segment.readAll t
      return if segments.isEmpty then b.growth else b.growth.add (.text segments)
    else .ok b.growth := rfl
  rw [text, haccepted, htake]
  cases (Token.text t).isAccepted b.ignored with
  | false => rfl
  | true =>
    cases Segment.readAll t with
    | error fault => rfl
    | ok segments =>
      cases hsome : segments.isEmpty with
      | true => simp [hsome, bind, Except.bind, Except.map, pure, Except.pure]
      | false => simp [hsome, bind, Except.bind, Except.map, pure, Except.pure, growth_add]

theorem start_eq (b : Builder) (tag : Text) (given : List (Text × Option Text))
    (selfClosing : Bool) :
    b.start tag given selfClosing =
      if (Token.start tag given selfClosing).isAccepted b.ignored then
        if selfClosing || Allowed.voidTags.contains tag then
          b.add (.element tag (Allowed.filterAttributes given) [])
        else { b with stack := ⟨tag, Allowed.filterAttributes given, []⟩ :: b.stack }
      else b.atDepth ((Token.start tag given selfClosing).depthAfter b.ignored) := by
  have hiff := Token.isAccepted_start_iff tag given selfClosing b.ignored
  by_cases hd : 0 < b.ignored
  · rw [start_of_ignored hd, if_neg (mt hiff.1 fun h => Nat.ne_of_gt hd h.1)]
    simp only [Token.depthAfter, hd, decide_true, Bool.true_or, if_true]
    split <;> rfl
  · have hzero : b.ignored = 0 := Nat.eq_zero_of_not_pos hd
    rw [start, if_neg hd]
    by_cases hknown : Allowed.tags.contains tag = true
    · have hsame : b.atDepth ((Token.start tag given selfClosing).depthAfter b.ignored) = b := by
        rw [atDepth_eq_self_iff, hzero, Token.depthAfter_start hknown]
      rw [if_neg (by simpa using hknown), hsame]
      by_cases hdropped : tag = "img".toList ∧ (!"data:".toList.isPrefixOf
          ((Keyed.get? "src" (Allowed.filterAttributes given)).getD [])) = true
      · rw [if_pos hdropped, if_neg (mt hiff.1 fun h => h.2.2 hdropped)]
      · rw [if_neg hdropped, if_pos (hiff.2 ⟨hzero, hknown, hdropped⟩)]
    · have hdepth : (Token.start tag given selfClosing).depthAfter b.ignored =
          if selfClosing || Allowed.voidTags.contains tag then b.ignored else 1 := by
        simp only [Token.depthAfter, hknown, hzero, Nat.lt_irrefl, decide_false, Bool.not_false,
          Bool.or_true, if_true]
      rw [if_pos (by simpa using hknown), if_neg (mt hiff.1 fun h => hknown h.2.1), hdepth]
      split
      · exact (atDepth_eq_self_iff.2 rfl).symm
      · rfl

theorem growth_start (b : Builder) (tag : Text) (given : List (Text × Option Text))
    (selfClosing : Bool) :
    .ok (b.start tag given selfClosing).growth = b.growth.take (.start tag given selfClosing) := by
  have htake : b.growth.take (.start tag given selfClosing) =
      let after := (b.atDepth ((Token.start tag given selfClosing).depthAfter b.ignored)).growth
      if (Token.start tag given selfClosing).isAccepted b.ignored then
        let element := .element tag (Allowed.filterAttributes given) []
        .ok (if selfClosing || Allowed.voidTags.contains tag then after.add element
          else after.push element)
      else .ok after := rfl
  rw [htake, start_eq]
  dsimp only
  split
  · rename_i haccepted
    rw [Token.depthAfter_of_isAccepted haccepted, atDepth_eq_self_iff.2 rfl]
    split
    · rw [growth_add]
    · rw [growth_push]
  · rfl

theorem growth_take (b : Builder) (token : Token) :
    (b.take token).map growth = b.growth.take token := by
  cases token with
  | text t => exact growth_text b t
  | start tag given selfClosing => exact growth_start b tag given selfClosing
  | finish tag =>
    have htake : b.growth.take (.finish tag) = .ok (if 0 < b.ignored then
        (b.atDepth (b.ignored - 1)).growth else (b.atDepth (b.ignored - 1)).growth.close tag) := rfl
    rw [htake]
    split
    · rename_i hd
      rw [take, finish_of_ignored hd]
      rfl
    · rename_i hd
      have hzero : b.ignored = 0 := Nat.eq_zero_of_not_pos hd
      have hsame : b.atDepth (b.ignored - 1) = b := atDepth_eq_self_iff.2 (by omega)
      rw [hsame, ← growth_finish hzero]
      rfl
  | malformed => rfl

theorem growth_takeAll (b : Builder) (tokens : List Token) :
    (b.takeAll tokens).map growth = b.growth.takeAll tokens := by
  induction tokens generalizing b with
  | nil => rfl
  | cons token rest ih =>
    rw [takeAll, Growth.takeAll, ← growth_take]
    cases b.take token with
    | error fault => rfl
    | ok next => exact ih next

theorem take_of_ignored {b b' : Builder} {token : Token} (hd : 0 < b.ignored)
    (h : b.take token = .ok b') : b' = b.atDepth (token.depthAfter b.ignored) := by
  cases token with
  | text t =>
    rw [take, text_of_ignored hd] at h
    rw [← Except.ok.inj h]
    exact (atDepth_eq_self_iff.2 rfl).symm
  | start tag given selfClosing =>
    rw [← Except.ok.inj h, start_eq, if_neg]
    rw [Token.isAccepted_start_iff]
    exact fun haccepted => Nat.ne_of_gt hd haccepted.1
  | finish tag =>
    rw [← Except.ok.inj h, finish_of_ignored hd]
    rfl
  | malformed => cases h

/-- What holds of a builder once it has taken some tokens. -/
structure IsOrdered (b : Builder) (tokens : List Token) : Prop where
  /-- Its tree has grown from the root by the same tokens. -/
  grown : Growth.empty.takeAll tokens = .ok b.growth
  /-- The root is still open, as the outermost element. -/
  root : b.growth.stack.head? = some []
  /-- Every other open element is the last child of the one around it. -/
  last : b.growth.stack.IsChain b.growth.root.IsLastChild
  /-- The open elements in the tree are those that the builder holds. -/
  held : (b.growth.stack.tail.map fun place => (b.growth.root.at? place).map Draft.entry) =
    b.stack.reverse.map fun e => some (.element e.tag e.attributes)
  /-- Inside a dropped element the next token changes neither the open elements nor the tree. -/
  dropped : ∀ {token next}, 0 < b.ignored → b.take token = .ok next →
    next.stack = b.stack ∧ next.top = b.top ∧ next.growth.stack = b.growth.stack ∧
      next.growth.root = b.growth.root
  /-- The tree lists the accepted tokens, each once, in the order in which they came. -/
  listed : (Draft.preorderOfList b.parts).map some = (Token.accepted 0 tokens).map Token.entry? ∧
    (Token.accepted 0 tokens).Sublist tokens
  /-- Once the directives are read the elements are listed in the same order. -/
  elements : ∀ {nodes}, Draft.toNodes b.parts = .ok nodes →
    (Node.headsOfList nodes).map Draft.Entry.ofHead =
      (Draft.preorderOfList b.parts).filter Draft.Entry.isElement

end Builder

/-- Whatever tokens come, the builder keeps a spine of its tree open, from the root through last
children, and the tree lists the accepted tokens as they arrived. -/
theorem tree_lists_accepted_tokens_and_keeps_spine_open {tokens : List Token} {b : Builder}
    (h : Builder.empty.takeAll tokens = .ok b) : b.IsOrdered tokens := by
  have hgrown : Growth.empty.takeAll tokens = .ok b.growth := by
    have hrun := Builder.growth_takeAll Builder.empty tokens
    rw [h] at hrun
    exact hrun.symm
  have hspine := Growth.isSpine_takeAll Growth.isSpine_empty hgrown
  refine ⟨hgrown, hspine.head?_eq, hspine.isChain, ?_, ?_, ⟨?_, Token.accepted_sublist 0 tokens⟩,
    Draft.heads_of_toNodes⟩
  · exact Builder.map_at?_stack (f := Draft.entry) (fun _ _ => rfl) b
  · intro token next hd hnext
    rw [Builder.take_of_ignored hd hnext]
    exact ⟨rfl, rfl, rfl, rfl⟩
  · have hlisted := Growth.preorder_takeAll Growth.isSpine_empty hgrown
    exact (List.cons.inj hlisted).2

/-- Tags that cross, that close nothing and that are dropped, around texts. -/
def crossedTags : List Token := [
  .start "div" [] false, .start "p" [("class", some "lead"), ("onclick", some "go")] false,
  .text "a", .start "script" [] false, .start "p" [] false, .text "x", .finish "p",
  .finish "script", .start "br" [] false, .finish "em", .finish "div", .text " ",
  .start "ul" [] false, .start "li" [] false, .text "b", .start "img" [] false]

/-- The division is closed with the paragraph in it, and the item of the list is open. -/
def openList : Builder where
  stack := [⟨"li", [], [.text [.literal "b"]]⟩, ⟨"ul", [], []⟩]
  top := [.element "div" [] [.element "p" [("class", "lead")]
    [.text [.literal "a"], .element "br" [] []]]]
  ignored := 0

theorem crossed_tags_leave_list_open :
    Builder.empty.takeAll crossedTags = .ok openList ∧ openList.IsOrdered crossedTags ∧
      openList.growth.stack = [[], [1], [1, 0]] ∧ (Token.accepted 0 crossedTags).length = 7 := by
  have h : Builder.empty.takeAll crossedTags = .ok openList := rfl
  exact ⟨h, tree_lists_accepted_tokens_and_keeps_spine_open h, rfl, rfl⟩

end TypedTemplate
