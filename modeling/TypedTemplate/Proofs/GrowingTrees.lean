import Mathlib.Data.List.Chain
import Mathlib.Data.List.DropRight
import TypedTemplate.Markup.Builder
import TypedTemplate.Proofs.TextSegments

/-!
# Growing trees

A template tree as it grows from its root while tokens are taken, with the places of its open
elements, the root's first. A token puts a part at the end of the innermost open element, and
opens it if it has an end tag to come, or closes open elements from the innermost outwards; inside
a dropped element it does neither. The open elements form a spine of the tree, from the root
through last children, whatever tokens come. So what is added comes last in document order, and the
tree lists the accepted tokens as they arrived.
-/
namespace TypedTemplate

namespace Draft

/-- A part of a tree without its content. -/
inductive Entry where
  | element (tag : Text) (attributes : Attributes)
  | text (segments : List Segment)
  deriving DecidableEq, Repr

mutual

/-- The parts of a tree in document order, an element before its content. -/
def preorder : Draft → List Entry
  | .element tag attributes children => .element tag attributes :: preorderOfList children
  | .text segments => [.text segments]

def preorderOfList : List Draft → List Entry
  | [] => []
  | d :: rest => preorder d ++ preorderOfList rest

end

/-- The part of a tree at a place, which counts the children on the way from the root. -/
def at? : List Nat → Draft → Option Draft
  | [], d => some d
  | i :: place, .element _ _ children => children[i]?.bind (at? place)
  | _ :: _, .text _ => none

/-- A tree with a part added at the end of the element at a place. -/
def addAt (part : Draft) : List Nat → Draft → Draft
  | [], .element tag attributes children => .element tag attributes (children ++ [part])
  | i :: place, .element tag attributes children =>
    .element tag attributes (children.modify i (addAt part place))
  | _, .text segments => .text segments

def children : Draft → List Draft
  | .element _ _ children => children
  | .text _ => []

def sizeAt (place : List Nat) (root : Draft) : Nat := ((root.at? place).elim [] children).length

/-- Whether a place is that of the last child of the element at another one. -/
def IsLastChild (root : Draft) (outer inner : List Nat) : Prop :=
  ∃ tag attributes before last,
    root.at? outer = some (.element tag attributes (before ++ [last])) ∧
      inner = outer ++ [before.length]

/-- The places of a spine: that of the root, and those of a spine of its last child. -/
inductive IsSpine : Draft → List (List Nat) → Prop
  | last {tag : Text} {attributes : Attributes} {children : List Draft} :
      IsSpine (.element tag attributes children) [[]]
  | cons {tag : Text} {attributes : Attributes} {before : List Draft} {child : Draft}
      {places : List (List Nat)} : IsSpine child places →
      IsSpine (.element tag attributes (before ++ [child])) ([] :: places.map (before.length :: ·))

theorem preorderOfList_append (first second : List Draft) :
    preorderOfList (first ++ second) = preorderOfList first ++ preorderOfList second := by
  induction first with
  | nil => rfl
  | cons d rest ih =>
    rw [List.cons_append, preorderOfList, ih, preorderOfList, List.append_assoc]

theorem modify_last (before : List Draft) (child : Draft) (f : Draft → Draft) :
    (before ++ [child]).modify before.length f = before ++ [f child] := by
  induction before with
  | nil => rfl
  | cons d rest ih => rw [List.cons_append, List.length_cons, List.modify_succ_cons, ih]; rfl

section Last

variable {tag : Text} {attributes : Attributes} {before : List Draft} {child : Draft}

theorem at?_last (place : List Nat) :
    at? (before.length :: place) (.element tag attributes (before ++ [child])) =
      child.at? place := by
  rw [at?, List.getElem?_concat_length]
  rfl

theorem addAt_last (part : Draft) (place : List Nat) :
    addAt part (before.length :: place) (.element tag attributes (before ++ [child])) =
      .element tag attributes (before ++ [addAt part place child]) := by
  rw [addAt, modify_last]

theorem sizeAt_last (place : List Nat) :
    sizeAt (before.length :: place) (.element tag attributes (before ++ [child])) =
      child.sizeAt place := by
  rw [sizeAt, at?_last, sizeAt]

theorem isLastChild_last {outer inner : List Nat} (h : child.IsLastChild outer inner) :
    (Draft.element tag attributes (before ++ [child])).IsLastChild (before.length :: outer)
      (before.length :: inner) := by
  obtain ⟨name, given, first, last, hat, rfl⟩ := h
  exact ⟨name, given, first, last, by rw [at?_last, hat], rfl⟩

end Last

namespace IsSpine

/-- The place of the innermost element of a spine. -/
def innermost (stack : List (List Nat)) : List Nat := stack.getLast?.getD []

variable {root : Draft} {stack : List (List Nat)}

theorem ne_nil (h : root.IsSpine stack) : stack ≠ [] := by cases h <;> exact List.cons_ne_nil _ _

theorem innermost_cons (h : root.IsSpine stack) (i : Nat) :
    innermost ([] :: stack.map (i :: ·)) = i :: innermost stack := by
  have hlast := List.getLast?_eq_some_getLast h.ne_nil
  simp only [innermost, List.getLast?_cons, List.getLast?_map, hlast, Option.map_some,
    Option.getD_some]

theorem head?_eq (h : root.IsSpine stack) : stack.head? = some [] := by cases h <;> rfl

/-- On a spine every place is that of the last child of the element before. -/
theorem isChain (h : root.IsSpine stack) : stack.IsChain root.IsLastChild := by
  induction h with
  | last => exact .singleton _
  | cons hc ih =>
    rename_i tag attributes before child places
    have hinner : (places.map (before.length :: ·)).IsChain
        (Draft.element tag attributes (before ++ [child])).IsLastChild := by
      rw [List.isChain_map]
      exact ih.imp fun _ _ hl => isLastChild_last hl
    refine List.isChain_cons.2 ⟨?_, hinner⟩
    intro place hp
    rw [List.head?_map, hc.head?_eq] at hp
    rw [← Option.some.inj hp]
    exact ⟨tag, attributes, before, child, rfl, rfl⟩

theorem add (h : root.IsSpine stack) (part : Draft) :
    (addAt part (innermost stack) root).IsSpine stack := by
  induction h with
  | last => exact .last
  | cons hc ih =>
    rw [hc.innermost_cons, addAt_last]
    exact .cons ih

theorem push (h : root.IsSpine stack) (tag : Text) (attributes : Attributes) :
    (addAt (.element tag attributes []) (innermost stack) root).IsSpine
      (stack ++ [innermost stack ++ [root.sizeAt (innermost stack)]]) := by
  induction h with
  | last =>
    have hopened : (Draft.element tag attributes []).IsSpine [[]] := .last
    exact .cons hopened
  | cons hc ih =>
    rename_i name given before child places
    have hlonger : (Draft.element name given
        (before ++ [addAt (.element tag attributes []) (innermost places) child])).IsSpine _ :=
      .cons ih
    rw [List.map_append] at hlonger
    rw [hc.innermost_cons, addAt_last, sizeAt_last]
    exact hlonger

theorem take (h : root.IsSpine stack) {count : Nat} (hc : 0 < count) :
    root.IsSpine (stack.take count) := by
  induction h generalizing count with
  | last =>
    rw [List.take_of_length_le hc]
    exact .last
  | cons hs ih =>
    obtain ⟨n, rfl⟩ := Nat.exists_eq_succ_of_ne_zero (Nat.ne_of_gt hc)
    rw [List.take_succ_cons, ← List.map_take]
    cases n with
    | zero => exact .last
    | succ n => exact .cons (ih (Nat.succ_pos n))

theorem preorder_add (h : root.IsSpine stack) (part : Draft) :
    (addAt part (innermost stack) root).preorder = root.preorder ++ part.preorder := by
  induction h with
  | last =>
    have hpart : preorderOfList [part] = part.preorder := List.append_nil _
    rw [innermost, List.getLast?_singleton, Option.getD_some, addAt, preorder, preorder,
      preorderOfList_append, hpart, List.cons_append]
  | cons hc ih =>
    rename_i tag attributes before child places
    have hlast : ∀ d, preorderOfList [d] = d.preorder := fun d => List.append_nil _
    rw [hc.innermost_cons, addAt_last, preorder, preorder, preorderOfList_append,
      preorderOfList_append, hlast, hlast, ih, List.cons_append, List.append_assoc]

end IsSpine
end Draft

namespace Token

/-- The depth inside dropped elements after a token. -/
def depthAfter (depth : Nat) : Token → Nat
  | .start tag _ selfClosing =>
    if selfClosing || Allowed.voidTags.contains tag then depth
    else if 0 < depth || !Allowed.tags.contains tag then depth + 1
    else depth
  | .finish _ => depth - 1
  | .text _ | .malformed => depth

/-- Whether a token becomes a part of the tree: outside dropped elements the start tag of a known
element, for an image only with its data, and a text that is not blank. -/
def isAccepted (depth : Nat) : Token → Bool
  | .start tag given _ =>
    depth == 0 && Allowed.tags.contains tag && (tag != "img".toList ||
      "data:".toList.isPrefixOf ((Keyed.get? "src" (Allowed.filterAttributes given)).getD []))
  | .text t => depth == 0 && !t.isBlank
  | .finish _ | .malformed => false

/-- The tokens that become parts of the tree, in the order in which they arrive. -/
def accepted (depth : Nat) : List Token → List Token
  | [] => []
  | token :: rest =>
    if token.isAccepted depth then token :: accepted (token.depthAfter depth) rest
    else accepted (token.depthAfter depth) rest

/-- The part of the tree that a token becomes. -/
def entry? : Token → Option Draft.Entry
  | .start tag given _ => some (.element tag (Allowed.filterAttributes given))
  | .text t =>
    match Segment.readAll t with
    | .ok segments => some (.text segments)
    | .error _ => none
  | .finish _ | .malformed => none

theorem isAccepted_start_iff (tag : Text) (given : List (Text × Option Text)) (selfClosing : Bool)
    (depth : Nat) :
    (start tag given selfClosing).isAccepted depth = true ↔
      depth = 0 ∧ Allowed.tags.contains tag = true ∧
        ¬(tag = "img".toList ∧ (!"data:".toList.isPrefixOf
          ((Keyed.get? "src" (Allowed.filterAttributes given)).getD [])) = true) := by
  rw [isAccepted, Bool.and_eq_true, Bool.and_eq_true, Bool.or_eq_true, beq_iff_eq, bne_iff_ne,
    Bool.not_eq_true', not_and_or, Bool.not_eq_false, and_assoc]

theorem depthAfter_start {tag : Text} (h : Allowed.tags.contains tag = true)
    (given : List (Text × Option Text)) (selfClosing : Bool) :
    (start tag given selfClosing).depthAfter 0 = 0 := by
  simp only [depthAfter, h, Nat.lt_irrefl, decide_false, Bool.not_true, Bool.or_self,
    Bool.false_eq_true, if_false, ite_self]

theorem depthAfter_of_isAccepted {token : Token} {depth : Nat}
    (h : token.isAccepted depth = true) : token.depthAfter depth = depth := by
  cases token with
  | start tag given selfClosing =>
    obtain ⟨rfl, hknown, -⟩ := (isAccepted_start_iff _ _ _ _).1 h
    exact depthAfter_start hknown given selfClosing
  | text t => rfl
  | finish tag => cases h
  | malformed => cases h

theorem accepted_sublist (depth : Nat) (tokens : List Token) :
    (accepted depth tokens).Sublist tokens := by
  induction tokens generalizing depth with
  | nil => exact .slnil
  | cons token rest ih =>
    rw [accepted]
    split
    · exact (ih _).cons_cons token
    · exact (ih _).cons token

end Token

/-- A tree while tokens are taken: the tree, the places of its open elements from the root inwards,
and the depth inside dropped elements. -/
structure Growth where
  root : Draft
  stack : List (List Nat)
  ignored : Nat

namespace Growth

def empty : Growth := ⟨.element "__root__" [] [], [[]], 0⟩

def innermost (g : Growth) : List Nat := Draft.IsSpine.innermost g.stack

def add (part : Draft) (g : Growth) : Growth :=
  { g with root := Draft.addAt part g.innermost g.root }

def push (element : Draft) (g : Growth) : Growth :=
  { g with
    root := Draft.addAt element g.innermost g.root
    stack := g.stack ++ [g.innermost ++ [g.root.sizeAt g.innermost]] }

def keep (count : Nat) (g : Growth) : Growth := { g with stack := g.stack.take count }

/-- Closes the innermost open element of a name with everything in it. The root is never closed. -/
def close (tag : Text) (g : Growth) : Growth :=
  let through := g.stack.tail.rdropWhile fun place => !(g.root.at? place).any (·.isElement tag)
  if through.isEmpty then g else g.keep through.length

def take (g : Growth) (token : Token) : Except Fault Growth :=
  let after := { g with ignored := token.depthAfter g.ignored }
  match token with
  | .text t =>
    if token.isAccepted g.ignored then do
      let segments ← Segment.readAll t
      return if segments.isEmpty then after else after.add (.text segments)
    else .ok after
  | .start tag given selfClosing =>
    if token.isAccepted g.ignored then
      let element := .element tag (Allowed.filterAttributes given) []
      .ok (if selfClosing || Allowed.voidTags.contains tag then after.add element
        else after.push element)
    else .ok after
  | .finish tag => .ok (if 0 < g.ignored then after else after.close tag)
  | .malformed => .error .malformedSection

def takeAll : Growth → List Token → Except Fault Growth
  | g, [] => .ok g
  | g, token :: rest => do (← g.take token).takeAll rest

/-- What taking a token does to a tree: nothing, to close some open elements, to add what the token
becomes, or to open it as well. Only an accepted token adds something. -/
inductive Changes (g : Growth) (token : Token) : Growth → Prop
  | none : token.isAccepted g.ignored = false →
      Changes g token { g with ignored := token.depthAfter g.ignored }
  | close {count : Nat} : token.isAccepted g.ignored = false → g.ignored = 0 → 0 < count →
      Changes g token (keep count { g with ignored := token.depthAfter g.ignored })
  | add {part : Draft} {entry : Draft.Entry} : token.isAccepted g.ignored = true →
      token.entry? = some entry → part.preorder = [entry] →
      Changes g token (add part { g with ignored := token.depthAfter g.ignored })
  | push {tag : Text} {attributes : Attributes} : token.isAccepted g.ignored = true →
      token.entry? = some (.element tag attributes) →
      Changes g token
        (push (.element tag attributes []) { g with ignored := token.depthAfter g.ignored })

theorem keep_keep (g : Growth) {count more : Nat} (h : count ≤ more) :
    (g.keep more).keep count = g.keep count := by
  rw [keep, keep, keep, List.take_take, Nat.min_eq_left h]

theorem changes_text {g g' : Growth} {t : Text} (h : g.take (.text t) = .ok g') :
    Changes g (.text t) g' := by
  unfold take at h
  dsimp only at h
  split at h
  · rename_i haccepted
    obtain ⟨segments, hs, h⟩ := Fault.bind_eq_ok_iff.1 h
    have hne : t ≠ [] := by
      rintro rfl
      simp [Token.isAccepted, Text.isBlank] at haccepted
    have hsome : segments.isEmpty = false := by
      simpa using Segment.ne_nil_of_readAll hs hne
    simp only [hsome, Bool.false_eq_true, if_false] at h
    have hentry : Token.entry? (.text t) = some (.text segments) := by rw [Token.entry?, hs]
    rw [← Except.ok.inj h]
    exact .add haccepted hentry rfl
  · rename_i haccepted
    rw [← Except.ok.inj h]
    exact .none (Bool.eq_false_iff.2 haccepted)

theorem changes_start {g g' : Growth} {tag : Text} {given : List (Text × Option Text)}
    {selfClosing : Bool} (h : g.take (.start tag given selfClosing) = .ok g') :
    Changes g (.start tag given selfClosing) g' := by
  unfold take at h
  dsimp only at h
  split at h
  · rename_i haccepted
    rw [← Except.ok.inj h]
    split
    · exact .add haccepted rfl rfl
    · exact .push haccepted rfl
  · rename_i haccepted
    rw [← Except.ok.inj h]
    exact .none (Bool.eq_false_iff.2 haccepted)

theorem changes_finish {g g' : Growth} {tag : Text} (h : g.take (.finish tag) = .ok g') :
    Changes g (.finish tag) g' := by
  unfold take at h
  dsimp only at h
  rw [← Except.ok.inj h]
  split
  · exact .none rfl
  · rename_i hdepth
    unfold close
    dsimp only
    split
    · exact .none rfl
    · rename_i hthrough
      have hcount := List.length_pos_iff.2 (mt List.isEmpty_iff.2 hthrough)
      exact .close rfl (Nat.eq_zero_of_not_pos hdepth) hcount

theorem changes_of_take {g g' : Growth} {token : Token} (h : g.take token = .ok g') :
    Changes g token g' := by
  cases token with
  | text t => exact changes_text h
  | start tag given selfClosing => exact changes_start h
  | finish tag => exact changes_finish h
  | malformed => cases h

theorem ignored_take {g g' : Growth} {token : Token} (h : g.take token = .ok g') :
    g'.ignored = token.depthAfter g.ignored := by cases changes_of_take h <;> rfl

/-- The open elements stay a spine of the tree. -/
theorem isSpine_take {g g' : Growth} {token : Token} (hs : g.root.IsSpine g.stack)
    (h : g.take token = .ok g') : g'.root.IsSpine g'.stack := by
  cases changes_of_take h with
  | none _ => exact hs
  | close _ _ hcount => exact hs.take hcount
  | add _ _ _ => exact hs.add _
  | push _ _ => exact hs.push _ _

/-- An accepted token comes last in document order, and any other token leaves the order as it
is. -/
theorem preorder_take {g g' : Growth} {token : Token} (hs : g.root.IsSpine g.stack)
    (h : g.take token = .ok g') :
    g'.root.preorder.map some = g.root.preorder.map some ++
      if token.isAccepted g.ignored then [token.entry?] else [] := by
  cases changes_of_take h with
  | none hnone => simp [hnone]
  | close hnone _ _ => simp [hnone, keep]
  | add haccepted hentry hpart =>
    rw [if_pos haccepted, hentry, ← List.map_singleton, ← List.map_append, ← hpart]
    exact congrArg _ (hs.preorder_add _)
  | push haccepted hentry =>
    rw [if_pos haccepted, hentry, ← List.map_singleton, ← List.map_append]
    exact congrArg _ (hs.preorder_add _)

theorem isSpine_empty : empty.root.IsSpine empty.stack := .last

theorem isSpine_takeAll {g g' : Growth} {tokens : List Token} (hs : g.root.IsSpine g.stack)
    (h : g.takeAll tokens = .ok g') : g'.root.IsSpine g'.stack := by
  induction tokens generalizing g with
  | nil => exact Except.ok.inj h ▸ hs
  | cons token rest ih =>
    obtain ⟨next, hnext, hrest⟩ := Fault.bind_eq_ok_iff.1 h
    exact ih (isSpine_take hs hnext) hrest

/-- The accepted tokens follow what was there in document order, as they arrive. -/
theorem preorder_takeAll {g g' : Growth} {tokens : List Token} (hs : g.root.IsSpine g.stack)
    (h : g.takeAll tokens = .ok g') :
    g'.root.preorder.map some = g.root.preorder.map some ++
      (Token.accepted g.ignored tokens).map Token.entry? := by
  induction tokens generalizing g with
  | nil => rw [← Except.ok.inj h, Token.accepted, List.map_nil, List.append_nil]
  | cons token rest ih =>
    obtain ⟨next, hnext, hrest⟩ := Fault.bind_eq_ok_iff.1 h
    rw [ih (isSpine_take hs hnext) hrest, preorder_take hs hnext, ignored_take hnext,
      Token.accepted, List.append_assoc]
    split <;> simp

end Growth
end TypedTemplate
