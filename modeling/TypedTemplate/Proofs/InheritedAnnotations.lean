import TypedTemplate.Proofs.CompiledTemplates
import TypedTemplate.Proofs.LaidAnnotations

/-!
# Inherited annotations

An element hands on each part of an annotation that it has no attribute for, and so does one whose
attribute is blank. What holds inside nested elements is therefore what the innermost of them states
that has an attribute for the part. An attribute for examples may have text and no example between
its delimiters. Such an element states nothing and still takes the place of those around it.
-/
namespace TypedTemplate

namespace Text

theorem mem_of_mem_splitOnTextFrom {separator piece : Text} {fuel : Nat} {begun t : Text}
    (h : piece ∈ splitOnTextFrom separator fuel begun t) {c : Char} (hc : c ∈ piece) :
    c ∈ begun ∨ c ∈ t := by
  induction fuel generalizing begun t with
  | zero =>
    obtain rfl := List.mem_singleton.1 h
    simpa using hc
  | succ fuel ih =>
    cases t with
    | nil =>
      obtain rfl := List.mem_singleton.1 h
      simpa using hc
    | cons d rest =>
      rw [splitOnTextFrom] at h
      cases ha : after? separator (d :: rest) with
      | none =>
        rw [ha] at h
        rcases ih h with hm | hm
        · rcases List.mem_cons.1 hm with rfl | hm
          · exact .inr List.mem_cons_self
          · exact .inl hm
        · exact .inr (List.mem_cons_of_mem d hm)
      | some tail =>
        rw [ha] at h
        rcases List.mem_cons.1 h with rfl | h
        · exact .inl (List.mem_reverse.1 hc)
        · obtain hm | hm := ih h
          · cases hm
          · exact .inr (after?_eq_some ha ▸ List.mem_append_right separator hm)

end Text

/-- What an attribute states of a part of an annotation: a text that is not blank, or the examples
between its delimiters if there are any. -/
def SemanticPart.ofText? (delimiter raw : Text) : SemanticPart → Option Value
  | .description | .instruction => if raw.isBlank then none else some (.text raw)
  | .examples =>
    match Semantics.splitExamples raw delimiter with
    | .ok [] | .error _ => none
    | .ok texts => some (.list (texts.map .text))

theorem SemanticPart.ofText?_of_isBlank {raw : Text} (h : raw.isBlank = true) (delimiter : Text)
    (part : SemanticPart) : part.ofText? delimiter raw = none := by
  cases part with
  | description | instruction => exact if_pos h
  | examples =>
    have htrimmed : ∀ piece ∈ Text.splitOnText delimiter raw, piece.trim = [] := by
      intro piece hpiece
      refine Text.trim_eq_nil_iff.2 (List.all_eq_true.2 fun c hc => ?_)
      obtain hm | hm := Text.mem_of_mem_splitOnTextFrom hpiece hc
      · cases hm
      · exact List.all_eq_true.1 h c hm
    have hnone : ((Text.splitOnText delimiter raw).map Text.trim).filter (! ·.isEmpty) = [] := by
      simpa using htrimmed
    rw [ofText?, Semantics.splitExamples, hnone]
    cases delimiter.isEmpty <;> rfl

namespace Head

variable (delimiter : Text) (part : SemanticPart)

/-- Whether an element has an attribute for a part of an annotation. A blank one counts as
absent. -/
def mentions (head : Head) : Bool := !(head.valueOf part.attributeName).isBlank

/-- What an element states itself of a part of an annotation. -/
def states? (head : Head) : Option Value :=
  part.ofText? delimiter (head.valueOf part.attributeName)

theorem mentions_of_states? {head : Head} {value : Value}
    (h : head.states? delimiter part = some value) : head.mentions part = true := by
  rw [mentions, Bool.not_eq_true', ← Bool.not_eq_true]
  intro hblank
  rw [states?, SemanticPart.ofText?_of_isBlank hblank] at h
  cases h

theorem eq_examples_of_states?_eq_none {head : Head} (hm : head.mentions part = true)
    (h : head.states? delimiter part = none) : part = .examples := by
  have hraw : (head.valueOf part.attributeName).isBlank = false := by simpa [mentions] using hm
  cases part with
  | description | instruction => simp [states?, SemanticPart.ofText?, hraw] at h
  | examples => rfl

end Head

namespace Semantics

variable {delimiter : Text}

theorem statement?_setPart {a b : Semantics} {part : SemanticPart} {raw : Text}
    (h : a.setPart part raw delimiter = .ok b) (hraw : raw.isBlank = false)
    (other : SemanticPart) : b.statement? other =
      if other = part then part.ofText? delimiter raw else a.statement? other := by
  have hne : raw ≠ [] := by
    rintro rfl
    cases hraw
  cases part with
  | description | instruction =>
    obtain rfl := Except.ok.inj h
    cases other <;> simp [statement?, SemanticPart.ofText?, hraw, hne]
  | examples =>
    obtain ⟨texts, htexts, h⟩ := Fault.bind_eq_ok_iff.1 h
    obtain rfl := Except.ok.inj h
    cases other with
    | description | instruction => rfl
    | examples =>
      rw [if_pos rfl, SemanticPart.ofText?, htexts]
      cases texts <;> rfl

def takePart (delimiter : Text) (head : Head) (current : Option Semantics) (part : SemanticPart) :
    Except Fault (Option Semantics) :=
  let raw := head.valueOf part.attributeName
  if raw.isBlank then .ok current
  else some <$> (current.getD empty).setPart part raw delimiter

theorem statement?_takePart {head : Head} {current next : Option Semantics} {part : SemanticPart}
    (h : takePart delimiter head current part = .ok next) (other : SemanticPart) :
    next.bind (·.statement? other) =
      if other = part ∧ head.mentions part then head.states? delimiter part
      else current.bind (·.statement? other) := by
  unfold takePart at h
  dsimp only at h
  split at h
  · rename_i hblank
    obtain rfl := Except.ok.inj h
    simp [Head.mentions, hblank]
  · rename_i hblank
    rw [Bool.not_eq_true] at hblank
    obtain ⟨b, hb, rfl⟩ := Fault.map_eq_ok_iff.1 h
    have hempty : (current.getD empty).statement? other = current.bind (·.statement? other) := by
      cases current with
      | none => cases other <;> rfl
      | some a => rfl
    rw [Option.bind_some, statement?_setPart hb hblank, hempty]
    simp [Head.mentions, Head.states?, hblank]

theorem statement?_takeParts {head : Head} {parts : List SemanticPart} (hn : parts.Nodup)
    {current last : Option Semantics}
    (h : parts.foldlM (takePart delimiter head) current = .ok last) (part : SemanticPart) :
    last.bind (·.statement? part) =
      if part ∈ parts ∧ head.mentions part then head.states? delimiter part
      else current.bind (·.statement? part) := by
  induction parts generalizing current with
  | nil =>
    obtain rfl := Except.ok.inj h
    simp
  | cons first rest ih =>
    rw [List.foldlM_cons] at h
    obtain ⟨next, hnext, h⟩ := Fault.bind_eq_ok_iff.1 h
    obtain ⟨hfirst, hrest⟩ := List.nodup_cons.1 hn
    rw [ih hrest h, statement?_takePart hnext]
    by_cases hp : part = first
    · subst hp
      simp [hfirst]
    · simp [hp]

theorem statement?_inside {head : Head} {inherited semantic : Option Semantics}
    (h : inside head inherited delimiter = .ok semantic) (part : SemanticPart) :
    semantic.bind (·.statement? part) =
      if head.mentions part then head.states? delimiter part
      else inherited.bind (·.statement? part) := by
  have hall : part ∈ SemanticPart.all := by cases part <;> decide
  have htaken : SemanticPart.all.foldlM (takePart delimiter head) inherited = .ok semantic := h
  simpa only [hall, true_and] using statement?_takeParts (by decide) htaken part

theorem exists_inForce (hd : delimiter ≠ []) (around : List Head) :
    ∃ semantic, inForce delimiter around = .ok semantic :=
  Fault.exists_foldlM (fun inherited head => exists_inside hd head inherited) around none

/-- Inside elements holds what the innermost of them states that has an attribute for it. -/
theorem statement?_inForce {around : List Head} {semantic : Option Semantics}
    (h : inForce delimiter around = .ok semantic) (part : SemanticPart) :
    semantic.bind (·.statement? part) =
      (around.filter (·.mentions part)).getLast?.bind (·.states? delimiter part) := by
  induction around using List.reverseRecOn generalizing semantic with
  | nil =>
    obtain rfl := Except.ok.inj h
    rfl
  | append_singleton around head ih =>
    rw [inForce_concat] at h
    obtain ⟨inherited, hinherited, h⟩ := Fault.bind_eq_ok_iff.1 h
    rw [statement?_inside h, ih hinherited, List.filter_append]
    cases hm : head.mentions part <;> simp [hm]

/-- Elements clear a part of an annotation if one of them states it and the innermost that has an
attribute for it states nothing. -/
def IsCleared (delimiter : Text) (part : SemanticPart) (around : List Head) : Prop :=
  (∃ head ∈ around, (head.states? delimiter part).isSome) ∧
    ∃ head ∈ (around.filter (·.mentions part)).getLast?, head.states? delimiter part = none

instance (delimiter : Text) (part : SemanticPart) (around : List Head) :
    Decidable (IsCleared delimiter part around) :=
  inferInstanceAs (Decidable (_ ∧ _))

variable {part : SemanticPart} {around : List Head} {semantic : Option Semantics}

theorem statement?_of_isCleared (h : inForce delimiter around = .ok semantic)
    (hc : IsCleared delimiter part around) :
    semantic.bind (·.statement? part) = none ∧
      (around.filterMap (·.states? delimiter part)).getLast?.isSome := by
  obtain ⟨⟨head, hhead, hstates⟩, last, hlast, hnone⟩ := hc
  constructor
  · rw [statement?_inForce h, hlast]
    exact hnone
  · obtain ⟨value, hvalue⟩ := Option.isSome_iff_exists.1 hstates
    have hmem : value ∈ around.filterMap (·.states? delimiter part) :=
      List.mem_filterMap.2 ⟨head, hhead, hvalue⟩
    exact List.getLast?_isSome.2 (List.ne_nil_of_mem hmem)

theorem filterMap_states? (delimiter : Text) (part : SemanticPart) (around : List Head) :
    around.filterMap (·.states? delimiter part) =
      (around.filter (·.mentions part)).filterMap (·.states? delimiter part) := by
  rw [List.filterMap_filter]
  refine List.filterMap_congr fun head _ => ?_
  split
  · rfl
  · rename_i hm
    rw [← Option.not_isSome_iff_eq_none, Option.isSome_iff_exists]
    rintro ⟨value, hvalue⟩
    exact hm (Head.mentions_of_states? delimiter part hvalue)

theorem statement?_of_not_isCleared (h : inForce delimiter around = .ok semantic)
    (hc : ¬ IsCleared delimiter part around) :
    semantic.bind (·.statement? part) =
      (around.filterMap (·.states? delimiter part)).getLast? := by
  rw [statement?_inForce h]
  cases hlast : (around.filter (·.mentions part)).getLast? with
  | none => rw [filterMap_states?, List.getLast?_eq_none_iff.1 hlast]; rfl
  | some head =>
    rw [Option.bind_some]
    cases hs : head.states? delimiter part with
    | some value =>
      obtain ⟨outer, houter⟩ := List.getLast?_eq_some_iff.1 hlast
      rw [filterMap_states?, houter, List.filterMap_append]
      simp [hs]
    | none =>
      have hnone : ∀ other ∈ around, other.states? delimiter part = none := by
        intro other hother
        rw [← Option.not_isSome_iff_eq_none]
        exact fun hsome => hc ⟨⟨other, hother, hsome⟩, head, hlast, hs⟩
      rw [List.filterMap_eq_nil_iff.2 hnone]
      rfl

end Semantics

/-- Inside elements every part of an annotation is what the innermost of them states that states it,
unless they clear it. Only examples are ever cleared, and then nothing is left of them. -/
theorem innermost_statement_holds_iff_not_cleared {delimiter : Text} (hd : delimiter ≠ [])
    (around : List Head) : ∃ semantic, Semantics.inForce delimiter around = .ok semantic ∧
      ∀ part,
        (semantic.bind (·.statement? part) =
            (around.filterMap (·.states? delimiter part)).getLast? ↔
          ¬ Semantics.IsCleared delimiter part around) ∧
        (Semantics.IsCleared delimiter part around →
          part = .examples ∧ semantic.bind (·.statement? part) = none) := by
  obtain ⟨semantic, h⟩ := Semantics.exists_inForce hd around
  refine ⟨semantic, h, fun part => ⟨⟨?_, Semantics.statement?_of_not_isCleared h⟩, ?_⟩⟩
  · intro hsame hc
    obtain ⟨hnone, hsome⟩ := Semantics.statement?_of_isCleared h hc
    rw [← hsame, hnone] at hsome
    cases hsome
  · intro hc
    refine ⟨?_, (Semantics.statement?_of_isCleared h hc).1⟩
    obtain ⟨-, head, hlast, hnone⟩ := hc
    have hm := List.mem_filter.1 (List.mem_of_getLast? hlast)
    exact Head.eq_examples_of_states?_eq_none delimiter part hm.2 hnone

def exemplifiedBuyer (outer inner : Text) : Text :=
  "<section data-semantic-description='Party' data-semantic-examples='" ++ outer ++
  "'><p data-semantic-description=' ' data-semantic-examples='" ++ inner ++
  "'>\x7b\x7bbuyer:string\x7d\x7d</p></section>"

/-- The elements around the only field of a template. -/
def Node.aroundField? (root : Node) : Option (List Head) :=
  match root.fields .empty [] with
  | [(_, around)] => some around
  | _ => none

/-- The buyer has examples of its own, and its blank description leaves that of the section. -/
theorem buyer_has_inner_examples_and_outer_description :
    ∃ root around semantic, Node.ofMarkup (exemplifiedBuyer "A;B" "C; D") = .ok root ∧
      root.aroundField? = some around ∧ Semantics.inForce ";" around = .ok (some semantic) ∧
      semantic.statement? .examples = some (.list [.text "C", .text "D"]) ∧
      semantic.statement? .description = some (.text "Party") := by
  have hread : Fault.succeedsWith (fun root => root.aroundField?.any fun around => decide (
        (∀ part ∈ SemanticPart.all, ¬ Semantics.IsCleared ";" part around) ∧
        (around.filterMap (·.states? ";" .examples)).getLast? =
          some (.list [.text "C", .text "D"]) ∧
        (around.filterMap (·.states? ";" .description)).getLast? = some (.text "Party")))
      (Node.ofMarkup (exemplifiedBuyer "A;B" "C; D")) = true := by
    decide +kernel
  obtain ⟨root, hm, hroot⟩ := Fault.exists_of_succeedsWith hread
  obtain ⟨around, haround, hstates⟩ := (Option.any_eq_true _ _).1 hroot
  obtain ⟨hkept, hexamples, hdescription⟩ := of_decide_eq_true hstates
  have hdelimiter : ";".toList ≠ [] := by decide
  obtain ⟨semantic, hs, hparts⟩ := innermost_statement_holds_iff_not_cleared hdelimiter around
  have hinner := (hparts .examples).1.2 (hkept _ (by decide))
  have houter := (hparts .description).1.2 (hkept _ (by decide))
  rw [hexamples] at hinner
  rw [hdescription] at houter
  cases semantic with
  | none => cases hinner
  | some a => exact ⟨root, around, a, hm, haround, hs, hinner, houter⟩

/-- A delimiter alone clears the examples of the section. -/
theorem delimiter_clears_outer_examples :
    ∃ root around semantic, Node.ofMarkup (exemplifiedBuyer "A" ";") = .ok root ∧
      root.aroundField? = some around ∧ Semantics.inForce ";" around = .ok semantic ∧
      semantic.bind (·.statement? .examples) = none ∧
      (around.filterMap (·.states? ";" .examples)).getLast? = some (.list [.text "A"]) := by
  have hread : Fault.succeedsWith (fun root => root.aroundField?.any fun around => decide (
        Semantics.inForce ";" around = .ok (some ⟨some "Party", none, some []⟩) ∧
        (around.filterMap (·.states? ";" .examples)).getLast? = some (.list [.text "A"])))
      (Node.ofMarkup (exemplifiedBuyer "A" ";")) = true := by
    decide +kernel
  obtain ⟨root, hm, hroot⟩ := Fault.exists_of_succeedsWith hread
  obtain ⟨around, haround, htest⟩ := (Option.any_eq_true _ _).1 hroot
  obtain ⟨hs, hstates⟩ := of_decide_eq_true htest
  exact ⟨root, around, _, hm, haround, hs, rfl, hstates⟩

end TypedTemplate
