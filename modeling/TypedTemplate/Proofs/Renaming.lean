import TypedTemplate.Proofs.Lookup
import TypedTemplate.Proofs.ParsedTemplates
import TypedTemplate.Render
import TypedTemplate.Schema.Semantics
import TypedTemplate.Settings

/-!
# Renaming of aliases

The alias of an iteration is changed to another name in the directive that binds it, and in the
first component of every path that means it. An inner iteration that binds the same name hides
it: the source of the inner iteration still means the outer alias, while its condition and its
content mean the inner one. An attribute is written anew where the directive that it states is
changed; everything else about an element stays.
-/
namespace TypedTemplate

namespace Path

def newName (a b name : Text) : Text := if name = a then b else name

/-- A path whose first component, if it is a certain name, is changed to another. -/
def rename (a b path : Text) : Text :=
  newName a b (root path) ++ (split path).2.elim [] ('.' :: ·)

/-- A name that an alias may have without hiding a name of rows. -/
structure IsAliasName (name : Text) : Prop where
  identifier : isIdentifier name = true
  notImplicit : name ∉ implicitNames
  notReserved : name ≠ "self"

theorem IsAliasName.not_mem {name : Text} (h : IsAliasName name) : '.' ∉ name :=
  not_mem_of_isIdentifier h.identifier (by decide)

@[simp] theorem newName_left (a b : Text) : newName a b a = b := if_pos rfl

theorem newName_of_ne {a name : Text} (h : name ≠ a) (b : Text) : newName a b name = name :=
  if_neg h

@[simp] theorem newName_self (a name : Text) : newName a a name = name := by
  unfold newName
  split
  · rename_i h
    exact h.symm
  · rfl

theorem rename_of_ne {a path : Text} (h : root path ≠ a) (b : Text) : rename a b path = path := by
  rw [rename, newName_of_ne h]
  exact Text.cut_eq '.' path

@[simp] theorem rename_self (a path : Text) : rename a a path = path := by
  rw [rename, newName_self]
  exact Text.cut_eq '.' path

theorem split_rename {b : Text} (hb : '.' ∉ b) (a path : Text) :
    split (rename a b path) = (newName a b (root path), (split path).2) := by
  have hroot : '.' ∉ newName a b (root path) := by
    unfold newName
    split
    · exact hb
    · exact Text.not_mem_cut '.' path
  rw [rename]
  cases (split path).2 with
  | none => exact (congrArg (Text.cut '.') (List.append_nil _)).trans (Text.cut_of_not_mem hroot)
  | some rest => exact Text.cut_append_self hroot rest

theorem root_rename {b : Text} (hb : '.' ∉ b) (a path : Text) :
    root (rename a b path) = newName a b (root path) :=
  congrArg Prod.fst (split_rename hb a path)

theorem splitOn_rename {b : Text} (hb : '.' ∉ b) (a path : Text) :
    Text.splitOn '.' (rename a b path) =
      newName a b (root path) :: (Text.splitOn '.' path).tail := by
  have hsplit : Text.cut '.' (rename a b path) = (newName a b (root path), (split path).2) :=
    split_rename hb a path
  rw [Text.splitOn_eq_cut, hsplit, Text.splitOn_eq_cut '.' path]
  rfl

theorem isChain_rename {b : Text} (hb : isIdentifier b = true) (a : Text) {path : Text}
    (hp : isChain path = true) : isChain (rename a b path) = true := by
  by_cases h : root path = a
  · have hdot : '.' ∉ b := not_mem_of_isIdentifier hb (by decide)
    rw [isChain, splitOn_rename hdot, h, newName_left, List.all_cons, hb, Bool.true_and,
      List.all_eq_true]
    intro part hpart
    exact isIdentifier_of_mem_splitOn hp (List.mem_of_mem_tail hpart)
  · rw [rename_of_ne h]
    exact hp

theorem components_rename {b : Text} (hb : isIdentifier b = true) (a : Text) {path : Text}
    (hp : isChain path = true) :
    components (rename a b path) = newName a b (root path) :: (components path).tail := by
  have hdot : '.' ∉ b := not_mem_of_isIdentifier hb (by decide)
  rw [components_of_isResolved (isResolved_of_isChain (isChain_rename hb a hp)),
    splitOn_rename hdot, components_of_isResolved (isResolved_of_isChain hp)]

end Path

def Iteration.written (i : Iteration) : Text := i.source ++ " as " ++ i.itemName

namespace Head

/-- The head with another iteration. What is iterated already stays as it is written. -/
def withIteration (head : Head) (i : Iteration) : Head :=
  if head.iteration = some i then head
  else { head with
    attributes := head.attributes.set i.kind.attributeName i.written
    iteration := some i }

/-- The head with another condition. The condition it has already stays as it is written. -/
def withCondition (head : Head) (path : Text) : Head :=
  if head.condition = some path then head
  else { head with attributes := head.attributes.set "data-if" path, condition := some path }

def binds (head : Head) (name : Text) : Bool := head.iteration.any (·.itemName == name)

def renameSource (a b : Text) (head : Head) : Head :=
  match head.iteration with
  | none => head
  | some i => head.withIteration { i with source := Path.rename a b i.source }

def renameCondition (a b : Text) (head : Head) : Head :=
  match head.condition with
  | none => head
  | some path => head.withCondition (Path.rename a b path)

/-- The aliases and the first components of paths in the directives of an element. -/
def names (head : Head) : List Text :=
  (head.iteration.toList.flatMap fun i => [i.itemName, Path.root i.source]) ++
    head.condition.toList.map Path.root

/-- What a name that is changed becomes inside an element: itself where it is hidden. -/
def innerName (a b : Text) (head : Head) : Text := if head.binds a then a else b

/-- The head with a name changed where it is free: the condition stands inside the iteration. -/
def rename (a b : Text) (head : Head) : Head :=
  (head.renameSource a b).renameCondition a (head.innerName a b)

/-- The head with another alias for its iteration, in the condition too. -/
def renameAlias (b : Text) (head : Head) : Head :=
  match head.iteration with
  | none => head
  | some i => (head.withIteration { i with itemName := b }).renameCondition i.itemName b

def directiveNames : List Text := ["data-page", "data-repeat", "data-if"]

/-- What remains of a head without its iteration and its condition. -/
def bare (head : Head) : Head where
  tag := head.tag
  attributes := head.attributes.filter fun e => !directiveNames.contains e.1
  iteration := none
  condition := none

theorem itemName_mem_names {head : Head} {i : Iteration} (h : head.iteration = some i) :
    i.itemName ∈ head.names := by
  simp [names, h]

theorem source_mem_names {head : Head} {i : Iteration} (h : head.iteration = some i) :
    Path.root i.source ∈ head.names := by
  simp [names, h]

theorem condition_mem_names {head : Head} {path : Text} (h : head.condition = some path) :
    Path.root path ∈ head.names := by
  simp [names, h]

theorem innerName_of_none {head : Head} (h : head.iteration = none) (a b : Text) :
    head.innerName a b = b := by
  simp [innerName, binds, h]

theorem innerName_of_some {head : Head} {i : Iteration} (h : head.iteration = some i)
    (a b : Text) : head.innerName a b = if i.itemName = a then a else b := by
  simp [innerName, binds, h]

theorem isAliasName_innerName {a b : Text} (ha : Path.IsAliasName a) (hb : Path.IsAliasName b)
    (head : Head) : Path.IsAliasName (head.innerName a b) := by
  unfold innerName
  split
  · exact ha
  · exact hb

theorem iteration_withIteration (head : Head) (i : Iteration) :
    (head.withIteration i).iteration = some i := by
  unfold withIteration
  split
  · assumption
  · rfl

theorem condition_withIteration (head : Head) (i : Iteration) :
    (head.withIteration i).condition = head.condition := by
  unfold withIteration
  split <;> rfl

theorem bare_withIteration (head : Head) (i : Iteration) :
    (head.withIteration i).bare = head.bare := by
  have hname : (!directiveNames.contains i.kind.attributeName) = false := by
    cases i.kind <;> decide
  unfold withIteration
  split
  · rfl
  · simp only [bare, Keyed.filter_set (p := fun name => !directiveNames.contains name) hname]

theorem condition_withCondition (head : Head) (path : Text) :
    (head.withCondition path).condition = some path := by
  unfold withCondition
  split
  · assumption
  · rfl

theorem iteration_withCondition (head : Head) (path : Text) :
    (head.withCondition path).iteration = head.iteration := by
  unfold withCondition
  split <;> rfl

theorem bare_withCondition (head : Head) (path : Text) :
    (head.withCondition path).bare = head.bare := by
  have hname : (!directiveNames.contains ("data-if" : Text)) = false := by decide
  unfold withCondition
  split
  · rfl
  · simp only [bare, Keyed.filter_set (p := fun name => !directiveNames.contains name) hname]

theorem bare_renameCondition (a b : Text) (head : Head) :
    (head.renameCondition a b).bare = head.bare := by
  unfold renameCondition
  split
  · rfl
  · exact bare_withCondition head _

theorem iteration_renameCondition (a b : Text) (head : Head) :
    (head.renameCondition a b).iteration = head.iteration := by
  unfold renameCondition
  split
  · rfl
  · exact iteration_withCondition head _

theorem condition_renameCondition (a b : Text) (head : Head) :
    (head.renameCondition a b).condition = head.condition.map (Path.rename a b) := by
  unfold renameCondition
  cases hc : head.condition with
  | none => exact hc
  | some path => exact condition_withCondition head _

theorem bare_rename (a b : Text) (head : Head) : (head.rename a b).bare = head.bare := by
  rw [rename, bare_renameCondition]
  unfold renameSource
  split
  · rfl
  · exact bare_withIteration head _

theorem iteration_rename (a b : Text) (head : Head) :
    (head.rename a b).iteration =
      head.iteration.map fun i => { i with source := Path.rename a b i.source } := by
  rw [rename, iteration_renameCondition]
  unfold renameSource
  cases hi : head.iteration with
  | none => exact hi
  | some i => exact iteration_withIteration head _

theorem condition_rename (a b : Text) (head : Head) :
    (head.rename a b).condition =
      head.condition.map (Path.rename a (head.innerName a b)) := by
  have hsource : (head.renameSource a b).condition = head.condition := by
    unfold renameSource
    split
    · rfl
    · exact condition_withIteration head _
  rw [rename, condition_renameCondition, hsource]

theorem bare_renameAlias (b : Text) (head : Head) : (head.renameAlias b).bare = head.bare := by
  unfold renameAlias
  split
  · rfl
  · rw [bare_renameCondition, bare_withIteration]

theorem iteration_renameAlias (b : Text) {head : Head} {i : Iteration}
    (hi : head.iteration = some i) :
    (head.renameAlias b).iteration = some { i with itemName := b } := by
  simp only [renameAlias, hi, iteration_renameCondition, iteration_withIteration]

theorem condition_renameAlias (b : Text) {head : Head} {i : Iteration}
    (hi : head.iteration = some i) :
    (head.renameAlias b).condition = head.condition.map (Path.rename i.itemName b) := by
  simp only [renameAlias, hi, condition_renameCondition, condition_withIteration]

theorem renameSource_self (a : Text) (head : Head) : head.renameSource a a = head := by
  unfold renameSource
  cases hi : head.iteration with
  | none => rfl
  | some i => simp only [Path.rename_self, withIteration, hi, if_true]

theorem renameCondition_self (a : Text) (head : Head) : head.renameCondition a a = head := by
  unfold renameCondition
  cases hc : head.condition with
  | none => rfl
  | some path => simp only [Path.rename_self, withCondition, hc, if_true]

end Head

namespace Head

theorem tag_bare (head : Head) : head.bare.tag = head.tag := rfl

theorem valueOf_bare (head : Head) {name : Text} (h : name ∉ directiveNames) :
    head.bare.valueOf name = head.valueOf name := by
  rw [valueOf, bare, Keyed.get?_filter fun name => !directiveNames.contains name]
  simp [h, valueOf]

theorem hasBreakAfter_bare (head : Head) :
    Render.hasBreakAfter head.bare = Render.hasBreakAfter head := by
  have hbreak : ("data-break-after" : Text) ∉ directiveNames := by decide
  have hstyle : ("style" : Text) ∉ directiveNames := by decide
  rw [Render.hasBreakAfter, head.valueOf_bare hbreak, head.valueOf_bare hstyle,
    Render.hasBreakAfter]

theorem attributes_bare (head : Head) (breakAfter : Bool) :
    Render.attributes head.bare breakAfter = Render.attributes head breakAfter := by
  have hvalue : ∀ name ∉ directiveNames, head.bare.valueOf name = head.valueOf name :=
    fun name => head.valueOf_bare
  have hstyle : Render.styleParts head.bare breakAfter = Render.styleParts head breakAfter := by
    unfold Render.styleParts
    simp only [hvalue "style" (by decide), hvalue "data-break-before" (by decide),
      hvalue "data-break-after" (by decide)]
  have hcontrol : ∀ name ∈ directiveNames, name ∈ Allowed.controlAttributes := by decide
  have hshown : (head.bare.attributes.filter fun e =>
        !Allowed.controlAttributes.contains e.1 && e.1 != "style".toList) =
      head.attributes.filter fun e =>
        !Allowed.controlAttributes.contains e.1 && e.1 != "style".toList := by
    rw [bare, List.filter_filter]
    apply List.filter_congr
    intro entry _
    by_cases hd : entry.1 ∈ directiveNames
    · simp [hd, hcontrol entry.1 hd]
    · simp [hd]
  unfold Render.attributes
  dsimp only
  rw [hstyle]
  exact congrArg (fun shown : Attributes => List.flatMap _ (List.map _ shown ++ _)) hshown

theorem inside_bare (head : Head) (inherited : Option Semantics) (delimiter : Text) :
    Semantics.inside head.bare inherited delimiter = Semantics.inside head inherited delimiter := by
  have hvalue : ∀ part : SemanticPart,
      head.bare.valueOf part.attributeName = head.valueOf part.attributeName := by
    intro part
    apply valueOf_bare
    cases part <;> decide
  simp only [Semantics.inside, hvalue]

theorem takeMeta_bare (delimiter : Text) (found : Keyed Semantics) (head : Head) :
    Semantics.takeMeta delimiter found head.bare = Semantics.takeMeta delimiter found head := by
  have hcontent : ("content" : Text) ∉ directiveNames := by decide
  have hname : ("name" : Text) ∉ directiveNames := by decide
  rw [Semantics.takeMeta, head.valueOf_bare hcontent, head.valueOf_bare hname]
  rfl

theorem take_bare (d : Settings.Declared) (head : Head) : d.take head.bare = d.take head := by
  have hcontent : ("content" : Text) ∉ directiveNames := by decide
  have hname : ("name" : Text) ∉ directiveNames := by decide
  rw [Settings.Declared.take, head.valueOf_bare hcontent, head.valueOf_bare hname]
  rfl

end Head

theorem Semantics.ofHeads_map_bare (heads : List Head) (delimiter : Text) :
    ofHeads (heads.map Head.bare) delimiter = ofHeads heads delimiter := by
  rw [ofHeads, List.foldlM_map]
  exact congrArg (fun take => List.foldlM take [] heads)
    (funext fun found => funext fun head => head.takeMeta_bare delimiter found)

theorem Settings.ofHeads_map_bare (heads : List Head) :
    ofHeads (heads.map Head.bare) = ofHeads heads := by
  have htake : (heads.map Head.bare).foldl Declared.take ⟨none, none⟩ =
      heads.foldl Declared.take ⟨none, none⟩ := by
    rw [List.foldl_map]
    exact congrArg (fun take => List.foldl take ⟨none, none⟩ heads)
      (funext fun d => funext fun head => head.take_bare d)
  rw [ofHeads, htake, ofHeads]

namespace Segment

def rename (a b : Text) : Segment → Segment
  | .literal t => .literal t
  | .interpolation i => .interpolation { i with path := Path.rename a b i.path }

def names : Segment → List Text
  | .literal _ => []
  | .interpolation i => [Path.root i.path]

end Segment

namespace Node

mutual

/-- A part of a template with a name changed wherever it is free: it is not changed inside an
element whose iteration has it for its alias, but for the source of that iteration. -/
def rename (a b : Text) : Node → Node
  | .text segments => .text (segments.map (Segment.rename a b))
  | .element head children =>
    if head.binds a then .element (head.renameSource a b) children
    else .element ((head.renameSource a b).renameCondition a b) (renameList a b children)

def renameList (a b : Text) : List Node → List Node
  | [] => []
  | n :: rest => rename a b n :: renameList a b rest

end

/-- An element whose iteration has another alias, with the name changed wherever it means that
alias. The source of the iteration means nothing by it. -/
def renameAlias (b : Text) : Node → Node
  | .text segments => .text segments
  | .element head children =>
    match head.iteration with
    | none => .element head children
    | some i => .element (head.renameAlias b) (renameList i.itemName b children)

mutual

def names : Node → List Text
  | .text segments => segments.flatMap Segment.names
  | .element head children => head.names ++ namesOfList children

def namesOfList : List Node → List Text
  | [] => []
  | n :: rest => names n ++ namesOfList rest

end

mutual

theorem rename_self (a : Text) : ∀ n : Node, n.rename a a = n
  | .text segments => by
    have hall : ∀ segment ∈ segments, segment.rename a a = segment := by
      intro segment _
      cases segment with
      | literal t => rfl
      | interpolation i => simp only [Segment.rename, Path.rename_self]
    rw [rename, List.map_congr_left hall, List.map_id']
  | .element head children => by
    rw [rename, Head.renameSource_self, Head.renameCondition_self, renameList_self, ite_self]

theorem renameList_self (a : Text) : ∀ all : List Node, renameList a a all = all
  | [] => rfl
  | n :: rest => by rw [renameList, rename_self, renameList_self]

end

/-- An element that hides a name is one in which the name becomes itself. -/
theorem rename_element (a b : Text) (head : Head) (children : List Node) :
    rename a b (.element head children) =
      .element (head.rename a b) (renameList a (head.innerName a b) children) := by
  rw [rename]
  unfold Head.rename Head.innerName
  split
  · rw [Head.renameCondition_self, renameList_self]
  · rfl

mutual

theorem map_bare_heads_rename (a b : Text) :
    ∀ n : Node, (n.rename a b).heads.map Head.bare = n.heads.map Head.bare
  | .text segments => rfl
  | .element head children => by
    rw [rename_element, heads, heads, List.map_cons, List.map_cons, Head.bare_rename,
      map_bare_headsOfList_rename]

theorem map_bare_headsOfList_rename (a b : Text) : ∀ all : List Node,
    (headsOfList (renameList a b all)).map Head.bare = (headsOfList all).map Head.bare
  | [] => rfl
  | n :: rest => by
    rw [renameList, headsOfList, headsOfList, List.map_append, List.map_append,
      map_bare_heads_rename, map_bare_headsOfList_rename]

end

/-- Two trees that are the same but for one part. -/
inductive Differs (part other : Node) : Node → Node → Prop
  | here : Differs part other part other
  | inside {head : Head} {before after : List Node} {n m : Node} : Differs part other n m →
      Differs part other (.element head (before ++ n :: after))
        (.element head (before ++ m :: after))

end Node
end TypedTemplate
