import TypedTemplate.Proofs.JudgedData

/-!
# Reported places

A violation is reported at the place in the data where it lies. There the schema of the same place
states a keyword that the value breaks by itself, without regard to its parts; or the place is that
of a property that is absent, the first of those that the schema requires in order. Places are
followed from the inside: each keyword that holds the parts of a value against other schemas puts
its step in front of what these report.
-/
namespace TypedTemplate

namespace Report

/-- What holds of the violation with which a report begins. A report that breaks off does so with
a fault of its own. -/
def Tells (P : Violation → Prop) : Report → Prop
  | .empty => True
  | .fail f => f.isViolation = false
  | .violated v _ => P v

variable {P Q : Violation → Prop} {r : Report}

theorem Tells.mono (h : r.Tells P) (hpq : ∀ v, P v → Q v) : r.Tells Q := by
  cases r with
  | empty => trivial
  | fail f => exact h
  | violated v rest => exact hpq v h

theorem tells_require {holds : Bool} {b : Breach} (h : P ⟨[], b⟩) : (require holds b).Tells P := by
  cases holds
  · exact h
  · trivial

theorem tells_andThen {next : Unit → Report} (hr : r.Tells P)
    (hnext : r = .empty → (next ()).Tells P) : (r.andThen next).Tells P := by
  cases r with
  | empty => exact hnext rfl
  | fail f => exact hr
  | violated v rest => exact hr

theorem tells_inside {step : DataStep} (h : r.Tells fun v => P (v.inside step)) :
    (r.inside step).Tells P := by
  cases r with
  | empty => trivial
  | fail f => exact h
  | violated v rest => exact h

/-- The first violation of several things is that of one before which all are kept. -/
theorem tells_each_of_first {α : Type} {check : α → Report} {l : List α}
    (h : ∀ before x after, l = before ++ x :: after → (∀ y ∈ before, check y = .empty) →
      (check x).Tells P) : (each check l).Tells P := by
  induction l with
  | nil => trivial
  | cons first rest ih =>
    refine tells_andThen (h [] first rest rfl nofun) fun hempty => ih ?_
    intro before x after hl hbefore
    exact h (first :: before) x after (congrArg _ hl)
      (List.forall_mem_cons.2 ⟨hempty, hbefore⟩)

theorem tells_each {α : Type} {check : α → Report} {l : List α}
    (h : ∀ x ∈ l, (check x).Tells P) : (each check l).Tells P :=
  tells_each_of_first fun _ x _ hl _ => h x (hl ▸ List.mem_append_right _ List.mem_cons_self)

end Report

/-- Whether an object lacks a property that is required of it. -/
def Breach.isMissing : Breach → Bool
  | .missing _ _ => true
  | _ => false

/-- A violation that was met at the value as a whole, and not for want of a property. -/
def Violation.IsOwn (v : Violation) : Prop :=
  v.location = [] ∧ v.breach.isMissing = false

theorem Violation.toFault_of_not_isMissing {b : Breach} (h : b.isMissing = false)
    (location : List DataStep) :
    Violation.toFault ⟨location, b⟩ = .violation (dataPath location) b.message := by
  cases b with
  | missing name required => cases h
  | _ => rfl

theorem Assertion.tells_multipleOf (step : Number) (v : Value) :
    (multipleOf (.number step) v).Tells Violation.IsOwn := by
  cases v with
  | number n =>
    have hcheck : multipleOf (.number step) (.number n) = .ofExcept do
        return .require (← isMultiple n step) (.multiple n (.number step)) := rfl
    rw [hcheck]
    cases hm : isMultiple n step with
    | ok b => exact Report.tells_require ⟨rfl, rfl⟩
    | error f => exact noViolation_isMultiple n step f hm
  | null | bool _ | text _ | list _ | object _ => trivial

theorem Assertion.tells_pattern (source : Text) (v : Value) :
    (pattern (.text source) v).Tells Violation.IsOwn := by
  cases v with
  | text t =>
    have hcheck : pattern (.text source) (.text t) = .ofExcept do
        return .require (← isFound source t) (.pattern t source) := rfl
    rw [hcheck, isFound]
    cases hread : Pattern.read source with
    | ok p => exact Report.tells_require ⟨rfl, rfl⟩
    | error f => exact Pattern.noViolation_read source f hread
  | null | bool _ | number _ | list _ | object _ => trivial

theorem Constraint.tells_check (c : Constraint) (v : Value) :
    (c.kind.check c.operand v).Tells Violation.IsOwn := by
  cases c with
  | choices values => exact Report.tells_require ⟨rfl, rfl⟩
  | fixed value => exact Report.tells_require ⟨rfl, rfl⟩
  | pattern source => exact Assertion.tells_pattern source v
  | minLength n | maxLength n =>
    cases v with
    | text t => exact Report.tells_require ⟨rfl, rfl⟩
    | null | bool _ | number _ | list _ | object _ => trivial
  | bound b n =>
    cases b with
    | step => exact Assertion.tells_multipleOf n v
    | minimum | maximum | exclusiveMinimum | exclusiveMaximum =>
      cases v with
      | number m => exact Report.tells_require ⟨rfl, rfl⟩
      | null | bool _ | text _ | list _ | object _ => trivial

theorem Validate.tells_type (type : DataType) (nullable : Bool) (v : Value) :
    (Assertion.type (typeOperand type nullable) v).Tells Violation.IsOwn := by
  obtain ⟨b, hb⟩ := exists_hasType type v
  obtain ⟨types, hrequire⟩ := exists_type_eq_require nullable hb
  rw [hrequire]
  exact Report.tells_require ⟨rfl, rfl⟩

theorem Validate.tells_format (format : Text) (v : Value) :
    (Assertion.format (.text format) v).Tells Violation.IsOwn := by
  cases v with
  | text t => exact Report.tells_require ⟨rfl, rfl⟩
  | null | bool _ | number _ | list _ | object _ => trivial

namespace JsonSchema

/-- The keywords that hold the parts of a value against other schemas, or ask for parts. -/
def partKeywords : List Text := ["items", "properties", "required"]

/-- A keyword that refuses a value by itself: so does, for the same reason, the schema that states
nothing else. -/
def Refuses (keyword : Text) (operand v : Value) (reason : Text) : Prop :=
  Validate.data v (.object [(keyword, operand)]) = .error (.violation (dataPath []) reason)

/-- What a schema has against a value, its parts aside: a keyword that refuses the value, or the
first of the required names that an object lacks. -/
inductive Breaches (sub part : Value) : Breach → Prop
  | keyword {name : Text} {operand : Value} {b : Breach} : sub.field? name = some operand →
      name ∉ partKeywords → Refuses name operand part b.message →
      b.isMissing = false → Breaches sub part b
  | missing {fields : Keyed Value} {names : List Text} {name : Text} :
      part = .object fields → sub.field? "required" = some (.list (names.map .text)) →
      names.find? (!Keyed.has · fields) = some name →
      Breaches sub part (.missing (.text name) (names.map .text))

theorem refuses_of_report {name : Text} {operand v : Value} {violation : Violation}
    {rest : Unit → Report} (hid : name ≠ "$id".toList)
    (hreport : ∀ follow siblings here, Validate.applyField follow siblings name
      (Validate.operandOf follow operand) here v = .violated violation rest)
    (hown : violation.IsOwn) : Refuses name operand v violation.breach.message := by
  have hplain : Keyed.get? "$id" [(name, operand)] = none := if_neg hid
  obtain ⟨follow, here, hcheck⟩ := Validate.exists_check_object hplain
  obtain ⟨location, b⟩ := violation
  obtain ⟨rfl, hb⟩ := hown
  have hfirst : (Validate.check (.object [(name, operand)]) v).first? = .ok (some ⟨[], b⟩) := by
    rw [hcheck, Validate.report_object, Validate.applyAll, Validate.operandsOf_eq_map]
    rw [List.map_singleton, Report.each]
    dsimp only
    rw [hreport]
    rfl
  rw [Refuses, Validate.data, hfirst, ← Violation.toFault_of_not_isMissing hb]
  rfl

theorem tells_breaches {sub operand part : Value} {name : Text} {r : Report}
    (hfield : sub.field? name = some operand) (hname : name ∉ partKeywords)
    (hid : name ≠ "$id".toList)
    (hreport : ∀ follow siblings here, Validate.applyField follow siblings name
      (Validate.operandOf follow operand) here part = r)
    (hr : r.Tells Violation.IsOwn) :
    r.Tells fun v => v.location = [] ∧ Breaches sub part v.breach := by
  cases r with
  | empty => trivial
  | fail f => exact hr
  | violated v rest =>
    exact ⟨hr.1, .keyword hfield hname (refuses_of_report hid hreport hr) hr.2⟩

end JsonSchema

namespace SchemaNode

variable {follow : Follow} {here : Standpoint} {node child : SchemaNode} {data part : Value}

/-- Where a violation lies: what was found of the data at its place breaks the schema of the node
of the same place. -/
def Locates (node : SchemaNode) (data : Value) (v : Violation) : Prop :=
  ∃ part found, data.at? v.location = some part ∧
    node.at? (v.location.map DataStep.schemaStep) = some found ∧
    JsonSchema.Breaches (JsonSchema.ofNode found) part v.breach

theorem locates_of_breaches {v : Violation}
    (h : v.location = [] ∧ JsonSchema.Breaches (JsonSchema.ofNode node) data v.breach) :
    node.Locates data v := by
  refine ⟨data, node, ?_, ?_, h.2⟩
  · rw [h.1]
    rfl
  · rw [h.1]
    rfl

/-- A violation in a part lies one step further in. -/
theorem Locates.inside {step : DataStep} {v : Violation} (h : child.Locates part v)
    (hpart : data.part? step = some part) (hchild : node.child? step.schemaStep = some child) :
    node.Locates data (v.inside step) := by
  obtain ⟨inner, found, hinner, hfound, hb⟩ := h
  refine ⟨inner, found, ?_, ?_, hb⟩
  · exact (congrArg (Option.bind · (Value.at? v.location)) hpart).trans hinner
  · exact (congrArg (Option.bind · (at? _)) hchild).trans hfound

end SchemaNode

namespace Validate

variable {follow : Follow} {here : Standpoint} {node : SchemaNode} {v : Value}
variable {P : Violation → Prop}

theorem tells_canonicalize {fields : Keyed Value}
    (h : ∀ name w, (name, w) ∈ fields → (applyField follow (canonicalOperands follow fields) name
      (operandOf follow (Canonical.canonicalizeField name w)) here v).Tells P) :
    ((subschema follow (Canonical.canonicalize (.object fields))).report here v).Tells P := by
  rw [Canonical.canonicalize, report_object, applyAll]
  refine Report.tells_each fun entry he => ?_
  obtain ⟨name, w, hm, rfl⟩ := mem_canonicalOperands_iff.1 he
  exact h name w hm

/-- What every field of the schema of a node tells where it stands. -/
def FieldsTell (follow : Follow) (here : Standpoint) (node : SchemaNode) (v : Value)
    (P : Violation → Prop) : Prop :=
  ∀ name w, (name, w) ∈ node.fields → (applyField follow (canonicalOperands follow node.fields)
    name (operandOf follow (Canonical.canonicalizeField name w)) here v).Tells P

theorem FieldsTell.report (h : FieldsTell follow here node v P) :
    ((subschema follow (JsonSchema.ofNode node)).report here v).Tells P := by
  rw [JsonSchema.ofNode, SchemaNode.toSchema_eq]
  exact tells_canonicalize h

theorem FieldsTell.report_ofRoot (hp : node.Proper) (h : FieldsTell follow here node v P) :
    ((subschema follow (JsonSchema.ofRoot node)).report here v).Tells P := by
  rw [JsonSchema.ofRoot_eq]
  refine tells_canonicalize fun name w hm => ?_
  rcases List.mem_cons.1 hm with he | hm
  · rw [(Prod.mk.inj he).1, applyField_dialect]
    trivial
  · rw [applyField_rootFields hp hm]
    exact h name w hm

theorem fieldsTell_of_stated (h : node.Proper)
    (hstated : ∀ name w, Keyed.get? name node.statedFields = some w →
      (JsonSchema.ofNode node).field? name = some (Canonical.canonicalizeField name w) →
      (applyField follow (canonicalOperands follow node.fields) name
        (operandOf follow (Canonical.canonicalizeField name w)) here v).Tells P) :
    FieldsTell follow here node v P := by
  intro name w hm
  by_cases ha : name ∈ Keywords.annotationNames
  · rw [applyField_eq_empty (ofName?_of_mem_annotationNames ha)]
    trivial
  · have hget := Keyed.get?_of_mem (SchemaNode.nodup_keys_fields h) hm
    have hfield := JsonSchema.field?_ofNode h name
    rw [hget] at hfield
    rw [SchemaNode.get?_fields node ha] at hget
    exact hstated name w hget hfield

theorem tells_locates_of_own {name : Text} {operand : Value} {r : Report}
    (hfield : (JsonSchema.ofNode node).field? name = some operand)
    (hname : name ∉ JsonSchema.partKeywords) (hid : name ≠ "$id".toList)
    (hreport : ∀ follow siblings here, applyField follow siblings name
      (operandOf follow operand) here v = r)
    (hr : r.Tells Violation.IsOwn) (siblings : Keyed Operand) :
    (applyField follow siblings name (operandOf follow operand) here v).Tells
      (node.Locates v) := by
  rw [hreport]
  exact (JsonSchema.tells_breaches hfield hname hid hreport hr).mono fun _ =>
    SchemaNode.locates_of_breaches

theorem fieldsTell_leaf {a : Semantics} {l : Leaf} (h : l.IsProper) :
    FieldsTell follow here (.leaf a l) v ((SchemaNode.leaf a l).Locates v) := by
  refine fieldsTell_of_stated (.leaf h) fun name w hw hfield => ?_
  rcases applyField_leaf h hw v with
    ⟨c, rfl, -, happly⟩ | ⟨rfl, happly⟩ | ⟨format, -, rfl, happly⟩
  · have hname : ∀ kind : ConstraintKind, kind.schemaKeyword ∉ JsonSchema.partKeywords ∧
        kind.schemaKeyword ≠ "$id".toList := by
      intro kind
      cases kind <;> decide
    exact tells_locates_of_own hfield (hname c.kind).1 (hname c.kind).2 happly
      (c.tells_check v) _
  · exact tells_locates_of_own hfield (by decide) (by decide) happly (tells_type _ _ v) _
  · exact tells_locates_of_own hfield (by decide) (by decide) happly (tells_format format v) _

theorem tells_typeText {type : Text} {b : Bool} (h : Assertion.hasType type v = .ok b)
    (hfield : (JsonSchema.ofNode node).field? "type" =
      some (Canonical.canonicalizeField "type" (.text type))) (siblings : Keyed Operand) :
    (applyField follow siblings "type"
      (operandOf follow (Canonical.canonicalizeField "type" (.text type))) here v).Tells
        (node.Locates v) :=
  tells_locates_of_own hfield (by decide) (by decide) (applyField_typeText h)
    (Report.tells_require ⟨rfl, rfl⟩) siblings

theorem tells_descendItems {items : SchemaNode} (h : items.Proper) {i : Nat} {vs : List Value}
    (hitem : ∀ n w, vs[n]? = some w →
      ((subschema follow (JsonSchema.ofNode items)).report here w).Tells
        fun violation => P (violation.inside (.index (i + n : Nat)))) :
    (descendItems here (subschema follow (JsonSchema.ofNode items)) i vs).Tells P := by
  induction vs generalizing i with
  | nil => trivial
  | cons w rest ih =>
    rw [descendItems, descend_ofNode h]
    refine Report.tells_andThen (Report.tells_inside (hitem 0 w rfl)) fun _ => ?_
    refine ih (i := i + 1) fun n w' hn => ?_
    have hnext := hitem (n + 1) w' hn
    rwa [← Nat.add_assoc, Nat.add_right_comm] at hnext

theorem fieldsTell_array {a : Semantics} {items : SchemaNode} (h : items.Proper)
    (hitems : ∀ w, ((subschema follow (JsonSchema.ofNode items)).report here w).Tells
      (items.Locates w)) :
    FieldsTell follow here (.array a items) v ((SchemaNode.array a items).Locates v) := by
  refine fieldsTell_of_stated (.array h) fun name w hw hfield => ?_
  rcases List.mem_cons.1 (Keyed.mem_of_get? hw) with he | hm
  · obtain ⟨rfl, rfl⟩ := Prod.mk.inj he
    exact tells_typeText rfl hfield _
  · obtain ⟨rfl, rfl⟩ := Prod.mk.inj (List.mem_singleton.1 hm)
    rw [JsonSchema.canonicalizeField_toSchema]
    cases v with
    | list vs =>
      have hprefix : Keyed.get? "prefixItems"
          (canonicalOperands follow (SchemaNode.fields (.array a items))) = none :=
        get?_canonicalOperands (SchemaNode.get?_fields_eq_none (.array h) (by decide))
      rw [applyField_items_list hprefix]
      refine tells_descendItems (i := 0) h fun n w hn => (hitems w).mono fun violation hl => ?_
      rw [Nat.zero_add]
      exact hl.inside hn rfl
    | null | bool _ | number _ | text _ | object _ => trivial

theorem tells_descendFields {properties : Keyed SchemaNode} {fields : Keyed Value}
    (h : ∀ name child, (name, child) ∈ properties → child.Proper)
    (hfield : ∀ name child w, (name, child) ∈ properties → Keyed.get? name fields = some w →
      ((subschema follow (JsonSchema.ofNode child)).report here w).Tells
        fun violation => P (violation.inside (.key name))) :
    (descendFields here fields (propertyTable follow properties)).Tells P := by
  refine Report.tells_each fun entry he => ?_
  obtain ⟨name, child, hm, rfl⟩ := mem_propertyTable_iff.1 he
  dsimp only
  split
  · rename_i w hw
    rw [descend_ofNode (h name child hm)]
    exact Report.tells_inside (hfield name child w hm hw)
  · trivial

theorem tells_required {names : List Text} {fields : Keyed Value}
    (h : ∀ name, names.find? (!Keyed.has · fields) = some name →
      P ⟨[], .missing (.text name) (names.map .text)⟩) (siblings : Keyed Operand) :
    (applyField follow siblings "required" (operandOf follow (.list (names.map .text))) here
      (.object fields)).Tells P := by
  rw [applyField_required_object]
  refine Report.tells_each_of_first fun before x after hl hbefore => ?_
  obtain ⟨earlier, later, rfl, rfl, hlater⟩ := List.map_eq_append_iff.1 hl
  obtain ⟨name, last, rfl, rfl, rfl⟩ := List.map_eq_cons_iff.1 hlater
  have hkept : ∀ other ∈ earlier, Keyed.has other fields = true := fun other hm =>
    Report.require_eq_empty_iff.1 (hbefore (.text other) (List.mem_map_of_mem hm))
  cases hhas : Keyed.has name fields with
  | true =>
    have hempty : Report.require (Assertion.hasProperty fields (.text name))
      (.missing (.text name) ((earlier ++ name :: last).map .text)) = .empty :=
      Report.require_eq_empty_iff.2 hhas
    exact hempty ▸ trivial
  | false =>
    refine Report.tells_require (h name ?_)
    refine List.find?_eq_some_iff_append.2 ⟨congrArg (!·) hhas, earlier, last, rfl, ?_⟩
    exact fun other hm => by rw [hkept other hm]; rfl

theorem fieldsTell_object {a : Semantics} {properties : Keyed SchemaNode}
    (hk : (Keyed.keys properties).Nodup)
    (hc : ∀ name child, (name, child) ∈ properties → child.Proper)
    (hchild : ∀ name child w, (name, child) ∈ properties →
      ((subschema follow (JsonSchema.ofNode child)).report here w).Tells (child.Locates w)) :
    FieldsTell follow here (.object a properties) v
      ((SchemaNode.object a properties).Locates v) := by
  refine fieldsTell_of_stated (.object hk hc) fun name w hw hfield => ?_
  rcases List.mem_cons.1 (Keyed.mem_of_get? hw) with he | hm
  · obtain ⟨rfl, rfl⟩ := Prod.mk.inj he
    exact tells_typeText rfl hfield _
  rcases List.mem_cons.1 hm with he | hm
  · obtain ⟨rfl, rfl⟩ := Prod.mk.inj he
    cases v with
    | object fields =>
      rw [applyField_properties_object]
      refine tells_descendFields hc fun name child w hm hw => ?_
      exact (hchild name child w hm).mono fun violation hl =>
        hl.inside hw (Keyed.get?_of_mem hk hm)
    | null | bool _ | number _ | text _ | list _ => trivial
  · obtain ⟨rfl, rfl⟩ := Prod.mk.inj (List.mem_singleton.1 hm)
    rw [canonicalizeField_requiredNames] at hfield ⊢
    cases v with
    | object fields =>
      exact tells_required (fun name hfirst => SchemaNode.locates_of_breaches
        ⟨rfl, .missing rfl hfield hfirst⟩) _
    | null | bool _ | number _ | text _ | list _ => trivial

/-- The schema of a node tells where a violation lies, in data of any depth. -/
theorem fieldsTell_locates (h : node.Proper) :
    FieldsTell follow here node v (node.Locates v) := by
  induction h generalizing v with
  | leaf hl => exact fieldsTell_leaf hl
  | array hi ih => exact fieldsTell_array hi fun w => ih.report
  | object hk hc ih =>
    exact fieldsTell_object hk hc fun name child w hm => (ih name child hm).report

end Validate

namespace JsonSchema

/-- The place and the reason of a violation: a value that a keyword of the schema of its place
refuses by itself, or a property that the object around it lacks, the first of those that the
schema of the object requires. -/
inductive PointsAt (schema data : Value) : List DataStep → Text → Prop
  | keyword {place : List DataStep} {part sub operand : Value} {keyword reason : Text} :
      data.at? place = some part → at? (place.map DataStep.schemaStep) schema = some sub →
      sub.field? keyword = some operand → keyword ∉ partKeywords →
      Refuses keyword operand part reason → PointsAt schema data place reason
  | missing {place : List DataStep} {fields : Keyed Value} {sub : Value} {names : List Text}
      {name : Text} :
      data.at? place = some (.object fields) →
      at? (place.map DataStep.schemaStep) schema = some sub →
      sub.field? "required" = some (.list (names.map .text)) →
      names.find? (!Keyed.has · fields) = some name →
      PointsAt schema data (place ++ [.key name])
        (Breach.printedText name ++ " is a required property")

theorem dataPath_append_key (place : List DataStep) (name : Text) :
    dataPath (place ++ [.key name]) = dataPath place ++ Violation.absentPlace (.text name) := by
  have hlast : (place ++ [DataStep.key name]).flatMap DataStep.written =
      place.flatMap DataStep.written ++ Violation.absentPlace (.text name) := by
    rw [List.flatMap_append, List.flatMap_singleton]
    rfl
  calc dataPath (place ++ [.key name])
      = "$data".toList ++ (place ++ [DataStep.key name]).flatMap DataStep.written := rfl
    _ = "$data".toList ++ (place.flatMap DataStep.written ++ Violation.absentPlace (.text name)) :=
        congrArg _ hlast
    _ = dataPath place ++ Violation.absentPlace (.text name) := (List.append_assoc _ _ _).symm

/-- What lies somewhere in the data is reported there. -/
theorem exists_pointsAt_of_locates {tree : SchemaNode} (h : tree.Proper) {data : Value}
    {violation : Violation} (hl : tree.Locates data violation) : ∃ place reason,
    violation.toFault = .violation (dataPath place) reason ∧
      PointsAt (ofRoot tree) data place reason := by
  obtain ⟨location, b⟩ := violation
  obtain ⟨part, found, hpart, hfound, hb⟩ := hl
  obtain ⟨sub, hsub, hfields⟩ := exists_at?_ofRoot h hfound
  cases hb with
  | keyword hoperand hname hrefuses hmissing =>
    rename_i name operand
    have hdialect : name ≠ "$schema".toList := by
      rintro rfl
      have hfound := proper_at? h hfound
      rw [field?_ofNode hfound, SchemaNode.get?_fields_eq_none hfound (by decide)] at hoperand
      cases hoperand
    exact ⟨location, b.message, Violation.toFault_of_not_isMissing hmissing location,
      .keyword hpart hsub ((hfields name hdialect).trans hoperand) hname hrefuses⟩
  | missing hobject hrequired hfirst =>
    rename_i fields names name
    obtain rfl := hobject
    have hfault := Violation.toFault_missing location name names
    rw [← dataPath_append_key] at hfault
    exact ⟨location ++ [.key name], _, hfault,
      .missing hpart hsub ((hfields "required" (by decide)).trans hrequired) hfirst⟩

end JsonSchema

/-- A violation is reported where it lies: the path names a place of the data at which a keyword of
the schema of that place refuses what is there by itself and for the reason reported, or the place
of a property that is absent from an object, the first of those required of it. -/
theorem violation_is_reported_where_it_lies {root : Node} {given : Option Settings}
    {schema data : Value} {path reason : Text} (hs : Compile.schema given root = .ok schema)
    (hd : Validate.data data schema = .error (.violation path reason)) :
    ∃ place, dataPath place = path ∧ JsonSchema.PointsAt schema data place reason := by
  obtain ⟨settings, t, ht, rfl⟩ := Compile.schema_eq_ok hs
  have hproper := (Compile.tree_eq_ok ht).1
  obtain ⟨follow, here, hcheck⟩ := Validate.exists_check_ofRoot hproper
  have hfields : Validate.FieldsTell follow here t data (t.Locates data) :=
    Validate.fieldsTell_locates hproper
  have htells := hfields.report_ofRoot hproper
  rw [Validate.data, hcheck] at hd
  generalize (Validate.subschema follow (JsonSchema.ofRoot t)).report here data = r at hd htells
  cases r with
  | empty => cases hd
  | fail f =>
    obtain rfl := Except.error.inj hd
    cases htells
  | violated violation rest =>
    obtain ⟨place, reason', hfault, hpoints⟩ :=
      JsonSchema.exists_pointsAt_of_locates hproper htells
    obtain ⟨rfl, rfl⟩ := Fault.violation.inj (hfault.symm.trans (Except.error.inj hd))
    exact ⟨place, rfl, hpoints⟩

def peopleInRows : Text :=
  "<ul data-repeat='rows as row'><li>\x7b\x7brow.name:string\x7d\x7d" ++
    "\x7b\x7brow.age:integer (min:18)\x7d\x7d</li></ul>"

def personWithoutAge : Value :=
  .object [("rows", .list
    [.object [("name", .text "A"), ("age", .ofInt 40)], .object [("name", .text "B")]])]

/-- An absent age is reported where it belongs in its row. -/
theorem absent_age_is_reported_in_its_row : ∃ root schema,
    Node.ofMarkup peopleInRows = .ok root ∧
    Compile.schema (some Settings.defaults) root = .ok schema ∧
    Validate.data personWithoutAge schema =
      .error (.violation "$data.rows[1].age" "'age' is a required property") ∧
    ∃ place, dataPath place = "$data.rows[1].age" ∧
      JsonSchema.PointsAt schema personWithoutAge place "'age' is a required property" := by
  have hreported : Fault.succeedsWith (fun schema => decide (
        Validate.data personWithoutAge schema =
          .error (.violation "$data.rows[1].age" "'age' is a required property")))
      (Node.ofMarkup peopleInRows >>= Compile.schema (some Settings.defaults)) = true := by
    decide +kernel
  obtain ⟨schema, hs, hd⟩ := Fault.exists_of_succeedsWith hreported
  obtain ⟨root, hm, hs⟩ := Fault.bind_eq_ok_iff.1 hs
  have hd := of_decide_eq_true hd
  exact ⟨root, schema, hm, hs, hd, violation_is_reported_where_it_lies hs hd⟩

end TypedTemplate
