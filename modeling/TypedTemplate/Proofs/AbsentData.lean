import TypedTemplate.Proofs.LegalExpressions
import TypedTemplate.Render

/-!
# Absent data

What is shown of a value that is absent. It enters the chain of an interpolation as null, and
leaves the first filter as an empty text, which most filters leave empty. Five filters have a text
of their own to show: the two numeric formats show zero, a choice shows what stands for false, a
filling fills a width, and a replacement puts something in the place of nothing. Behind the first
of these the rest of the chain is applied to a text like any other.
-/
namespace TypedTemplate

def Numeral.zero (places : Nat) : Text :=
  if places = 0 then ['0'] else '0' :: '.' :: List.replicate places '0'

theorem Numeral.parts_zero (places : Nat) :
    parts 0 (-(places : Int)) = (['0'], List.replicate places '0') := by
  cases places with
  | zero => rfl
  | succ n =>
    have hneg : ¬(0 : Int) ≤ -((n + 1 : Nat) : Int) := by omega
    have hdigits : Text.ofNat 0 = ['0'] := rfl
    have hpadded : List.replicate n '0' ++ ['0'] = '0' :: List.replicate n '0' :=
      List.replicate_succ'.symm.trans List.replicate_succ
    rw [parts, if_neg hneg]
    simp [hdigits, hpadded, List.replicate_succ]

theorem Numeral.fixedPlaces_zero (places : Nat) : fixedPlaces false 0 1 places = zero places := by
  have hrounded : roundHalfUp (0 * tenTo places) 1 = 0 := by simp [roundHalfUp]
  rw [fixedPlaces, hrounded, parts_zero]
  cases places <;> rfl

namespace Filter

theorem padLeft_of_idle {width : Int} {fill : Text} (h : ¬(0 < width ∧ fill ≠ [])) :
    padLeft [] width fill = .ok [] := by
  have hidle : (width - ([] : Text).length).toNat = 0 ∨ fill.isEmpty = true := by
    rw [List.isEmpty_iff, List.length_nil]
    by_cases hfill : fill = []
    · exact .inr hfill
    · refine .inl ?_
      have hwidth : ¬0 < width := fun hw => h ⟨hw, hfill⟩
      omega
  exact if_pos hidle

theorem ne_nil_of_padLeft {width : Int} {fill t : Text} (hwidth : 0 < width) (hfill : fill ≠ [])
    (h : padLeft [] width fill = .ok t) : t ≠ [] := by
  obtain ⟨missing, hmissing⟩ : ∃ n, (width - ([] : Text).length).toNat = n + 1 :=
    ⟨(width - 1).toNat, by rw [List.length_nil]; omega⟩
  obtain ⟨c, cs, rfl⟩ := List.exists_cons_of_ne_nil hfill
  simp only [padLeft, hmissing, List.isEmpty_cons, Nat.add_one_ne_zero, Bool.false_eq_true,
    or_self, if_false] at h
  split_ifs at h
  rw [← Except.ok.inj h, List.replicate_succ]
  nofun

/-- What a filter shows of its own where it is given an empty text, if anything. A filling may not
fit. -/
def fill? : FilterKind → List Text → Option (Except Fault Text)
  | .comma, _ => some (.ok (Numeral.zero 0))
  | .fixed, [places] => some (.ok (Numeral.zero (placesArgument places)))
  | .either, [_, whenFalse] => if whenFalse = [] then none else some (.ok whenFalse)
  | .replace, [old, new] => if old = [] ∧ new ≠ [] then some (.ok new) else none
  | .padLeft, args =>
    if 0 < intArgument (args.headD []) ∧ filling args ≠ [] then
      some (padLeft [] (intArgument (args.headD [])) (filling args))
    else none
  | _, _ => none

theorem ne_nil_of_fill? {f : FilterKind} {args : List Text} {t : Text}
    (h : fill? f args = some (.ok t)) : t ≠ [] := by
  unfold fill? at h
  split at h
  · cases h
    nofun
  · cases h
    unfold Numeral.zero
    split_ifs <;> nofun
  · split_ifs at h with hempty
    exact Except.ok.inj (Option.some.inj h) ▸ hempty
  · split_ifs at h with hnew
    exact Except.ok.inj (Option.some.inj h) ▸ hnew.2
  · split_ifs at h with hfill
    exact ne_nil_of_padLeft hfill.1 hfill.2 (Option.some.inj h)
  · cases h

def IsBlank (value : Value) : Prop := value = .null ∨ value = .text []

theorem IsBlank.display {value : Value} (h : IsBlank value) : value.display = [] := by
  rcases h with rfl | rfl <;> rfl

theorem IsBlank.toNumber {value : Value} (h : IsBlank value) : value.toNumber = .whole 0 := by
  rcases h with rfl | rfl <;> rfl

theorem IsBlank.isFalsy {value : Value} (h : IsBlank value) : value.isFalsy = .ok true := by
  rcases h with rfl | rfl <;> rfl

theorem not_exceedsDouble_zero : (Number.whole 0).exceedsDouble = false := by decide +kernel

theorem replace_nil (old new : Text) : Text.replace old new [] = if old = [] then new else [] := by
  cases old with
  | nil => exact List.append_nil new
  | cons c cs => rfl

theorem format_blank {value : Value} (h : IsBlank value) (type : Option DataType)
    (pattern zone : Text) : Temporal.format value type pattern zone = .ok [] := by
  rcases h with rfl | rfl
  · rfl
  · rcases type with _ | type
    · rfl
    · cases type <;> rfl

variable {context : Context} {args : List Text} {value : Value}

theorem apply_blank {f : FilterKind} (hf : f ≠ .default) (haccepts : f.accepts args.length = true)
    (h : IsBlank value) :
    apply f context args value = .text <$> (fill? f args).getD (.ok []) := by
  have hcount := FilterKind.accepts_iff.1 haccepts
  cases f with
  | default => exact absurd rfl hf
  | upper | lower | zenkaku | hankaku =>
    rw [apply, h.display]
    rfl
  | replace =>
    obtain ⟨old, new, rfl⟩ := List.length_eq_two.1 (Nat.le_antisymm hcount.2 hcount.1)
    have happly : apply .replace context [old, new] value =
        .ok (.text (Text.replace old new value.display)) := rfl
    rw [happly, h.display, replace_nil, fill?]
    by_cases hold : old = []
    · by_cases hnew : new = [] <;> simp [hold, hnew]
    · simp [hold]
  | padLeft =>
    rw [apply_padLeft _ (List.ne_nil_of_length_pos hcount.1), h.display, fill?]
    split_ifs with hfill
    · rfl
    · rw [padLeft_of_idle hfill]
      rfl
  | slice =>
    obtain ⟨first, last, rfl⟩ := List.length_eq_two.1 (Nat.le_antisymm hcount.2 hcount.1)
    have happly : apply .slice context [first, last] value =
        .ok (.text (Text.slice (intArgument first) (intArgument last) value.display)) := rfl
    rw [happly, h.display, Text.slice, List.take_nil, List.drop_nil]
    rfl
  | comma =>
    have hcomma : comma value = .ok (Numeral.zero 0) := by
      simp only [comma, h.toNumber, not_exceedsDouble_zero, Bool.false_eq_true, if_false]
      rfl
    rw [apply, hcomma]
    rfl
  | fixed =>
    obtain ⟨places, rfl⟩ := List.length_eq_one_iff.1 (Nat.le_antisymm hcount.2 hcount.1)
    have hfixed : fixed value [places] = .ok (Numeral.zero (placesArgument places)) := by
      simp only [fixed, h.toNumber, not_exceedsDouble_zero, Bool.false_eq_true, if_false]
      exact congrArg Except.ok (Numeral.fixedPlaces_zero (placesArgument places))
    rw [apply, hfixed]
    rfl
  | either =>
    obtain ⟨whenTrue, whenFalse, rfl⟩ :=
      List.length_eq_two.1 (Nat.le_antisymm hcount.2 hcount.1)
    rw [apply_either, h.isFalsy, fill?]
    split_ifs with hempty
    · rw [hempty]
      rfl
    · rfl
  | dateFormat =>
    rw [apply, format_blank h]
    rfl

end Filter

/-- What a call shows of its own where it is given an empty text, if anything. -/
def FilterCall.fill? (c : FilterCall) : Option (Except Fault Text) :=
  (FilterKind.ofName? c.name).bind (Filter.fill? · c.args)

/-- A call of another filter than `default` that a type admits. -/
def FilterCall.IsStrict (type : DataType) (c : FilterCall) : Prop :=
  c.IsLegal type ∧ c.name ≠ FilterKind.name .default

namespace Filter

variable {context : Context} {type : DataType} {calls : List FilterCall} {value : Value}

theorem call_blank {c : FilterCall} (hc : c.IsStrict type) (h : IsBlank value) :
    call context value c = .text <$> c.fill?.getD (.ok []) := by
  obtain ⟨⟨f, hf, haccepts⟩, hname⟩ := hc
  have hfound := FilterKind.ofName?_of_forType? hf
  have hne : f ≠ .default := by
    rintro rfl
    exact hname (FilterKind.name_of_ofName? hfound).symm
  rw [call, FilterCall.fill?, hfound]
  exact apply_blank hne haccepts h

theorem applyAll_unfilled (context : Context) (hcalls : ∀ c ∈ calls, c.IsStrict type)
    (hempty : ∀ c ∈ calls, c.fill? = none) (h : IsBlank value) :
    ∃ result, applyAll context calls value = .ok result ∧ IsBlank result := by
  induction calls generalizing value with
  | nil => exact ⟨value, rfl, h⟩
  | cons c rest ih =>
    obtain ⟨hc, hrest⟩ := List.forall_mem_cons.1 hcalls
    obtain ⟨hfirst, hothers⟩ := List.forall_mem_cons.1 hempty
    rw [applyAll, call_blank hc h, hfirst]
    exact ih hrest hothers (.inr rfl)

theorem applyAll_append (before after : List FilterCall) :
    applyAll context (before ++ after) value =
      applyAll context before value >>= applyAll context after := by
  induction before generalizing value with
  | nil => rfl
  | cons c rest ih =>
    rw [List.cons_append, applyAll, applyAll, bind_assoc]
    exact congrArg _ (funext fun next => ih)

/-- The first filling of a chain takes the place of what is blank. -/
theorem applyAll_filled {before after : List FilterCall} {c : FilterCall}
    {filled : Except Fault Text} (hbefore : ∀ d ∈ before, d.IsStrict type)
    (hc : c.IsStrict type) (hempty : ∀ d ∈ before, d.fill? = none) (hfill : c.fill? = some filled)
    (h : IsBlank value) :
    applyAll context (before ++ c :: after) value =
      filled >>= fun t => applyAll context after (.text t) := by
  obtain ⟨reached, hreached, hblank⟩ := applyAll_unfilled context hbefore hempty h
  have hcall : call context reached c = .text <$> filled := by rw [call_blank hc hblank, hfill]; rfl
  rw [applyAll_append, hreached]
  exact (congrArg (· >>= applyAll context after) hcall).trans (bind_map_left _ _ _)

theorem fill?_eq_none_of_temporal {c : FilterCall} (hc : c.IsStrict type)
    (htype : type ∈ [DataType.date, .time, .datetime]) : c.fill? = none := by
  obtain ⟨⟨f, hf, -⟩, hname⟩ := hc
  have hadmitted : ∀ type ∈ [DataType.date, .time, .datetime],
      FilterKind.allowed type = [.dateFormat, .default] := by decide
  obtain ⟨hmem, hsame⟩ := FilterKind.forType?_eq_some_iff.1 hf
  rw [hadmitted type htype] at hmem
  rw [FilterCall.fill?, FilterKind.ofName?_of_forType? hf]
  rcases List.mem_cons.1 hmem with rfl | hmem
  · rfl
  · obtain rfl := List.mem_singleton.1 hmem
    exact absurd hsame.symm hname

end Filter

/-- Absent data is shown as empty text, unless a filter of the chain shows a text of its own. Then
the rest of the chain, applied to that text, is what is shown. No filter of a date or a time does
so. -/
theorem absent_data_is_shown_as_empty_text_unless_filled {raw zone : Text} {i : Interpolation}
    {scope : DynamicScope} (h : Expression.read raw = .ok i)
    (hd : ∀ c ∈ i.filters, c.name ≠ FilterKind.name .default)
    (hn : scope.resolve i.path = .null) :
    ((∀ c ∈ i.filters, c.fill? = none) →
      Render.segment zone scope (.interpolation i) = .ok []) ∧
    (i.type ∈ [DataType.date, .time, .datetime] →
      Render.segment zone scope (.interpolation i) = .ok []) ∧
    ∀ before c after filled, i.filters = before ++ c :: after →
      (∀ d ∈ before, d.fill? = none) → c.fill? = some filled →
      filled ≠ .ok [] ∧
      Render.segment zone scope (.interpolation i) = do
        let value ← Filter.applyAll ⟨some i.type, zone⟩ after (.text (← filled))
        return Reference.escape value.display := by
  obtain ⟨_, _, _, -, -, hfilters⟩ := Expression.exists_parts_of_read h
  have hstrict : ∀ c ∈ i.filters, c.IsStrict i.type := fun c hc =>
    ⟨Expression.isLegal_of_readFilters hfilters c hc, hd c hc⟩
  have hblank : Filter.IsBlank (scope.resolve i.path) := .inl hn
  have hempty : (∀ c ∈ i.filters, c.fill? = none) →
      Render.segment zone scope (.interpolation i) = .ok [] := by
    intro hall
    obtain ⟨result, hresult, hdisplay⟩ :=
      Filter.applyAll_unfilled ⟨some i.type, zone⟩ hstrict hall hblank
    rw [Render.segment, hresult]
    exact congrArg (Except.ok ∘ Reference.escape) hdisplay.display
  refine ⟨hempty, fun htype => hempty fun c hc => ?_, ?_⟩
  · exact Filter.fill?_eq_none_of_temporal (hstrict c hc) htype
  · intro before c after filled hsplit hbefore hfill
    rw [hsplit] at hstrict
    obtain ⟨hfirst, hrest⟩ := List.forall_mem_append.1 hstrict
    obtain ⟨hc, -⟩ := List.forall_mem_cons.1 hrest
    refine ⟨?_, ?_⟩
    · rintro rfl
      obtain ⟨f, -, hf⟩ := Option.bind_eq_some_iff.1 hfill
      exact Filter.ne_nil_of_fill? hf rfl
    · rw [Render.segment, hsplit, Filter.applyAll_filled hfirst hc hbefore hfill hblank, bind_assoc]

def cutCode : Interpolation where
  path := "row.code"
  type := .string
  nullable := false
  constraints := []
  filters := [⟨"upper", []⟩, ⟨"slice", ["0", "2"]⟩]

def filledCode : Interpolation where
  path := "row.code"
  type := .string
  nullable := false
  constraints := []
  filters := [⟨"upper", []⟩, ⟨"pad-left", ["3", "X"]⟩, ⟨"lower", []⟩]

/-- In a row without an item a code is cut to an empty text, and filled with what fills it. -/
theorem code_of_row_without_item_is_empty_unless_filled : ∃ row,
    (DynamicScope.ofData (.object [])).bind "row" (.object []) 2 3 false = .ok row ∧
    row.resolve "row.code" = .null ∧
    (Expression.read "row.code:string | upper | slice:0,2" = .ok cutCode ∧
      (∀ c ∈ cutCode.filters, c.name ≠ FilterKind.name .default) ∧
      ∀ zone, Render.segment zone row (.interpolation cutCode) = .ok []) ∧
    Expression.read "row.code:string | upper | pad-left:3,X | lower" = .ok filledCode ∧
      (∀ c ∈ filledCode.filters, c.name ≠ FilterKind.name .default) ∧
      ∀ zone, Render.segment zone row (.interpolation filledCode) = .ok "xxx" := by
  have hcut : Expression.read "row.code:string | upper | slice:0,2" = .ok cutCode := by
    decide +kernel
  have hfilled : Expression.read "row.code:string | upper | pad-left:3,X | lower" =
      .ok filledCode := by decide +kernel
  have hcutStrict : ∀ c ∈ cutCode.filters, c.name ≠ FilterKind.name .default := by decide
  have hfilledStrict : ∀ c ∈ filledCode.filters, c.name ≠ FilterKind.name .default := by decide
  have hunfilled : ∀ c ∈ cutCode.filters, c.fill? = none := by decide
  refine ⟨_, rfl, rfl, ⟨hcut, hcutStrict, fun zone => ?_⟩, hfilled, hfilledStrict, fun zone => ?_⟩
  · exact (absent_data_is_shown_as_empty_text_unless_filled hcut hcutStrict rfl).1 hunfilled
  · exact ((absent_data_is_shown_as_empty_text_unless_filled hfilled hfilledStrict rfl).2.2
      [⟨"upper", []⟩] ⟨"pad-left", ["3", "X"]⟩ [⟨"lower", []⟩] (.ok "XXX") rfl (by decide) rfl).2

def groupedAmount : Interpolation where
  path := "amount"
  type := .integer
  nullable := false
  constraints := []
  filters := [⟨"comma", []⟩]

/-- An absent amount is shown as zero, though nothing stands in for it by default. -/
theorem absent_amount_is_shown_as_zero :
    Expression.read "amount:integer | comma" = .ok groupedAmount ∧
    (∀ c ∈ groupedAmount.filters, c.name ≠ FilterKind.name .default) ∧
    (DynamicScope.ofData (.object [])).resolve groupedAmount.path = .null ∧
    ∀ zone, Render.segment zone (.ofData (.object [])) (.interpolation groupedAmount) =
      .ok "0" := by
  refine ⟨by decide +kernel, by decide, rfl, fun zone => ?_⟩
  have hzero : Filter.apply .comma ⟨some .integer, zone⟩ [] .null = .ok (.text "0") :=
    Filter.apply_blank (by decide) rfl (.inl rfl)
  have hchain : Filter.applyAll ⟨some .integer, zone⟩ [⟨"comma", []⟩] .null = .ok (.text "0") :=
    Fault.bind_eq_ok_iff.2 ⟨_, hzero, rfl⟩
  exact Fault.bind_eq_ok_iff.2 ⟨_, hchain, rfl⟩

end TypedTemplate
