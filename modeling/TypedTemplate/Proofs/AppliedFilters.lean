import Mathlib.Algebra.Group.Int.Defs
import Mathlib.Data.List.Basic
import TypedTemplate.Expression.Parser
import TypedTemplate.Filter.Apply

/-!
# Chains of filters

What can end the filtering of a value. A filter that the reader accepts has a number of
arguments that it can use, and then only four of the twelve filters can end a chain: the
two numeric formats and the choice between two texts where a whole number is beyond every
double, the filling of a text where the filling is too long, and the format of an instant
where the instant leaves the years 1 to 9999. A condition ends a rendering on the first
ground alone.
-/
namespace TypedTemplate

/-- Whether a type admits a filter by its name, and the filter its number of arguments. -/
def FilterCall.IsLegal (type : DataType) (c : FilterCall) : Prop :=
  ∃ f, FilterKind.forType? type c.name = some f ∧ f.accepts c.args.length = true

namespace Expression

theorem isLegal_of_readFilter {type : DataType} {t : Text} {c : FilterCall}
    (h : readFilter type t = .ok c) : c.IsLegal type := by
  unfold readFilter at h
  obtain ⟨args, -, h⟩ := Fault.bind_eq_ok_iff.1 h
  dsimp only at h
  split at h
  · cases h
  · split at h
    · cases h
    · rename_i f hf
      split at h
      · rename_i haccepts
        cases h
        exact ⟨f, hf, haccepts⟩
      · cases h

theorem isLegal_of_readFilters {type : DataType} :
    ∀ {texts : List Text} {calls : List FilterCall}, readFilters type texts = .ok calls →
      ∀ c ∈ calls, c.IsLegal type
  | [], _, h, _, hc => by cases h; cases hc
  | t :: rest, _, h, c, hc => by
    obtain ⟨first, hfirst, h⟩ := Fault.bind_eq_ok_iff.1 h
    obtain ⟨others, hothers, h⟩ := Fault.bind_eq_ok_iff.1 h
    cases h
    cases hc with
    | head => exact isLegal_of_readFilter hfirst
    | tail _ hc => exact isLegal_of_readFilters hothers c hc

end Expression

namespace Moment

/-- Whether some seconds lie in the years 1 to 9999. -/
def IsCounted (s : Int) : Prop := 0 ≤ s ∧ s < secondLimit

theorem ofSeconds?_of_isCounted {s : Int} (h : IsCounted s) (microsecond : Nat) :
    ∃ m, ofSeconds? s microsecond = some m := by
  unfold ofSeconds?
  split
  · rename_i hout
    obtain ⟨hlow, hhigh⟩ := h
    omega
  · exact ⟨_, rfl⟩

theorem ofSeconds?_of_not_isCounted {s : Int} {microsecond : Nat} (h : ¬IsCounted s) :
    ofSeconds? s microsecond = none := by
  unfold ofSeconds?
  split
  · rfl
  · rename_i hin
    exact absurd ⟨by omega, by omega⟩ h

end Moment

namespace Zone

/-- Whether an instant lies in the years 1 to 9999 both in UTC and by the clocks of a
zone. -/
def CanShow (zone : Zone) (i : Instant) : Prop :=
  Moment.IsCounted i.utcSeconds ∧
    Moment.IsCounted (i.utcSeconds + zone.offsetAt (i.utcSeconds - epoch))

theorem moment_eq_error_iff {zone : Zone} {i : Instant} {e : Fault} :
    zone.moment i = .error e ↔ e = .instantOutOfRange ∧ ¬zone.CanShow i := by
  unfold moment CanShow
  by_cases hutc : Moment.IsCounted i.utcSeconds
  · obtain ⟨m, hm⟩ := Moment.ofSeconds?_of_isCounted hutc i.utcMicrosecond
    by_cases hlocal : Moment.IsCounted (i.utcSeconds + zone.offsetAt (i.utcSeconds - epoch))
    · obtain ⟨n, hn⟩ := Moment.ofSeconds?_of_isCounted hlocal i.utcMicrosecond
      simp [hm, hn, hutc, hlocal]
    · simp [hm, Moment.ofSeconds?_of_not_isCounted hlocal, hlocal, eq_comm (a := e)]
  · simp [Moment.ofSeconds?_of_not_isCounted hutc, hutc, eq_comm (a := e)]

end Zone

theorem Value.isFalsy_eq_error_iff {value : Value} {e : Fault} :
    value.isFalsy = .error e ↔
      e = .numberTooLarge ∧ ∃ n, value = .number n ∧ n.exceedsDouble = true := by
  cases value with
  | number n =>
    cases hn : n.exceedsDouble with
    | true => simp [isFalsy, hn, eq_comm (a := e)]
    | false => simp [isFalsy, hn]
  | null | bool _ | text _ | list _ | object _ => simp [isFalsy]

namespace Filter

/-- How many characters the text of a value lacks to the width that is asked for. -/
def missing (args : List Text) (value : Value) : Nat :=
  (intArgument (args.headD []) - value.display.length).toNat

def filling (args : List Text) : Text := args[1]?.getD ['0']

theorem apply_padLeft (context : Context) {args : List Text} (h : args ≠ []) (value : Value) :
    apply .padLeft context args value =
      .text <$> padLeft value.display (intArgument (args.headD [])) (filling args) := by
  obtain ⟨width, rest, rfl⟩ := List.exists_cons_of_ne_nil h
  exact bind_pure_comp Value.text
    (padLeft value.display (intArgument width) (filling (width :: rest)))

theorem apply_either (context : Context) (whenTrue whenFalse : Text) (value : Value) :
    apply .either context [whenTrue, whenFalse] value =
      (fun isFalsy : Bool => .text (if isFalsy then whenFalse else whenTrue)) <$> value.isFalsy :=
  bind_pure_comp (fun isFalsy : Bool => Value.text (if isFalsy then whenFalse else whenTrue))
    value.isFalsy

/-- The ground on which a filter ends a chain at a value, for a type and in a zone of
display. -/
inductive Stops (type : DataType) (zone : Zone) :
    FilterKind → List Text → Value → Fault → Prop
  | comma {args : List Text} {value : Value} (large : value.toNumber.exceedsDouble = true) :
    Stops type zone .comma args value .numberTooLarge
  | fixed {args : List Text} {value : Value} (large : value.toNumber.exceedsDouble = true) :
    Stops type zone .fixed args value .numberTooLarge
  | either {args : List Text} {n : Number} (large : n.exceedsDouble = true) :
    Stops type zone .either args (.number n) .numberTooLarge
  | uncountable {args : List Text} {value : Value} (short : missing args value ≠ 0)
      (fills : filling args ≠ [])
      (long : greatestLength <
        (missing args value / (filling args).length + 1) * (filling args).length) :
    Stops type zone .padLeft args value .paddingUncountable
  | unholdable {args : List Text} {value : Value} (short : missing args value ≠ 0)
      (fills : filling args ≠ [])
      (countable : (missing args value / (filling args).length + 1) * (filling args).length ≤
        greatestLength)
      (long : unholdableLength ≤ missing args value) :
    Stops type zone .padLeft args value .paddingTooLong
  | instant {args : List Text} {value : Value} {i : Instant}
      (isInstant : type ≠ .date ∧ type ≠ .time) (given : value ≠ .null)
      (read : Iso.read? value.display = some i) (unseen : ¬zone.CanShow i) :
    Stops type zone .dateFormat args value .instantOutOfRange

variable {type : DataType} {zone : Zone} {zoneName : Text}

theorem comma_eq_error_iff {value : Value} {e : Fault} :
    comma value = .error e ↔ e = .numberTooLarge ∧ value.toNumber.exceedsDouble = true := by
  cases hn : value.toNumber.exceedsDouble with
  | true => simp [comma, hn, eq_comm (a := e)]
  | false =>
    refine iff_of_false (fun h => ?_) (by simp)
    simp only [comma, hn, Bool.false_eq_true, if_false] at h
    split at h
    · cases h
    · split at h <;> cases h
    · cases h

theorem fixed_eq_error_iff {value : Value} {places : Text} {e : Fault} :
    fixed value [places] = .error e ↔
      e = .numberTooLarge ∧ value.toNumber.exceedsDouble = true := by
  cases hn : value.toNumber.exceedsDouble with
  | true => simp [fixed, hn, eq_comm (a := e)]
  | false =>
    refine iff_of_false (fun h => ?_) (by simp)
    simp only [fixed, hn, Bool.false_eq_true, if_false] at h
    split at h <;> cases h

theorem padLeft_eq (args : List Text) (value : Value) :
    padLeft value.display (intArgument (args.headD [])) (filling args) =
      if missing args value = 0 ∨ (filling args).isEmpty then .ok value.display
      else if greatestLength <
          (missing args value / (filling args).length + 1) * (filling args).length then
        .error .paddingUncountable
      else if unholdableLength ≤ missing args value then .error .paddingTooLong
      else
        .ok ((List.replicate (missing args value / (filling args).length + 1)
          (filling args)).flatten.take (missing args value) ++ value.display) := rfl

theorem padLeft_eq_error_iff {args : List Text} {value : Value} {e : Fault} :
    padLeft value.display (intArgument (args.headD [])) (filling args) = .error e ↔
      Stops type zone .padLeft args value e := by
  rw [padLeft_eq]
  by_cases hidle : missing args value = 0 ∨ (filling args).isEmpty = true
  · rw [if_pos hidle]
    refine iff_of_false nofun fun h => ?_
    cases h with
    | uncountable short fills | unholdable short fills =>
      exact hidle.elim short fun hempty => fills (List.isEmpty_iff.1 hempty)
  · have hshort : missing args value ≠ 0 := fun h => hidle (.inl h)
    have hfills : filling args ≠ [] := fun h => hidle (.inr (List.isEmpty_iff.2 h))
    rw [if_neg hidle]
    by_cases hlong : greatestLength <
        (missing args value / (filling args).length + 1) * (filling args).length
    · rw [if_pos hlong]
      constructor
      · intro h
        exact Except.error.inj h ▸ .uncountable hshort hfills hlong
      · intro h
        cases h with
        | uncountable => rfl
        | unholdable _ _ countable => exact absurd hlong (Nat.not_lt.2 countable)
    · rw [if_neg hlong]
      by_cases hheld : unholdableLength ≤ missing args value
      · rw [if_pos hheld]
        constructor
        · intro h
          exact Except.error.inj h ▸ .unholdable hshort hfills (Nat.not_lt.1 hlong) hheld
        · intro h
          cases h with
          | uncountable _ _ long => exact absurd long hlong
          | unholdable => rfl
      · rw [if_neg hheld]
        refine iff_of_false nofun fun h => ?_
        cases h with
        | uncountable _ _ long => exact hlong long
        | unholdable _ _ _ long => exact hheld long

theorem fields?_eq_error_iff (hzone : ZoneName.find zoneName = .ok zone) {t : Text}
    {e : Fault} :
    Temporal.fields? (some type) zoneName t = .error e ↔
      (type ≠ .date ∧ type ≠ .time) ∧ ∃ i, Iso.read? t = some i ∧
        e = .instantOutOfRange ∧ ¬zone.CanShow i := by
  cases hi : Iso.read? t with
  | none => cases type <;> simp [Temporal.fields?, hi]
  | some i =>
    have hshown : (return some (Temporal.ofMoment (← zone.moment i))) = Except.error e ↔
        e = .instantOutOfRange ∧ ¬zone.CanShow i :=
      Fault.map_eq_error_iff.trans Zone.moment_eq_error_iff
    have hfound : ∀ rest : Zone → Except Fault (Option Temporal.Fields),
        ZoneName.find zoneName >>= rest = rest zone := fun rest => by rw [hzone]; rfl
    cases type <;> simp only [Temporal.fields?, hi, hfound, hshown] <;> simp

theorem format_eq_error_iff (hzone : ZoneName.find zoneName = .ok zone) {args : List Text}
    {value : Value} {pattern : Text} {e : Fault} :
    Temporal.format value (some type) pattern zoneName = .error e ↔
      Stops type zone .dateFormat args value e := by
  have hformat : Temporal.format value (some type) pattern zoneName = .error e ↔
      value ≠ .null ∧ Temporal.fields? (some type) zoneName value.display = .error e := by
    unfold Temporal.format
    split
    · exact iff_of_false nofun fun h => h.1 rfl
    · rename_i hgiven
      rw [Fault.bind_eq_error_iff]
      constructor
      · rintro (h | ⟨fields, -, h⟩)
        · exact ⟨hgiven, h⟩
        · cases fields <;> cases h
      · rintro ⟨-, h⟩
        exact .inl h
  rw [hformat, fields?_eq_error_iff hzone]
  constructor
  · rintro ⟨given, isInstant, i, read, rfl, unseen⟩
    exact .instant isInstant given read unseen
  · intro h
    cases h with
    | instant isInstant given read unseen => exact ⟨given, isInstant, _, read, rfl, unseen⟩

/-- A filter with a number of arguments that it accepts fails on its own grounds only. -/
theorem apply_eq_error_iff (hzone : ZoneName.find zoneName = .ok zone) {f : FilterKind}
    {args : List Text} (haccepts : f.accepts args.length = true) {value : Value} {e : Fault} :
    apply f ⟨some type, zoneName⟩ args value = .error e ↔ Stops type zone f args value e := by
  have hcount := FilterKind.accepts_iff.1 haccepts
  cases f with
  | upper | lower | zenkaku | hankaku => exact iff_of_false nofun nofun
  | default =>
    obtain ⟨t, rfl⟩ := List.length_eq_one_iff.1 (Nat.le_antisymm hcount.2 hcount.1)
    refine iff_of_false (fun h => ?_) nofun
    cases value <;> cases h
  | replace =>
    obtain ⟨old, new, rfl⟩ := List.length_eq_two.1 (Nat.le_antisymm hcount.2 hcount.1)
    exact iff_of_false nofun nofun
  | slice =>
    obtain ⟨first, last, rfl⟩ := List.length_eq_two.1 (Nat.le_antisymm hcount.2 hcount.1)
    exact iff_of_false nofun nofun
  | padLeft =>
    rw [apply_padLeft _ (List.ne_nil_of_length_pos hcount.1), Fault.map_eq_error_iff]
    exact padLeft_eq_error_iff
  | comma =>
    refine Fault.map_eq_error_iff.trans (comma_eq_error_iff.trans ?_)
    constructor
    · rintro ⟨rfl, large⟩
      exact .comma large
    · intro h
      cases h with
      | comma large => exact ⟨rfl, large⟩
  | fixed =>
    obtain ⟨places, rfl⟩ := List.length_eq_one_iff.1 (Nat.le_antisymm hcount.2 hcount.1)
    refine Fault.map_eq_error_iff.trans (fixed_eq_error_iff.trans ?_)
    constructor
    · rintro ⟨rfl, large⟩
      exact .fixed large
    · intro h
      cases h with
      | fixed large => exact ⟨rfl, large⟩
  | either =>
    obtain ⟨whenTrue, whenFalse, rfl⟩ :=
      List.length_eq_two.1 (Nat.le_antisymm hcount.2 hcount.1)
    rw [apply_either, Fault.map_eq_error_iff, Value.isFalsy_eq_error_iff]
    constructor
    · rintro ⟨rfl, n, rfl, large⟩
      exact .either large
    · intro h
      cases h with
      | either large => exact ⟨rfl, _, rfl, large⟩
  | dateFormat => exact Fault.map_eq_error_iff.trans (format_eq_error_iff hzone)

/-- The ground on which a call ends a chain at a value. -/
def CallStops (type : DataType) (zone : Zone) (c : FilterCall) (value : Value) (e : Fault) : Prop :=
  ∃ f, FilterKind.ofName? c.name = some f ∧ Stops type zone f c.args value e

theorem call_eq_error_iff (hzone : ZoneName.find zoneName = .ok zone) {c : FilterCall}
    (hc : c.IsLegal type) {value : Value} {e : Fault} :
    call ⟨some type, zoneName⟩ value c = .error e ↔ CallStops type zone c value e := by
  obtain ⟨f, hf, haccepts⟩ := hc
  have hname := FilterKind.ofName?_of_forType? hf
  unfold call
  rw [hname]
  refine (apply_eq_error_iff hzone haccepts).trans ⟨fun h => ⟨f, hname, h⟩, ?_⟩
  rintro ⟨g, hg, h⟩
  exact Option.some.inj (hname.symm.trans hg) ▸ h

/-- A chain fails when a call fails at the value that the calls before it reach. -/
theorem applyAll_eq_error_iff {context : Context} {calls : List FilterCall} {value : Value}
    {e : Fault} :
    applyAll context calls value = .error e ↔
      ∃ before c after reached, calls = before ++ c :: after ∧
        applyAll context before value = .ok reached ∧ call context reached c = .error e := by
  induction calls generalizing value with
  | nil =>
    refine iff_of_false nofun ?_
    rintro ⟨before, c, after, -, h, -⟩
    cases before <;> cases h
  | cons d rest ih =>
    have hstep : applyAll context (d :: rest) value =
        call context value d >>= applyAll context rest := rfl
    rw [hstep, Fault.bind_eq_error_iff]
    constructor
    · rintro (h | ⟨next, hnext, h⟩)
      · exact ⟨[], d, rest, value, rfl, rfl, h⟩
      · obtain ⟨before, c, after, reached, rfl, hbefore, hc⟩ := ih.1 h
        exact ⟨d :: before, c, after, reached, rfl,
          Fault.bind_eq_ok_iff.2 ⟨next, hnext, hbefore⟩, hc⟩
    · rintro ⟨before, c, after, reached, hcalls, hbefore, hc⟩
      cases before with
      | nil =>
        cases hcalls
        cases hbefore
        exact .inl hc
      | cons b before =>
        cases hcalls
        obtain ⟨next, hnext, hbefore⟩ := Fault.bind_eq_ok_iff.1 hbefore
        exact .inr ⟨next, hnext, ih.2 ⟨before, c, after, reached, rfl, hbefore, hc⟩⟩

/-- The ground on which a chain ends: that of the first call that the value it reaches
stops. -/
def ChainStops (type : DataType) (zoneName : Text) (zone : Zone) (calls : List FilterCall)
    (value : Value) (e : Fault) : Prop :=
  ∃ before c after reached, calls = before ++ c :: after ∧
    applyAll ⟨some type, zoneName⟩ before value = .ok reached ∧ CallStops type zone c reached e

theorem applyAll_eq_error_iff_chainStops (hzone : ZoneName.find zoneName = .ok zone)
    {calls : List FilterCall} (hcalls : ∀ c ∈ calls, c.IsLegal type) {value : Value} {e : Fault} :
    applyAll ⟨some type, zoneName⟩ calls value = .error e ↔
      ChainStops type zoneName zone calls value e := by
  rw [applyAll_eq_error_iff]
  refine exists_congr fun before => exists_congr fun c => exists_congr fun after =>
    exists_congr fun reached => and_congr_right fun hsplit => and_congr_right fun _ => ?_
  exact call_eq_error_iff hzone (hcalls c (hsplit ▸ by simp))

end Filter

theorem Fault.exists_ok_iff {α : Type} {x : Except Fault α} :
    (∃ a, x = .ok a) ↔ ∀ e, x ≠ .error e := by
  cases x with
  | ok a => exact iff_of_true ⟨a, rfl⟩ nofun
  | error e => exact iff_of_false nofun fun h => h e rfl

/-- The chains that are read for a type are legal for it. A legal chain is applied to any
value, for a known zone, with a result, unless one of its filters is stopped by the value
that the filters before it give: a whole number beyond every double in a numeric format or
a choice, a filling that is too long, an instant outside the years 1 to 9999. Any value but
such a number can be tested as a condition. -/
theorem filters_give_a_value_unless_one_is_stopped {type : DataType} {zoneName : Text}
    {zone : Zone} (hzone : ZoneName.find zoneName = .ok zone) :
    (∀ texts calls, Expression.readFilters type texts = .ok calls →
      ∀ c ∈ calls, c.IsLegal type) ∧
    (∀ calls, (∀ c ∈ calls, c.IsLegal type) → ∀ value,
      ((∃ result, Filter.applyAll ⟨some type, zoneName⟩ calls value = .ok result) ↔
        ∀ e, ¬Filter.ChainStops type zoneName zone calls value e) ∧
      ∀ e, Filter.applyAll ⟨some type, zoneName⟩ calls value = .error e ↔
        Filter.ChainStops type zoneName zone calls value e) ∧
    ∀ value : Value, (∃ isFalsy, value.isFalsy = .ok isFalsy) ↔
      ∀ n, value = .number n → n.exceedsDouble = false := by
  refine ⟨fun _ _ h => Expression.isLegal_of_readFilters h, fun calls hcalls value => ?_,
    fun value => ?_⟩
  · have hstops : ∀ e, Filter.applyAll ⟨some type, zoneName⟩ calls value = .error e ↔
        Filter.ChainStops type zoneName zone calls value e :=
      fun _ => Filter.applyAll_eq_error_iff_chainStops hzone hcalls
    exact ⟨Fault.exists_ok_iff.trans (forall_congr' fun e => not_congr (hstops e)), hstops⟩
  · rw [Fault.exists_ok_iff]
    constructor
    · intro htested n hn
      refine Bool.eq_false_iff.2 fun large => ?_
      exact htested _ (Value.isFalsy_eq_error_iff.2 ⟨rfl, n, hn, large⟩)
    · intro hsmall e he
      obtain ⟨-, n, hn, large⟩ := Value.isFalsy_eq_error_iff.1 he
      exact Bool.false_ne_true ((hsmall n hn).symm.trans large)

/-- A price is grouped and filled, and a time is shown in a zone. -/
theorem filters_give_price_and_date :
    ∃ zone, ZoneName.find "Africa/Abidjan" = .ok zone ∧
      (∀ e, ¬Filter.ChainStops .integer "Africa/Abidjan" zone
        [⟨"comma", []⟩, ⟨"pad-left", ["12", "*"]⟩] (.ofInt 1234567) e) ∧
      (∀ e, ¬Filter.ChainStops .datetime "Africa/Abidjan" zone
        [⟨"date-format", ["YYYY-MM-DD"]⟩] (.text "2026-02-23T10:00:00+14:00") e) := by
  obtain ⟨zone, hzone, -⟩ := Fault.exists_of_succeedsWith (by decide +kernel :
    Fault.succeedsWith (fun _ => true) (ZoneName.find "Africa/Abidjan") = true)
  have hprices : Expression.readFilters .integer ["comma", "pad-left:12,*"] =
      .ok [⟨"comma", []⟩, ⟨"pad-left", ["12", "*"]⟩] := by decide +kernel
  have hdates : Expression.readFilters .datetime ["date-format:YYYY-MM-DD"] =
      .ok [⟨"date-format", ["YYYY-MM-DD"]⟩] := by decide +kernel
  have hprice : Filter.applyAll ⟨some .integer, "Africa/Abidjan"⟩
      [⟨"comma", []⟩, ⟨"pad-left", ["12", "*"]⟩] (.ofInt 1234567) =
        .ok (.text "***1,234,567") := by decide +kernel
  have hdate : Filter.applyAll ⟨some .datetime, "Africa/Abidjan"⟩
      [⟨"date-format", ["YYYY-MM-DD"]⟩] (.text "2026-02-23T10:00:00+14:00") =
        .ok (.text "2026-02-22") := by decide +kernel
  have hinteger := @filters_give_a_value_unless_one_is_stopped .integer _ _ hzone
  have hdatetime := @filters_give_a_value_unless_one_is_stopped .datetime _ _ hzone
  exact ⟨zone, hzone, (hinteger.2.1 _ (hinteger.1 _ _ hprices) _).1.1 ⟨_, hprice⟩,
    (hdatetime.2.1 _ (hdatetime.1 _ _ hdates) _).1.1 ⟨_, hdate⟩⟩

/-- Legal chains without a result: a choice on a number of 310 digits, a filling without an
end, and an instant that is in the year 0 in UTC. The number cannot be a condition either. -/
theorem filters_give_no_value_for_large_number :
    (Expression.readFilters .integer ["either:yes,no"] = .ok [⟨"either", ["yes", "no"]⟩] ∧
      Filter.applyAll ⟨some .integer, "Africa/Abidjan"⟩ [⟨"either", ["yes", "no"]⟩]
        (.ofInt (10 ^ 309)) = .error .numberTooLarge) ∧
    (Expression.readFilters .string ["pad-left:9223372036854775808"] =
        .ok [⟨"pad-left", ["9223372036854775808"]⟩] ∧
      Filter.applyAll ⟨some .string, "Africa/Abidjan"⟩ [⟨"pad-left", ["9223372036854775808"]⟩]
        (.text "x") = .error .paddingUncountable) ∧
    (Expression.readFilters .datetime ["date-format:YYYY"] = .ok [⟨"date-format", ["YYYY"]⟩] ∧
      Filter.applyAll ⟨some .datetime, "Africa/Abidjan"⟩ [⟨"date-format", ["YYYY"]⟩]
        (.text "0001-01-01T00:00:00+14:00") = .error .instantOutOfRange) ∧
    (Value.ofInt (10 ^ 309)).isFalsy = .error .numberTooLarge := by
  refine ⟨⟨?_, ?_⟩, ⟨?_, ?_⟩, ⟨?_, ?_⟩, ?_⟩ <;> decide +kernel

end TypedTemplate
