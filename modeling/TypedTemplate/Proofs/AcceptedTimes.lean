import TypedTemplate.Proofs.AppliedFilters
import TypedTemplate.Proofs.ReadStamps
import TypedTemplate.Schema.Keywords

/-!
# Accepted times

What has the format of a date or of a time is shown by the numerals that stand in it. What has the
format of an instant is a stamp: it is shown by the clocks of the zone if it names an instant, and
otherwise, as the format does not look at the calendar, as it is.
-/
namespace TypedTemplate

open Temporal

namespace Iso

def WrittenDate.fields (d : WrittenDate) : Fields := ⟨d.year, d.month, d.day, "00", "00", "00"⟩

def WrittenClock.fields (w : WrittenClock) : Fields :=
  ⟨"0000", "00", "00", w.hour, w.minute, w.second.getD "00"⟩

theorem WrittenDate.ofDate?_append (d : WrittenDate) (rest : Text) :
    ofDate? (d.text ++ rest) = some d.fields := by
  obtain ⟨y₁, y₂, y₃, y₄, hyear, h₁, h₂, h₃, h₄⟩ := d.year_numeral.exists_four
  obtain ⟨m₁, m₂, hmonth, h₅, h₆⟩ := d.month_numeral.exists_two
  obtain ⟨d₁, d₂, hday, h₇, h₈⟩ := d.day_numeral.exists_two
  simp [text, ofDate?, areDigits, fields, *]

theorem WrittenClock.ofTime?_append (w : WrittenClock) (h : w.fraction = none) (rest : Text)
    (hrest : rest.head? ≠ some ':') : ofTime? (w.text ++ rest) = some w.fields := by
  obtain ⟨h₁, h₂, hhour, hd₁, hd₂⟩ := w.hour_numeral.exists_two
  obtain ⟨m₁, m₂, hminute, hd₃, hd₄⟩ := w.minute_numeral.exists_two
  have hseconds : secondsAfter (w.details ++ rest) = w.second.getD "00" := by
    cases hsecond : w.second with
    | none =>
      rw [details, hsecond, fractionText, h]
      cases rest with
      | nil => rfl
      | cons c rest =>
        have hc : c ≠ ':' := by simpa using hrest
        simp [secondsAfter, hc]
    | some second =>
      obtain ⟨s₁, s₂, rfl, hs₁, hs₂⟩ := (w.second_numeral second hsecond).exists_two
      simp [details, hsecond, secondsAfter, areDigits, hs₁, hs₂]
  simp [text, ofTime?, areDigits, fields, *]

end Iso

namespace Format

variable {t : Text}

open Iso

theorem exists_date_of_accepts (h : accepts "date" t = true) :
    ∃ d : WrittenDate, Text.IsLine d.text t := by
  have hformat : accepts "date" t = (afterShape? "dddd-dd-dd" t).any isLineEnd := rfl
  rw [hformat, any_eq_true_iff] at h
  obtain ⟨u, hu, hend⟩ := h
  obtain ⟨year, month, day, hyear, hmonth, hday, rfl⟩ := afterShape?_date.1 hu
  have hline := isLine_of_isLineEnd (u := year ++ '-' :: (month ++ '-' :: day)) hend
  exact ⟨⟨year, month, day, hyear, hmonth, hday⟩, by simpa [WrittenDate.text] using hline⟩

theorem exists_clock_of_accepts (h : accepts "time" t = true) :
    ∃ w : WrittenClock, w.fraction = none ∧ Text.IsLine w.text t := by
  have hformat : accepts "time" t = (afterShape? "dd:dd" t).any (orSkip ":dd" isLineEnd) := rfl
  rw [hformat, any_eq_true_iff] at h
  obtain ⟨u, hu, h⟩ := h
  obtain ⟨hour, minute, hhour, hminute, rfl⟩ := (afterShape?_pair (by decide : ':' ≠ 'd')).1 hu
  rw [orSkip, Bool.or_eq_true, any_eq_true_iff] at h
  rcases h with ⟨v, hv, hend⟩ | hend
  · obtain ⟨second, hsecond, rfl⟩ := afterShape?_second.1 hv
    have hline := isLine_of_isLineEnd (u := hour ++ ':' :: (minute ++ ':' :: second)) hend
    refine ⟨⟨hour, minute, some second, none, hhour, hminute, by simpa using hsecond, by simp⟩,
      rfl, ?_⟩
    simpa [WrittenClock.text, WrittenClock.details, WrittenClock.fractionText] using hline
  · have hline := isLine_of_isLineEnd (u := hour ++ ':' :: minute) hend
    refine ⟨⟨hour, minute, none, none, hhour, hminute, by simp, by simp⟩, rfl, ?_⟩
    simpa [WrittenClock.text, WrittenClock.details, WrittenClock.fractionText] using hline

end Format

theorem Zone.exists_moment_of_canShow {zone : Zone} {i : Instant} (h : zone.CanShow i) :
    ∃ m, zone.moment i = .ok m := by
  cases hm : zone.moment i with
  | ok m => exact ⟨m, rfl⟩
  | error e => exact absurd h (moment_eq_error_iff.1 hm).2

namespace Iso

variable {u t : Text}

theorem Stamp.read?_eq_none_iff (s : Stamp) (h : Text.IsLine s.text t) :
    read? t = none ↔ ¬s.NamesInstant := by
  simp [Option.eq_none_iff_forall_ne_some, s.read?_eq_some_iff h]

theorem WrittenDate.ofDate?_of_isLine (d : WrittenDate) (h : Text.IsLine d.text t) :
    ofDate? t = some d.fields := by
  rcases h with rfl | rfl
  · rw [← d.ofDate?_append [], List.append_nil]
  · exact d.ofDate?_append ['\n']

theorem WrittenClock.ofTime?_of_isLine (w : WrittenClock) (hfraction : w.fraction = none)
    (h : Text.IsLine w.text t) : ofTime? t = some w.fields := by
  rcases h with rfl | rfl
  · rw [← w.ofTime?_append hfraction [] (by simp), List.append_nil]
  · exact w.ofTime?_append hfraction ['\n'] (by simp)

end Iso

theorem Temporal.format_of_fields? {t zone : Text} {type : Option DataType} {f : Option Fields}
    (h : fields? type zone t = .ok f) (pattern : Text) :
    format (.text t) type pattern zone = .ok (f.elim t (·.fill pattern)) := by
  rw [format_text, h]
  rfl

/-- What has the format of its type is shown in every pattern and zone. A date is shown by its
numerals, a time of day by those that it has. An instant is a stamp, shown by the clocks of the zone
if it names an instant that they can show, and as it is if it names none. -/
theorem accepted_times_are_shown_by_what_they_name {type : DataType} {name t zone : Text} {z : Zone}
    (hformat : Keywords.format? type = some name) (haccepts : Format.accepts name t = true)
    (hzone : ZoneName.find zone = .ok z) :
    (type = .date ∧ ∃ d : Iso.WrittenDate, Text.IsLine d.text t ∧ ∀ pattern,
      format (.text t) (some type) pattern zone = .ok (d.fields.fill pattern)) ∨
    (type = .time ∧ ∃ w : Iso.WrittenClock, w.fraction = none ∧ Text.IsLine w.text t ∧
      ∀ pattern, format (.text t) (some type) pattern zone = .ok (w.fields.fill pattern)) ∨
    (type = .datetime ∧ ∃ s : Iso.Stamp, Text.IsLine s.text t ∧
      (s.NamesInstant → z.CanShow s.instant → ∃ m, z.moment s.instant = .ok m ∧ ∀ pattern,
        format (.text t) (some type) pattern zone = .ok ((ofMoment m).fill pattern)) ∧
      (¬s.NamesInstant → ∀ pattern, format (.text t) (some type) pattern zone = .ok t)) := by
  cases type with
  | date =>
    left
    cases hformat
    obtain ⟨d, hline⟩ := Format.exists_date_of_accepts haccepts
    have hfields : fields? (some .date) zone t = .ok (some d.fields) := by
      rw [fields?, d.ofDate?_of_isLine hline]
    exact ⟨rfl, d, hline, format_of_fields? hfields⟩
  | time =>
    right; left
    cases hformat
    obtain ⟨w, hfraction, hline⟩ := Format.exists_clock_of_accepts haccepts
    have hfields : fields? (some .time) zone t = .ok (some w.fields) := by
      rw [fields?, w.ofTime?_of_isLine hfraction hline]
    exact ⟨rfl, w, hfraction, hline, format_of_fields? hfields⟩
  | datetime =>
    right; right
    cases hformat
    obtain ⟨s, hline⟩ := Format.exists_stamp_of_accepts haccepts
    refine ⟨rfl, s, hline, fun hnames hshow => ?_, fun hnames => ?_⟩
    · obtain ⟨m, hm⟩ := Zone.exists_moment_of_canShow hshow
      refine ⟨m, hm, fun pattern => ?_⟩
      rw [format_of_read? ((s.read?_eq_some_iff hline).2 ⟨hnames, rfl⟩), hzone]
      simp [hm, bind, Except.bind, pure, Except.pure]
    · have hfields : fields? (some .datetime) zone t = .ok none := by
        simp only [fields?, (s.read?_eq_none_iff hline).2 hnames]
      exact format_of_fields? hfields
  | string | integer | number | boolean => cases hformat

/-- Ten o'clock in UTC names an instant, and is shown by the clocks of Abidjan. -/
theorem ten_o_clock_is_shown_by_what_it_names : ∃ z, ZoneName.find "Africa/Abidjan" = .ok z ∧
    ∃ s : Iso.Stamp, Text.IsLine s.text "2026-02-23T10:00:00Z" ∧ s.NamesInstant ∧
      z.CanShow s.instant ∧ ∃ m, z.moment s.instant = .ok m ∧ ∀ pattern,
        format (.text "2026-02-23T10:00:00Z") (some .datetime) pattern "Africa/Abidjan" =
          .ok ((ofMoment m).fill pattern) := by
  let i : Instant := ⟨⟨2026, 2, 23, 10, 0, 0, 0⟩, 0⟩
  obtain ⟨z, hz, hmoment⟩ := Fault.exists_of_succeedsWith (by decide +kernel :
    Fault.succeedsWith (fun z => Fault.succeedsWith (fun _ => true) (z.moment i))
      (ZoneName.find "Africa/Abidjan") = true)
  obtain ⟨m, hm, -⟩ := Fault.exists_of_succeedsWith hmoment
  have hshow : z.CanShow i := by
    by_contra hunseen
    cases hm.symm.trans (Zone.moment_eq_error_iff.2 ⟨rfl, hunseen⟩)
  refine ⟨z, hz, ?_⟩
  rcases accepted_times_are_shown_by_what_they_name (t := "2026-02-23T10:00:00Z")
    (rfl : Keywords.format? .datetime = some "date-time") (by decide) hz with h | h | h
  · exact absurd h.1 (by decide)
  · exact absurd h.1 (by decide)
  · obtain ⟨-, s, hline, hshown, -⟩ := h
    have hread : Iso.read? "2026-02-23T10:00:00Z" = some i := by decide +kernel
    obtain ⟨hnames, hinstant⟩ := (s.read?_eq_some_iff hline).1 hread
    rw [← hinstant] at hshow
    exact ⟨s, hline, hnames, hshow, hshown hnames hshow⟩

/-- The thirtieth of February has the format of instants and names none: it is shown as it is, in
every pattern. -/
theorem thirtieth_of_february_is_shown_as_it_is :
    Keywords.format? .datetime = some "date-time" ∧
    Format.accepts "date-time" "2026-02-30T10:00:00Z" = true ∧
    (∃ z, ZoneName.find "Africa/Abidjan" = .ok z) ∧
    format (.text "2026-02-30T10:00:00Z") (some .datetime) "YYYY" "Africa/Abidjan" =
      .ok "2026-02-30T10:00:00Z" ∧
    ¬∃ f : Fields, ∀ pattern,
      format (.text "2026-02-30T10:00:00Z") (some .datetime) pattern "Africa/Abidjan" =
        .ok (f.fill pattern) := by
  obtain ⟨z, hz, -⟩ := Fault.exists_of_succeedsWith (by decide +kernel :
    Fault.succeedsWith (fun _ => true) (ZoneName.find "Africa/Abidjan") = true)
  have hread : Iso.read? "2026-02-30T10:00:00Z" = none := by decide +kernel
  have hfields : fields? (some .datetime) "Africa/Abidjan" "2026-02-30T10:00:00Z" = .ok none := by
    simp only [fields?, hread]
  have hshown := format_of_fields? hfields
  refine ⟨rfl, by decide, ⟨z, hz⟩, hshown "YYYY", ?_⟩
  rintro ⟨f, hf⟩
  have hempty := (hshown []).symm.trans (hf [])
  exact absurd (Except.ok.inj hempty) (by simp [Fields.fill])

end TypedTemplate
