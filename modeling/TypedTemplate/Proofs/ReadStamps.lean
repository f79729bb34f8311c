import TypedTemplate.Proofs.Stamps

/-!
# Read stamps

How a stamp is read. Its digits are read as far as they are those of ASCII, of a fraction the first
six. It is read as an instant exactly if all of them are, and the date, the clock and the offset
exist.
-/
namespace TypedTemplate

namespace Iso

def number (t : Text) : Nat := t.foldl (fun n c => 10 * n + (c.toNat - 48)) 0

@[simp] theorem number_nil : number [] = 0 := rfl

def AreAscii (t : Text) : Prop := ∀ c ∈ t, isAsciiDigit c = true

theorem areAscii_append {a b : Text} : AreAscii (a ++ b) ↔ AreAscii a ∧ AreAscii b :=
  List.forall_mem_append

theorem areAscii_nil : AreAscii [] := by simp [AreAscii]

theorem bind_digits?_eq_some_iff {width : Nat} {numeral rest : Text} (h : numeral.length = width)
    {α : Type} {next : Nat × Text → Option α} {a : α} :
    digits? width (numeral ++ rest) >>= next = some a ↔
      AreAscii numeral ∧ next (number numeral, rest) = some a := by
  subst h
  have hall : numeral.all isAsciiDigit = true ↔ AreAscii numeral := List.all_eq_true
  rw [digits?, List.take_left, List.drop_left]
  by_cases hascii : AreAscii numeral
  · simp [hall, hascii, number]
  · simp [hall, hascii]

theorem next_colon (c : Char) (rest : Text) :
    next true (':' :: c :: rest) = .part (c :: rest) := rfl

theorem next_point (c : Char) (rest : Text) :
    next true ('.' :: c :: rest) = .fraction (c :: rest) := rfl

/-- The fraction with its first six digits. -/
def withFraction (c : Clock) (fraction : Text) : Clock :=
  { c with
    microsecond := number (fraction.take 6) * tenTo (6 - min 6 fraction.length)
    complete := isEnd ((fraction.drop 6).dropWhile isAsciiDigit) }

theorem fraction?_eq_some_iff {c c' : Clock} {fraction : Text} :
    fraction? c fraction = some c' ↔
      AreAscii (fraction.take 6) ∧ withFraction c fraction = c' := by
  have hlength : (fraction.take 6).length = min 6 fraction.length := List.length_take
  have hread : fraction? c fraction = digits? (min 6 fraction.length)
      (fraction.take 6 ++ fraction.drop 6) >>= fun r =>
        some { c with
          microsecond := r.1 * tenTo (6 - min 6 fraction.length)
          complete := isEnd (r.2.dropWhile isAsciiDigit) } := by
    rw [List.take_append_drop]
    rfl
  rw [hread, bind_digits?_eq_some_iff hlength, Option.some.injEq]
  rfl

namespace WrittenClock

/-- The digits of a clock that are read: of a fraction, the first six. -/
def digits (w : WrittenClock) : Text :=
  w.hour ++ w.minute ++ w.second.getD [] ++ (w.fraction.getD []).take 6

def reading (w : WrittenClock) : Clock :=
  let c : Clock := ⟨number w.hour, number w.minute, number (w.second.getD []), 0, true⟩
  w.fraction.elim c (withFraction c)

theorem seconds?_eq_some_iff (w : WrittenClock) {second : Text} (h : w.second = some second)
    {c : Clock} :
    seconds? true (number w.hour) (number w.minute) (second ++ w.fractionText) = some c ↔
      AreAscii (second ++ (w.fraction.getD []).take 6) ∧ w.reading = c := by
  have hnumeral := (w.second_numeral second h).length_eq
  rw [seconds?, bind_digits?_eq_some_iff hnumeral, areAscii_append, and_assoc]
  apply and_congr_right
  intro _
  cases hfraction : w.fraction with
  | none => simp [fractionText, reading, hfraction, h, next, areAscii_nil]
  | some f =>
    obtain ⟨d, f, rfl⟩ := List.exists_cons_of_ne_nil (w.fraction_numeral f hfraction).1
    simp only [fractionText, reading, hfraction, h, Option.elim, next_point, Option.getD,
      fraction?_eq_some_iff]

theorem minutes?_eq_some_iff (w : WrittenClock) {c : Clock} :
    minutes? true (number w.hour) (w.minute ++ w.details) = some c ↔
      AreAscii (w.minute ++ w.second.getD [] ++ (w.fraction.getD []).take 6) ∧ w.reading = c := by
  have hnumeral := w.minute_numeral.length_eq
  rw [minutes?, bind_digits?_eq_some_iff hnumeral, List.append_assoc, areAscii_append, and_assoc]
  apply and_congr_right
  intro _
  cases hsecond : w.second with
  | some second =>
    have hread := w.seconds?_eq_some_iff hsecond (c := c)
    obtain ⟨a, b, rfl, -, -⟩ := (w.second_numeral second hsecond).exists_two
    simpa [details, hsecond, next_colon] using hread
  | none =>
    cases hfraction : w.fraction with
    | none => simp [details, fractionText, reading, hfraction, hsecond, next, areAscii_nil]
    | some f =>
      obtain ⟨d, f, rfl⟩ := List.exists_cons_of_ne_nil (w.fraction_numeral f hfraction).1
      simp only [details, fractionText, reading, hfraction, hsecond, Option.elim, next_point,
        Option.getD, fraction?_eq_some_iff, List.nil_append, number_nil]

theorem clock?_eq_some_iff (w : WrittenClock) {c : Clock} :
    clock? w.text = some c ↔ AreAscii w.digits ∧ w.reading = c := by
  have hnumeral := w.hour_numeral.length_eq
  have hread := w.minutes?_eq_some_iff (c := c)
  obtain ⟨a, b, hminute, -, -⟩ := w.minute_numeral.exists_two
  rw [text, clock?, bind_digits?_eq_some_iff hnumeral, digits, List.append_assoc, List.append_assoc,
    areAscii_append, and_assoc]
  apply and_congr_right
  intro _
  rw [← List.append_assoc, ← hread, hminute]
  simp [next_colon]

theorem isDecimal_or_mark_of_mem (w : WrittenClock) {c : Char} (h : c ∈ w.text) :
    isDecimal c = true ∨ c ∈ [':', '.'] := by
  simp only [text, details, fractionText, List.mem_append, List.mem_cons] at h
  rcases h with h | rfl | h | h | h
  · exact .inl (w.hour_numeral.isDecimal_of_mem c h)
  · exact .inr (by simp)
  · exact .inl (w.minute_numeral.isDecimal_of_mem c h)
  · cases hsecond : w.second with
    | none => simp [hsecond] at h
    | some second =>
      simp only [hsecond, Option.elim, List.mem_cons] at h
      rcases h with rfl | h
      · exact .inr (by simp)
      · exact .inl ((w.second_numeral second hsecond).isDecimal_of_mem c h)
  · cases hfraction : w.fraction with
    | none => simp [hfraction] at h
    | some fraction =>
      simp only [hfraction, Option.elim, List.mem_cons] at h
      rcases h with rfl | h
      · exact .inr (by simp)
      · exact .inl ((w.fraction_numeral fraction hfraction).2 c h)

theorem isSign_of_mem (w : WrittenClock) {c : Char} (h : c ∈ w.text) :
    (c == '+' || c == '-' || c == 'Z') = false := by
  have hchar := w.isDecimal_or_mark_of_mem h
  rw [Bool.eq_false_iff]
  intro hsign
  simp only [Bool.or_eq_true, beq_iff_eq] at hsign
  rcases hsign with (rfl | rfl) | rfl <;> exact absurd hchar (by decide)

theorem five_le_length_text (w : WrittenClock) : 5 ≤ w.text.length := by
  simp only [text, List.length_append, List.length_cons, w.hour_numeral.length_eq,
    w.minute_numeral.length_eq]
  omega

end WrittenClock

namespace Offset

def clock (o : Offset) : WrittenClock where
  hour := [o.h₁, o.h₂]
  minute := [o.m₁, o.m₂]
  second := none
  fraction := none
  hour_numeral := ⟨rfl, by simp [o.areDigits]⟩
  minute_numeral := ⟨rfl, by simp [o.areDigits]⟩
  second_numeral := by simp
  fraction_numeral := by simp

theorem extended_eq (o : Offset) : o.extended = o.sign :: o.clock.text := rfl

def seconds (o : Offset) : Nat := number [o.h₁, o.h₂] * 3600 + number [o.m₁, o.m₂] * 60

def microseconds (o : Offset) : Int :=
  if o.sign = '-' then -(o.seconds * 1000000 : Nat) else (o.seconds * 1000000 : Nat)

theorem offsetLength_reading (o : Offset) : offsetLength o.clock.reading = o.seconds * 1000000 := by
  have hhour : o.clock.reading.hour = number [o.h₁, o.h₂] := rfl
  have hminute : o.clock.reading.minute = number [o.m₁, o.m₂] := rfl
  have hsecond : o.clock.reading.second = 0 := rfl
  have hmicrosecond : o.clock.reading.microsecond = 0 := rfl
  rw [offsetLength, hhour, hminute, hsecond, hmicrosecond, seconds]
  split <;> omega

theorem complete_reading (o : Offset) : o.clock.reading.complete = true := rfl

end Offset

/-- A clock with an offset is read exactly if the digits that are read are those of ASCII and the
offset is less than a day. -/
theorem time?_eq_some_iff (w : WrittenClock) (o : Offset) {r : Clock × Int} :
    time? (w.text ++ o.extended) = some r ↔
      (AreAscii w.digits ∧ AreAscii o.clock.digits ∧ o.seconds < 86400) ∧
        (w.reading, o.microseconds) = r := by
  have hbody : ∀ c ∈ w.text, (!(c == '+' || c == '-' || c == 'Z')) = true := by
    intro c hc
    rw [w.isSign_of_mem hc]
    rfl
  have hsign : (!(o.sign == '+' || o.sign == '-' || o.sign == 'Z')) = false := by
    rcases o.isSign with h | h <;> rw [h] <;> rfl
  have hzulu : (o.sign == 'Z') = false := by
    rcases o.isSign with h | h <;> rw [h] <;> rfl
  have hbefore : (w.text ++ o.extended).takeWhile (fun c => !(c == '+' || c == '-' || c == 'Z')) =
      w.text := by
    rw [List.takeWhile_append_of_pos hbody, o.extended_eq,
      List.takeWhile_cons_of_neg (by simp [hsign])]
    simp
  have hafter : (w.text ++ o.extended).dropWhile (fun c => !(c == '+' || c == '-' || c == 'Z')) =
      o.sign :: o.clock.text := by
    rw [List.dropWhile_append_of_pos hbody, o.extended_eq,
      List.dropWhile_cons_of_neg (by simp [hsign])]
  have hread : time? (w.text ++ o.extended) = clock? w.text >>= fun c => clock? o.clock.text >>=
      fun length => if length.complete ∧ offsetLength length < 86400000000 then
        some (c, if o.sign == '-' then -(offsetLength length : Int) else offsetLength length)
        else none := by
    simp only [time?, hbefore, hafter, hzulu, Bool.false_eq_true, if_false]
  rw [hread]
  simp only [bind, Option.bind_eq_some_iff, w.clock?_eq_some_iff, o.clock.clock?_eq_some_iff]
  have hbound : o.seconds * 1000000 < 86400000000 ↔ o.seconds < 86400 := by omega
  constructor
  · rintro ⟨c, ⟨hclock, rfl⟩, length, ⟨hlength, rfl⟩, h⟩
    simp only [o.offsetLength_reading, o.complete_reading, hbound, true_and, beq_iff_eq] at h
    split at h
    · rename_i hday
      exact ⟨⟨hclock, hlength, hday⟩, Option.some.inj h⟩
    · cases h
  · rintro ⟨⟨hclock, hlength, hday⟩, rfl⟩
    refine ⟨w.reading, ⟨hclock, rfl⟩, o.clock.reading, ⟨hlength, rfl⟩, ?_⟩
    simp [o.offsetLength_reading, o.complete_reading, hbound, hday, Offset.microseconds]

namespace WrittenDate

def digits (d : WrittenDate) : Text := d.year ++ d.month ++ d.day

theorem length_text (d : WrittenDate) : d.text.length = 10 := by
  simp [text, d.year_numeral.length_eq, d.month_numeral.length_eq, d.day_numeral.length_eq]

theorem text_append (d : WrittenDate) (rest : Text) :
    d.text ++ rest = d.year ++ '-' :: (d.month ++ '-' :: (d.day ++ rest)) := by simp [text]

theorem exists_month (d : WrittenDate) : ∃ a b, d.month = [a, b] ∧ a ≠ 'W' := by
  obtain ⟨a, b, hmonth, ha, -⟩ := d.month_numeral.exists_two
  refine ⟨a, b, hmonth, ?_⟩
  rintro rfl
  exact absurd ha (by decide)

theorem date?_eq_some_iff (d : WrittenDate) (rest : Text) {r : Nat × Nat × Nat} :
    date? (d.text ++ rest) 10 = some r ↔
      AreAscii d.digits ∧ (number d.year, number d.month, number d.day) = r := by
  obtain ⟨a, b, hmonth, hweek⟩ := d.exists_month
  have hlength : (d.text ++ rest).length - rest.length = 10 := by
    rw [List.length_append, d.length_text, Nat.add_sub_cancel]
  have hhyphen : ∀ t : Text, hyphen? true ('-' :: t) = some t := fun t => by
    simp [hyphen?, Text.after?]
  have hyear := d.year_numeral.length_eq
  have hday := d.day_numeral.length_eq
  have htwo := d.month_numeral.length_eq
  rw [date?]
  generalize ht : d.text ++ rest = t at hlength ⊢
  rw [text_append] at ht
  rw [← ht, bind_digits?_eq_some_iff hyear, ht, digits, List.append_assoc, areAscii_append,
    and_assoc]
  apply and_congr_right
  intro _
  simp only [List.head?_cons, beq_self_eq_true, if_true, List.drop_succ_cons, List.drop_zero]
  split
  · rename_i heq
    simp only [hmonth, List.cons_append, List.cons.injEq] at heq
    exact absurd heq.1 hweek
  · rw [bind_digits?_eq_some_iff htwo, areAscii_append, and_assoc]
    apply and_congr_right
    intro _
    simp only [hhyphen, bind, Option.bind_some]
    have hread : (digits? 2 (d.day ++ rest)).bind (fun day =>
        if t.length - day.2.length = 10 then some (number d.year, number d.month, day.1)
        else none) = some r ↔ _ := bind_digits?_eq_some_iff hday
    simp only [hlength, if_true, Option.some.injEq] at hread
    exact hread

theorem dateLength_eq (d : WrittenDate) (rest : Text) : dateLength (d.text ++ rest) = 10 := by
  obtain ⟨a, b, hmonth, hweek⟩ := d.exists_month
  have hfourth : (d.text ++ rest)[4]? = some '-' := by
    rw [text_append, List.getElem?_append_right (by simp [d.year_numeral.length_eq])]
    simp [d.year_numeral.length_eq]
  have hfifth : (d.text ++ rest)[5]? = some a := by
    rw [text_append, List.getElem?_append_right (by simp [d.year_numeral.length_eq])]
    simp [d.year_numeral.length_eq, hmonth]
  simp [dateLength, hfourth, hfifth, hweek]

theorem isDecimal_or_mark_of_mem (d : WrittenDate) {c : Char} (h : c ∈ d.text) :
    isDecimal c = true ∨ c ∈ ['-'] := by
  simp only [text, List.mem_append, List.mem_cons] at h
  rcases h with h | rfl | h | rfl | h
  · exact .inl (d.year_numeral.isDecimal_of_mem c h)
  · exact .inr (by simp)
  · exact .inl (d.month_numeral.isDecimal_of_mem c h)
  · exact .inr (by simp)
  · exact .inl (d.day_numeral.isDecimal_of_mem c h)

end WrittenDate

namespace Stamp

/-- A stamp with the offset spelled out. -/
def spelled (s : Stamp) : Text :=
  s.date.text ++ s.mark :: (s.clock.text ++ s.ending.offset.extended)

def instant (s : Stamp) : Instant where
  moment :=
    { year := number s.date.year
      month := number s.date.month
      day := number s.date.day
      hour := s.clock.reading.hour
      minute := s.clock.reading.minute
      second := s.clock.reading.second
      microsecond := s.clock.reading.microsecond }
  offset := s.ending.offset.microseconds

/-- Whether a stamp names an instant: the digits that are read are those of ASCII, and the date, the
clock and the offset exist. -/
structure NamesInstant (s : Stamp) : Prop where
  date_ascii : AreAscii s.date.digits
  clock_ascii : AreAscii s.clock.digits
  offset_ascii : AreAscii s.ending.offset.clock.digits
  moment_valid : s.instant.moment.isValid = true
  offset_lt : s.ending.offset.seconds < 86400

theorem readSpelled?_eq_some_iff (s : Stamp) {i : Instant} :
    readSpelled? s.spelled = some i ↔ s.NamesInstant ∧ s.instant = i := by
  have hlength : s.spelled.length = 10 + (1 + s.clock.text.length + 6) := by
    simp only [spelled, List.length_append, List.length_cons, s.date.length_text,
      Offset.length_extended]
    omega
  have hlong : ¬s.spelled.length < 7 := by omega
  have htime : 1 < s.spelled.length - 10 := by omega
  have hdrop : s.spelled.drop 11 = s.clock.text ++ s.ending.offset.extended := by
    have hdate : s.date.text.drop 11 = [] := List.drop_of_length_le (by simp [s.date.length_text])
    rw [spelled, List.drop_append, hdate, s.date.length_text]
    rfl
  have hdate : dateLength s.spelled = 10 := s.date.dateLength_eq _
  have hread : ∀ r, date? s.spelled 10 = some r ↔ AreAscii s.date.digits ∧
      (number s.date.year, number s.date.month, number s.date.day) = r :=
    fun _ => s.date.date?_eq_some_iff _
  simp only [readSpelled?, hlong, htime, hdate, hdrop, if_true, if_false, bind,
    Option.bind_eq_some_iff, hread, time?_eq_some_iff]
  constructor
  · rintro ⟨_, ⟨hascii, rfl⟩, _, ⟨⟨hclock, hoffset, hday⟩, rfl⟩, h⟩
    split at h
    · rename_i hvalid
      exact ⟨⟨hascii, hclock, hoffset, hvalid, hday⟩, Option.some.inj h⟩
    · cases h
  · rintro ⟨h, rfl⟩
    refine ⟨_, ⟨h.date_ascii, rfl⟩, _, ⟨⟨h.clock_ascii, h.offset_ascii, h.offset_lt⟩, rfl⟩, ?_⟩
    exact if_pos h.moment_valid

theorem isSolid_date_mark_clock (s : Stamp) : (s.date.text ++ s.mark :: s.clock.text).IsSolid := by
  apply Text.IsSolid.of_forall (by simp)
  intro c hc
  have hchar : isDecimal c = true ∨ c ∈ ['-', 'T', 't', ':', '.'] := by
    rcases List.mem_append.1 hc with hc | hc
    · exact (s.date.isDecimal_or_mark_of_mem hc).imp_right fun h =>
        (by decide : ['-'] ⊆ ['-', 'T', 't', ':', '.']) h
    rcases List.mem_cons.1 hc with rfl | hc
    · rcases s.isMark with h | h <;> simp [h]
    · exact (s.clock.isDecimal_or_mark_of_mem hc).imp_right fun h =>
        (by decide : [':', '.'] ⊆ ['-', 'T', 't', ':', '.']) h
  rcases hchar with h | h
  · exact isBlank_of_isDecimal h
  · have hmarks : ['-', 'T', 't', ':', '.'].all (!isBlank ·) = true := by decide
    simpa only [Bool.not_eq_true'] using List.all_eq_true.1 hmarks c h

theorem not_endsInOffset (s : Stamp) : ¬EndsInOffset (s.date.text ++ s.mark :: s.clock.text) := by
  have hlong := s.clock.five_le_length_text
  have hnone : ∀ {c : Char} {t : Text}, c :: t <:+ s.date.text ++ s.mark :: s.clock.text →
      t.length ≤ 5 → c ∉ ['Z', 'z', '+', '-'] := by
    intro c t hsuffix hshort hmark
    have hend := List.suffix_of_suffix_length_le hsuffix (List.suffix_append s.date.text _)
      (by simp only [List.length_cons]; omega)
    rcases List.mem_cons.1 (hend.subset List.mem_cons_self) with rfl | hc
    · rcases s.isMark with h | h <;> simp [h] at hmark
    · have hchar := s.clock.isDecimal_or_mark_of_mem hc
      simp only [List.mem_cons, List.not_mem_nil, or_false] at hmark
      rcases hmark with rfl | rfl | rfl | rfl <;> exact absurd hchar (by decide)
  rintro (h | h | ⟨o, h | h⟩)
  · exact hnone h (by simp) (by simp)
  · exact hnone h (by simp) (by simp)
  · exact hnone h (by simp) (by rcases o.isSign with h | h <;> simp [h])
  · exact hnone h (by simp) (by rcases o.isSign with h | h <;> simp [h])

theorem read?_text (s : Stamp) : read? s.text = readSpelled? s.spelled := by
  have hsolid := s.isSolid_date_mark_clock.trim
  have hspelled : s.spelled =
      s.date.text ++ s.mark :: s.clock.text ++ s.ending.offset.extended := by simp [spelled]
  have htext : s.text = s.date.text ++ s.mark :: s.clock.text ++ s.ending.text := by simp [text]
  rw [htext, hspelled]
  cases s.ending with
  | absent =>
    rw [Ending.text, List.append_nil]
    exact read?_of_not_endsInOffset hsolid s.not_endsInOffset
  | letter c h => exact read?_letter hsolid h
  | extended o => exact read?_extended hsolid o
  | compact o => exact read?_compact hsolid o

end Stamp

theorem read?_congr_of_isLine {u t : Text} (h : Text.IsLine u t) : read? t = read? u := by
  rcases h with rfl | rfl
  · rfl
  · rw [read?, read?, Text.trim_concat_blank (by decide)]

/-- A stamp is read as an instant exactly if it names one. -/
theorem Stamp.read?_eq_some_iff (s : Stamp) {t : Text} (h : Text.IsLine s.text t) {i : Instant} :
    read? t = some i ↔ s.NamesInstant ∧ s.instant = i := by
  rw [read?_congr_of_isLine h, s.read?_text, s.readSpelled?_eq_some_iff]

end Iso

end TypedTemplate
