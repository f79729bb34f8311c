import Mathlib.Data.Stream.Init
import TypedTemplate.Proofs.AppliedFilters

/-!
# Filled texts

A text is filled on the left up to a width with another text that is repeated without end. The
filling is cut from whole repetitions, one more than fit into it, so it is never too short; nothing
is missing to the width afterwards, and the same filter leaves the filled text as it is.
-/
namespace TypedTemplate

/-- Whole repetitions of a text begin as the text repeated without end. -/
theorem Text.take_flatten_replicate {t : Text} (ht : t ≠ []) {n repetitions : ℕ}
    (hn : n ≤ repetitions * t.length) :
    (List.replicate repetitions t).flatten.take n = (Stream'.cycle t ht).take n := by
  have hcycle : (List.replicate repetitions t).flatten ++ₛ Stream'.cycle t ht =
      Stream'.cycle t ht := by
    clear hn
    induction repetitions with
    | zero => rfl
    | succ repetitions ih =>
      rw [List.replicate_succ, List.flatten_cons, Stream'.append_append_stream, ih,
        ← Stream'.cycle_eq]
  have hlength : n ≤ (List.replicate repetitions t).flatten.length := by
    rwa [List.length_flatten, List.map_replicate, List.sum_replicate_nat]
  exact (Stream'.take_append_of_le_length _ _ _ hlength).symm.trans (congrArg _ hcycle)

namespace Filter

/-- What is put before the text of a value: as many characters as it lacks, from whole repetitions
of the text that fills it. -/
def padding (args : List Text) (value : Value) : Text :=
  (List.replicate (missing args value / (filling args).length + 1)
    (filling args)).flatten.take (missing args value)

section padding

variable {type : DataType} {zone : Zone} {args : List Text} {value : Value}

theorem padding_eq_take_cycle (hfill : filling args ≠ []) (value : Value) :
    padding args value = (Stream'.cycle (filling args) hfill).take (missing args value) := by
  have hpositive : 0 < (filling args).length := List.length_pos_of_ne_nil hfill
  have hlong : missing args value <
      (missing args value / (filling args).length + 1) * (filling args).length :=
    (Nat.div_lt_iff_lt_mul hpositive).1 (Nat.lt_succ_self _)
  exact Text.take_flatten_replicate hfill (Nat.le_of_lt hlong)

theorem length_padding (hfill : filling args ≠ []) (value : Value) :
    (padding args value).length = missing args value := by
  rw [padding_eq_take_cycle hfill, Stream'.length_take]

theorem padding_eq_nil (h : missing args value = 0 ∨ (filling args).isEmpty) :
    padding args value = [] := by
  rw [padding]
  rcases h with h | h
  · rw [h, List.take_zero]
  · rw [List.isEmpty_iff.1 h, List.flatten_replicate_nil, List.take_nil]

/-- The text of a value and its padding reach the width that is asked for, unless the text is longer
than that. -/
theorem length_padding_append (hfill : filling args ≠ []) (value : Value) :
    ((padding args value ++ value.display).length : ℤ) =
      max (value.display.length : ℤ) (intArgument (args.headD [])) := by
  rw [List.length_append, length_padding hfill, missing]
  omega

theorem missing_padded (hfill : filling args ≠ []) (value : Value) :
    missing args (.text (padding args value ++ value.display)) = 0 := by
  rw [missing, Value.display_text, length_padding_append hfill]
  omega

theorem padLeft_of_not_stops (h : ∀ e, ¬Stops type zone .padLeft args value e) :
    padLeft value.display (intArgument (args.headD [])) (filling args) =
      .ok (padding args value ++ value.display) := by
  have hfault : ∀ e,
      padLeft value.display (intArgument (args.headD [])) (filling args) ≠ .error e :=
    fun e he => h e (padLeft_eq_error_iff.1 he)
  rw [padLeft_eq] at hfault ⊢
  split_ifs at hfault ⊢ with hidle hcounted hheld
  · rw [padding_eq_nil hidle, List.nil_append]
  · exact absurd rfl (hfault _)
  · exact absurd rfl (hfault _)
  · rfl

theorem padLeft_of_missing_eq_zero (h : missing args value = 0 ∨ (filling args).isEmpty) :
    padLeft value.display (intArgument (args.headD [])) (filling args) = .ok value.display := by
  rw [padLeft_eq, if_pos h]

/-- A padded text is not padded again. -/
theorem padLeft_padded (args : List Text) (value : Value) :
    padLeft (padding args value ++ value.display) (intArgument (args.headD [])) (filling args) =
      .ok (padding args value ++ value.display) := by
  have hidle : missing args (.text (padding args value ++ value.display)) = 0 ∨
      (filling args).isEmpty := by
    by_cases hfill : filling args = []
    · exact .inr (List.isEmpty_iff.2 hfill)
    · exact .inl (missing_padded hfill value)
  exact padLeft_of_missing_eq_zero hidle

end padding

/-- The filter that fills texts fails exactly where the filling is too long to be counted or held.
Elsewhere it gives the text of the value, without a bound on the digits of a number, with something
before it. Unless the text that fills is empty, the whole is then as long as the width, or as the
text of the value if that is longer, and what stands before is the beginning of the filling text
repeated without end. The same filter leaves the outcome as it is. -/
theorem text_is_filled_to_width_unless_filling_is_too_long {type : DataType} {zone : Zone}
    (context : Context) (width : Text) (rest : List Text) (value : Value) :
    (∀ e, apply .padLeft context (width :: rest) value = .error e ↔
      Stops type zone .padLeft (width :: rest) value e) ∧
    ((∀ e, ¬Stops type zone .padLeft (width :: rest) value e) → ∃ added : Text,
      apply .padLeft context (width :: rest) value = .ok (.text (added ++ value.display)) ∧
      (∀ hfill : filling (width :: rest) ≠ [],
        ((added ++ value.display).length : ℤ) =
          max (value.display.length : ℤ) (intArgument width) ∧
        added = (Stream'.cycle (filling (width :: rest)) hfill).take added.length) ∧
      apply .padLeft context (width :: rest) (.text (added ++ value.display)) =
        .ok (.text (added ++ value.display))) := by
  have happly := apply_padLeft context (List.cons_ne_nil width rest)
  constructor
  · intro e
    rw [happly, Fault.map_eq_error_iff]
    exact padLeft_eq_error_iff
  · intro h
    refine ⟨padding (width :: rest) value, ?_, fun hfill => ⟨?_, ?_⟩, ?_⟩
    · rw [happly, padLeft_of_not_stops h, Except.map_ok]
    · exact length_padding_append hfill value
    · rw [length_padding hfill]
      exact padding_eq_take_cycle hfill value
    · rw [happly, Value.display_text, padLeft_padded, Except.map_ok]

/-- A negative number is filled up to the whole part of the width, by two repetitions and a half. -/
theorem negative_number_is_filled_to_width :
    (∀ e, ¬Stops .integer ⟨0, [], none⟩ .padLeft ["7.9", "ab"] (.ofInt (-5)) e) ∧
      apply .padLeft ⟨some .integer, "UTC"⟩ ["7.9", "ab"] (.ofInt (-5)) = .ok (.text "ababa-5") ∧
      "ababa".toList = (Stream'.cycle "ab".toList (by decide)).take 5 ∧
      apply .padLeft ⟨some .integer, "UTC"⟩ ["7.9", "ab"] (.text "ababa-5") =
        .ok (.text "ababa-5") := by
  have happly : apply .padLeft ⟨some .integer, "UTC"⟩ ["7.9", "ab"] (.ofInt (-5)) =
      .ok (.text "ababa-5") := by decide +kernel
  obtain ⟨hstops, hfilled⟩ := @text_is_filled_to_width_unless_filling_is_too_long .integer
    ⟨0, [], none⟩ ⟨some .integer, "UTC"⟩ "7.9" ["ab"] (.ofInt (-5))
  have hno : ∀ e, ¬Stops .integer ⟨0, [], none⟩ .padLeft ["7.9", "ab"] (.ofInt (-5)) e := by
    intro e he
    rw [← hstops, happly] at he
    cases he
  obtain ⟨added, hadded, hfill, hagain⟩ := hfilled hno
  have hdisplay : (Value.ofInt (-5)).display = "-5".toList := by decide +kernel
  have htext : added ++ "-5".toList = "ababa".toList ++ "-5".toList := by
    rw [happly, hdisplay] at hadded
    exact (Value.text.inj (Except.ok.inj hadded)).symm
  obtain rfl : added = "ababa".toList := List.append_cancel_right htext
  rw [hdisplay] at hagain
  exact ⟨hno, happly, (hfill (by decide)).2, hagain⟩

/-- A width beyond every length has no text, though three characters of it are asked for. -/
theorem unending_width_has_no_text :
    apply .padLeft ⟨some .string, "UTC"⟩ ["9223372036854775808"] (.text "a") =
        .error .paddingUncountable ∧
      applyAll ⟨some .string, "UTC"⟩
        [⟨"pad-left", ["9223372036854775808"]⟩, ⟨"slice", ["0", "3"]⟩] (.text "a") =
          .error .paddingUncountable := by
  constructor <;> decide +kernel

end Filter
end TypedTemplate
