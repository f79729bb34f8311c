import TypedTemplate.Instant.Temporal
import TypedTemplate.Proofs.WrittenLiterals

/-!
# Spelled offsets

The offset at the end of an instant is the letter Z in either case, or a sign with hours and
minutes, with a colon between them or without. All spellings of one offset are spelled out alike
before an instant is read, and a text without an offset is read as if it were in UTC. What is shown
of an instant depends on its time in UTC alone.
-/
namespace TypedTemplate

namespace Text

theorem head_of_trim_eq_self {t : Text} (h : t.trim = t) :
    ∀ c ∈ t.head?, TypedTemplate.isBlank c = false := by
  have hright : t.trim.length ≤ t.trimLeft.length := (List.rdropWhile_prefix _ _).length_le
  have hleft : t.trimLeft <:+ t := List.dropWhile_suffix _
  have hself : t.trimLeft = t := hleft.eq_of_length_le (by rw [h] at hright; exact hright)
  intro c hc
  cases t with
  | nil => cases hc
  | cons first rest =>
    simp only [trimLeft, List.dropWhile_eq_self_iff] at hself
    simp_all

theorem trim_append_of_isSolid {t u : Text} (ht : t.trim = t) (hu : u.IsSolid) :
    (t ++ u).trim = t ++ u := by
  have hhead := head_of_trim_eq_self ht
  obtain ⟨⟨c, hc, hblank⟩, ⟨d, hd, hblank'⟩⟩ := hu
  rw [Option.mem_def] at hc hd
  apply trim_eq_self
  · cases t with
    | nil => simpa [hc] using hblank
    | cons first rest => simpa using hhead
  · simpa [List.getLast?_append, hd] using hblank'

end Text

namespace Iso

/-- Hours and minutes behind a sign, two digits each. -/
structure Offset where
  sign : Char
  h₁ : Char
  h₂ : Char
  m₁ : Char
  m₂ : Char
  isSign : sign = '+' ∨ sign = '-'
  areDigits : ∀ c ∈ [h₁, h₂, m₁, m₂], isDecimal c = true

namespace Offset

def extended (o : Offset) : Text := [o.sign, o.h₁, o.h₂, ':', o.m₁, o.m₂]

def compact (o : Offset) : Text := [o.sign, o.h₁, o.h₂, o.m₁, o.m₂]

@[simp] theorem length_extended (o : Offset) : o.extended.length = 6 := rfl

@[simp] theorem length_compact (o : Offset) : o.compact.length = 5 := rfl

def utc : Offset := ⟨'+', '0', '0', '0', '0', .inl rfl, List.all_eq_true.1 rfl⟩

theorem utc_extended : utc.extended = "+00:00".toList := rfl

theorem ne_of_mem (o : Offset) {c d : Char} (hc : c ∈ [o.h₁, o.h₂, o.m₁, o.m₂])
    (hd : isDecimal d = false) : c ≠ d := by
  intro heq
  rw [← heq, o.areDigits c hc] at hd
  cases hd

theorem isSolid_of_ends (o : Offset) (between : Text) :
    Text.IsSolid (o.sign :: (between ++ [o.m₂])) where
  head := ⟨o.sign, rfl, by rcases o.isSign with h | h <;> rw [h] <;> decide⟩
  last := by
    rw [← List.cons_append, List.getLast?_concat]
    exact ⟨o.m₂, rfl, isBlank_of_isDecimal (o.areDigits _ (by simp))⟩

theorem isSolid_extended (o : Offset) : Text.IsSolid o.extended :=
  o.isSolid_of_ends [o.h₁, o.h₂, ':', o.m₁]

theorem isSolid_compact (o : Offset) : Text.IsSolid o.compact :=
  o.isSolid_of_ends [o.h₁, o.h₂, o.m₁]

end Offset

/-- Whether a text ends in the letter Z or in hours and minutes behind a sign. -/
def EndsInOffset (t : Text) : Prop :=
  ['Z'] <:+ t ∨ ['z'] <:+ t ∨ ∃ o : Offset, o.extended <:+ t ∨ o.compact <:+ t

theorem spellOffset_letter {c : Char} (h : c = 'Z' ∨ c = 'z') (t : Text) :
    spellOffset (t ++ [c]) = t ++ Offset.utc.extended := by
  rcases h with rfl | rfl <;> simp [spellOffset, Offset.utc_extended]

theorem spellOffset_extended (t : Text) (o : Offset) :
    spellOffset (t ++ o.extended) = t ++ o.extended := by
  have hupper : o.m₂ ≠ 'Z' := o.ne_of_mem (by simp) (by decide)
  have hlower : o.m₂ ≠ 'z' := o.ne_of_mem (by simp) (by decide)
  have hdigits := o.areDigits
  have hsign := o.isSign
  simp_all [spellOffset, Offset.extended]

theorem spellOffset_compact (t : Text) (o : Offset) :
    spellOffset (t ++ o.compact) = t ++ o.extended := by
  have hupper : o.m₂ ≠ 'Z' := o.ne_of_mem (by simp) (by decide)
  have hlower : o.m₂ ≠ 'z' := o.ne_of_mem (by simp) (by decide)
  have hcolon : o.h₂ ≠ ':' := o.ne_of_mem (by simp) (by decide)
  have hdigits := o.areDigits
  have hsign := o.isSign
  simp_all [spellOffset, Offset.compact, Offset.extended, List.take_append,
    List.take_of_length_le (Nat.le_add_right t.length 3)]

theorem spellOffset_of_not_endsInOffset {t : Text} (h : ¬EndsInOffset t) :
    spellOffset t = t ++ Offset.utc.extended := by
  simp only [EndsInOffset, not_or, not_exists] at h
  obtain ⟨hupper, hlower, hoffset⟩ := h
  have hreverse : ∀ {u : Text}, t.reverse = u → t = u.reverse := by
    intro u hu
    rw [← hu, List.reverse_reverse]
  unfold spellOffset
  split
  · rename_i rest hend
    apply absurd _ hupper
    simp [hreverse hend]
  · rename_i rest hend
    apply absurd _ hlower
    simp [hreverse hend]
  · rename_i m₂ m₁ h₂ h₁ sign rest _ _ hend
    split
    · rename_i hshape
      simp only [Bool.and_eq_true, Bool.or_eq_true, beq_iff_eq] at hshape
      have hdigits : ∀ c ∈ [h₁, h₂, m₁, m₂], isDecimal c = true := by simp_all
      apply absurd _ (hoffset ⟨sign, h₁, h₂, m₁, m₂, hshape.2, hdigits⟩).1
      exact ⟨rest.reverse, by simp [hreverse hend, Offset.extended]⟩
    · rfl
  · rename_i m₂ m₁ h₂ h₁ sign rest _ _ _ hend
    split
    · rename_i hshape
      simp only [Bool.and_eq_true, Bool.or_eq_true, beq_iff_eq] at hshape
      have hdigits : ∀ c ∈ [h₁, h₂, m₁, m₂], isDecimal c = true := by simp_all
      apply absurd _ (hoffset ⟨sign, h₁, h₂, m₁, m₂, hshape.2, hdigits⟩).2
      exact ⟨rest.reverse, by simp [hreverse hend, Offset.compact]⟩
    · rfl
  · rfl

/-- A text that ends in an offset is not spelled out by another one behind it. -/
theorem endsInOffset_iff {t : Text} :
    EndsInOffset t ↔ spellOffset t ≠ t ++ Offset.utc.extended := by
  have hlength : ∀ {u : Text}, u.length < t.length + 6 → u ≠ t ++ Offset.utc.extended := by
    intro u hu heq
    simp [heq] at hu
  constructor
  · rintro (⟨before, rfl⟩ | ⟨before, rfl⟩ | ⟨o, ⟨before, rfl⟩ | ⟨before, rfl⟩⟩) <;> apply hlength
    · simp [spellOffset_letter]
    · simp [spellOffset_letter]
    · simp [spellOffset_extended]
    · simp [spellOffset_compact]
  · contrapose!
    exact spellOffset_of_not_endsInOffset

instance (t : Text) : Decidable (EndsInOffset t) := decidable_of_iff _ endsInOffset_iff.symm

example : EndsInOffset "2026-02-23T10:00:00+0900" := by decide
example : ¬EndsInOffset "2026-02-23T10:00:00" := by decide

theorem read?_letter {t : Text} (ht : t.trim = t) {c : Char} (h : c = 'Z' ∨ c = 'z') :
    read? (t ++ [c]) = readSpelled? (t ++ Offset.utc.extended) := by
  have hblank : isBlank c = false := by rcases h with rfl | rfl <;> decide
  rw [read?, Text.trim_append_of_isSolid ht (.char hblank), spellOffset_letter h]

theorem read?_extended {t : Text} (ht : t.trim = t) (o : Offset) :
    read? (t ++ o.extended) = readSpelled? (t ++ o.extended) := by
  rw [read?, Text.trim_append_of_isSolid ht o.isSolid_extended, spellOffset_extended]

theorem read?_compact {t : Text} (ht : t.trim = t) (o : Offset) :
    read? (t ++ o.compact) = readSpelled? (t ++ o.extended) := by
  rw [read?, Text.trim_append_of_isSolid ht o.isSolid_compact, spellOffset_compact]

theorem read?_of_not_endsInOffset {t : Text} (ht : t.trim = t) (h : ¬EndsInOffset t) :
    read? t = readSpelled? (t ++ Offset.utc.extended) := by
  rw [read?, ht, spellOffset_of_not_endsInOffset h]

end Iso

/-- The clocks of a zone show the time of an instant in UTC, in whichever offset it is stated. -/
theorem Zone.moment_congr (zone : Zone) {i j : Instant}
    (h : i.utcMicroseconds = j.utcMicroseconds) : zone.moment i = zone.moment j := by
  simp only [Zone.moment, Instant.utcSeconds, Instant.utcMicrosecond, h]

theorem Temporal.format_text (t : Text) (type : Option DataType) (pattern zone : Text) :
    format (.text t) type pattern zone =
      (fun f : Option Fields => f.elim t (·.fill pattern)) <$> fields? type zone t := by
  unfold format
  dsimp only [Value.display]
  cases fields? type zone t with
  | error e => rfl
  | ok f => cases f <;> rfl

theorem Temporal.format_of_read? {t : Text} {i : Instant} (h : Iso.read? t = some i)
    (pattern zone : Text) :
    format (.text t) (some .datetime) pattern zone =
      (do let z ← ZoneName.find zone
          let m ← z.moment i
          return (ofMoment m).fill pattern) := by
  have hfields : fields? (some .datetime) zone t =
      (do let z ← ZoneName.find zone
          let m ← z.moment i
          return some (ofMoment m)) := by simp only [fields?, h]
  rw [format_text, hfields, map_bind]
  simp only [map_bind, map_pure, Option.elim]

/-- A text without blanks at its ends and without an offset is read as it is read with the letter Z
in either case behind it, and with the offset of zero hours in either form; with every other offset
behind it, both forms are read alike. Two texts that are read as one instant, whatever their
offsets, are shown alike in every pattern and zone. -/
theorem instants_do_not_depend_on_spelling_of_offset :
    (∀ t : Text, t.trim = t → ¬Iso.EndsInOffset t →
      (∀ spelled ∈ (["Z", "z", "+00:00", "+0000"] : List Text),
        Iso.read? (t ++ spelled) = Iso.read? t) ∧
      ∀ o : Iso.Offset, Iso.read? (t ++ o.extended) = Iso.read? (t ++ o.compact)) ∧
    ∀ (s t : Text) (i j : Instant), Iso.read? s = some i → Iso.read? t = some j →
      i.utcMicroseconds = j.utcMicroseconds → ∀ pattern zone,
        Temporal.format (.text s) (some .datetime) pattern zone =
          Temporal.format (.text t) (some .datetime) pattern zone := by
  constructor
  · intro t ht hend
    constructor
    · intro spelled hspelled
      rw [Iso.read?_of_not_endsInOffset ht hend]
      simp only [List.mem_cons, List.not_mem_nil, or_false] at hspelled
      rcases hspelled with rfl | rfl | rfl | rfl
      · exact Iso.read?_letter ht (.inl rfl)
      · exact Iso.read?_letter ht (.inr rfl)
      · exact Iso.read?_extended ht .utc
      · exact Iso.read?_compact ht .utc
    · intro o
      rw [Iso.read?_extended ht, Iso.read?_compact ht]
  · intro s t i j hs ht h pattern zone
    have hmoment : ∀ z : Zone, z.moment i = z.moment j := fun z => z.moment_congr h
    rw [Temporal.format_of_read? hs, Temporal.format_of_read? ht]
    simp only [hmoment]

/-- Ten o'clock in UTC is read alike in all its spellings, and shown as it is from the clock of
Tokyo. -/
theorem ten_o_clock_does_not_depend_on_spelling_of_offset :
    (∀ spelled ∈ (["Z", "z", "+00:00", "+0000"] : List Text),
      Iso.read? ("2026-02-23T10:00:00" ++ spelled) = Iso.read? "2026-02-23T10:00:00") ∧
    (∀ o : Iso.Offset, Iso.read? ("2026-02-23T10:00:00" ++ o.extended) =
      Iso.read? ("2026-02-23T10:00:00" ++ o.compact)) ∧
    ∀ pattern zone, Temporal.format (.text "2026-02-23T10:00:00z") (some .datetime) pattern zone =
      Temporal.format (.text "2026-02-23T19:00:00+0900") (some .datetime) pattern zone := by
  have hspelled := instants_do_not_depend_on_spelling_of_offset.1 "2026-02-23T10:00:00"
    (by decide) (by decide)
  refine ⟨hspelled.1, hspelled.2, ?_⟩
  exact instants_do_not_depend_on_spelling_of_offset.2 _ _
    ⟨⟨2026, 2, 23, 10, 0, 0, 0⟩, 0⟩ ⟨⟨2026, 2, 23, 19, 0, 0, 0⟩, 32400000000⟩
    (by decide +kernel) (by decide +kernel) (by decide +kernel)

end TypedTemplate
