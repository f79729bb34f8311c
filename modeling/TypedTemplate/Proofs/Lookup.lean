import TypedTemplate.Text.Keyed

/-!
# Lookup in keyed lists

What a keyed list holds at a key after several keys have been set, and how a lookup relates
to membership when every key occurs once.
-/
namespace TypedTemplate.Keyed

variable {α : Type}

theorem get?_set (key other : Text) (value : α) (l : Keyed α) :
    get? other (set key value l) = if other = key then some value else get? other l := by
  split
  · rename_i h
    rw [h, get?_set_self]
  · rename_i h
    exact get?_set_ne value l h

theorem get?_eq_none_iff {key : Text} {l : Keyed α} : get? key l = none ↔ key ∉ keys l := by
  induction l with
  | nil => simp [keys]
  | cons entry rest ih =>
    obtain ⟨k, v⟩ := entry
    by_cases h : k = key
    · simp [get?, keys, h]
    · simpa [get?, keys, h, Ne.symm h] using ih

theorem mem_of_get? {key : Text} {value : α} {l : Keyed α} (h : get? key l = some value) :
    (key, value) ∈ l := by
  induction l with
  | nil => simp at h
  | cons entry rest ih =>
    obtain ⟨k, v⟩ := entry
    unfold get? at h
    split at h
    · rename_i hk
      simp only [Option.some.injEq] at h
      simp [hk, h]
    · exact List.mem_cons_of_mem _ (ih h)

theorem get?_of_mem {key : Text} {value : α} {l : Keyed α} (hl : (keys l).Nodup)
    (h : (key, value) ∈ l) : get? key l = some value := by
  induction l with
  | nil => simp at h
  | cons entry rest ih =>
    obtain ⟨k, v⟩ := entry
    simp only [keys, List.map_cons, List.nodup_cons] at hl
    rcases List.mem_cons.1 h with he | he
    · simp only [Prod.mk.injEq] at he
      simp [get?, he]
    · have hk : k ≠ key := fun e => hl.1 (e ▸ List.mem_map.2 ⟨_, he, rfl⟩)
      simp only [get?, hk, if_false]
      exact ih hl.2 he

theorem get?_eq_some_iff {key : Text} {value : α} {l : Keyed α} (hl : (keys l).Nodup) :
    get? key l = some value ↔ (key, value) ∈ l :=
  ⟨mem_of_get?, get?_of_mem hl⟩

theorem forall_get?_iff {l : Keyed α} (hl : (keys l).Nodup) {P : Text → α → Prop} :
    (∀ key value, get? key l = some value → P key value) ↔ ∀ e ∈ l, P e.1 e.2 :=
  ⟨fun h e he => h e.1 e.2 (get?_of_mem hl he), fun h _ _ hg => h _ (mem_of_get? hg)⟩

theorem mem_keys_set {key name : Text} {value : α} {l : Keyed α} :
    name ∈ keys (set key value l) ↔ name = key ∨ name ∈ keys l := by
  rw [keys_set]
  split
  · rename_i h
    constructor
    · exact .inr
    · rintro (rfl | hn)
      · exact h
      · exact hn
  · rw [List.mem_append, List.mem_singleton, or_comm]

theorem eq_or_mem_of_mem_set {key name : Text} {value other : α} {l : Keyed α}
    (h : (name, other) ∈ set key value l) : (name, other) = (key, value) ∨ (name, other) ∈ l := by
  induction l with
  | nil => exact .inl (List.mem_singleton.1 h)
  | cons entry rest ih =>
    obtain ⟨k, v⟩ := entry
    unfold set at h
    split at h
    · rename_i hk
      rcases List.mem_cons.1 h with h | h
      · exact .inl (hk ▸ h)
      · exact .inr (List.mem_cons_of_mem _ h)
    · rcases List.mem_cons.1 h with h | h
      · exact .inr (h ▸ List.mem_cons_self)
      · exact (ih h).imp_right (List.mem_cons_of_mem _)

theorem mem_or_mem_of_mem_setAll {name : Text} {value : α} {l more : Keyed α}
    (h : (name, value) ∈ setAll l more) : (name, value) ∈ more ∨ (name, value) ∈ l := by
  unfold setAll at h
  induction more generalizing l with
  | nil => exact .inr h
  | cons entry rest ih =>
    rcases ih h with h | h
    · exact .inl (List.mem_cons_of_mem _ h)
    · rcases eq_or_mem_of_mem_set h with h | h
      · exact .inl (h ▸ List.mem_cons_self)
      · exact .inr h

theorem get?_perm {l l' : Keyed α} (hl : (keys l).Nodup) (h : l.Perm l') (key : Text) :
    get? key l' = get? key l := by
  have hl' : (keys l').Nodup := (h.map Prod.fst).nodup_iff.1 hl
  ext value
  rw [get?_eq_some_iff hl, get?_eq_some_iff hl', h.mem_iff]

theorem get?_setAll {more : Keyed α} (hm : (keys more).Nodup) (l : Keyed α) (key : Text) :
    get? key (setAll l more) = (get? key more).or (get? key l) := by
  unfold setAll
  induction more generalizing l with
  | nil => simp
  | cons entry rest ih =>
    obtain ⟨k, v⟩ := entry
    simp only [keys, List.map_cons, List.nodup_cons] at hm
    rw [List.foldl_cons, ih hm.2, get?_set]
    by_cases h : key = k
    · have hn : get? key rest = none := get?_eq_none_iff.2 (h ▸ hm.1)
      simp [get?, h, h ▸ hn]
    · simp [get?, h, Ne.symm h]

theorem nodup_of_nodup_keys {l : Keyed α} (hl : (keys l).Nodup) : l.Nodup :=
  List.Pairwise.of_map Prod.fst (fun _ _ hne he => hne (congrArg Prod.fst he)) hl

theorem perm_of_get? {l more : Keyed α} (hl : (keys l).Nodup) (hm : (keys more).Nodup)
    (h : ∀ key, get? key l = get? key more) : l.Perm more := by
  rw [List.perm_ext_iff_of_nodup (nodup_of_nodup_keys hl) (nodup_of_nodup_keys hm)]
  intro entry
  rw [← get?_eq_some_iff hl, ← get?_eq_some_iff hm, h]

theorem eq_of_get? {l more : Keyed α} (hl : (keys more).Nodup) (hk : keys l = keys more)
    (h : ∀ key, get? key l = get? key more) : l = more := by
  induction l generalizing more with
  | nil =>
    cases more with
    | nil => rfl
    | cons entry rest => cases hk
  | cons entry rest ih =>
    cases more with
    | nil => cases hk
    | cons other others =>
      obtain ⟨key, value⟩ := entry
      obtain ⟨name, held⟩ := other
      obtain ⟨hkey, hkeys⟩ := List.cons.inj hk
      obtain rfl : key = name := hkey
      obtain ⟨hnot, hnodup⟩ := List.nodup_cons.1 hl
      have hvalue := h key
      simp only [get?, if_true, Option.some.injEq] at hvalue
      have hrest : rest = others := by
        refine ih hnodup hkeys fun k => ?_
        by_cases hk' : key = k
        · rw [← hk', get?_eq_none_iff.2 hnot, get?_eq_none_iff]
          exact fun hm => hnot (hkeys ▸ hm)
        · simpa [get?, hk'] using h k
      rw [hvalue, hrest]

theorem get?_append (key : Text) (l more : Keyed α) :
    get? key (l ++ more) = (get? key l).or (get? key more) := by
  induction l with
  | nil => rfl
  | cons entry rest ih =>
    obtain ⟨k, v⟩ := entry
    by_cases h : k = key
    · simp [get?, h]
    · simp [get?, h, ih]

theorem get?_setAll_reverse (l more : Keyed α) (key : Text) :
    get? key (setAll l more) = (get? key more.reverse).or (get? key l) := by
  unfold setAll
  induction more generalizing l with
  | nil => simp
  | cons entry rest ih =>
    obtain ⟨k, v⟩ := entry
    rw [List.foldl_cons, ih, get?_set, List.reverse_cons, get?_append, Option.or_assoc]
    by_cases h : key = k
    · simp [get?, h]
    · simp [get?, h, Ne.symm h]

theorem mem_keys_setAll {key : Text} {l more : Keyed α} :
    key ∈ keys (setAll l more) ↔ key ∈ keys more ∨ key ∈ keys l := by
  unfold setAll
  induction more generalizing l with
  | nil => simp [keys]
  | cons entry rest ih =>
    have hkeys : keys (entry :: rest) = entry.1 :: keys rest := rfl
    rw [List.foldl_cons, ih, mem_keys_set, hkeys, List.mem_cons]
    constructor
    · rintro (h | h | h)
      · exact .inl (.inr h)
      · exact .inl (.inl h)
      · exact .inr h
    · rintro ((h | h) | h)
      · exact .inr (.inl h)
      · exact .inl h
      · exact .inr (.inr h)

theorem keys_setAll_of_subset {l more : Keyed α} (h : keys more ⊆ keys l) :
    keys (setAll l more) = keys l := by
  unfold setAll
  induction more generalizing l with
  | nil => rfl
  | cons entry rest ih =>
    obtain ⟨hentry, hrest⟩ := List.cons_subset.1 h
    have hkeys : keys (set entry.1 entry.2 l) = keys l := by rw [keys_set, if_pos hentry]
    have hstill : keys rest ⊆ keys (set entry.1 entry.2 l) := by rwa [hkeys]
    rw [List.foldl_cons, ih hstill, hkeys]

theorem setAll_setAll {l : Keyed α} (hl : (keys l).Nodup) (more : Keyed α) :
    setAll (setAll l more) more = setAll l more := by
  refine eq_of_get? (nodup_keys_setAll hl more) (keys_setAll_of_subset fun key hk => ?_) ?_
  · exact mem_keys_setAll.2 (.inl hk)
  · intro key
    rw [get?_setAll_reverse, get?_setAll_reverse, ← Option.or_assoc, Option.or_self]

theorem setAll_self {l : Keyed α} (hl : (keys l).Nodup) : setAll l l = l := by
  refine eq_of_get? hl (keys_setAll_of_subset (List.Subset.refl _)) fun key => ?_
  rw [get?_setAll hl, Option.or_self]

theorem set_of_not_mem {key : Text} {l : Keyed α} (h : key ∉ keys l) (value : α) :
    set key value l = l ++ [(key, value)] := by
  induction l with
  | nil => rfl
  | cons entry rest ih =>
    rw [keys, List.map_cons, List.mem_cons, not_or] at h
    rw [set, if_neg (Ne.symm h.1), ih h.2]
    rfl

theorem setAll_of_nodup {l more : Keyed α} (h : (keys (l ++ more)).Nodup) :
    setAll l more = l ++ more := by
  induction more generalizing l with
  | nil => exact (List.append_nil l).symm
  | cons entry rest ih =>
    have hnew : entry.1 ∉ keys l := by
      rw [keys, List.map_append, List.nodup_append] at h
      exact fun hm => h.2.2 entry.1 hm entry.1 List.mem_cons_self rfl
    have hstep : setAll l (entry :: rest) = setAll (l ++ [entry]) rest :=
      congrArg (setAll · rest) (set_of_not_mem hnew entry.2)
    rw [hstep, ih (by rwa [List.append_assoc]), List.append_assoc]
    rfl

theorem get?_filter (p : Text → Bool) (key : Text) (l : Keyed α) :
    get? key (l.filter fun e => p e.1) = if p key then get? key l else none := by
  induction l with
  | nil => simp
  | cons entry rest ih =>
    obtain ⟨k, v⟩ := entry
    by_cases hk : k = key
    · by_cases hp : p key <;> simp [get?, hk, hp, ih]
    · by_cases hp : p k <;> simp [get?, hk, hp, ih]

theorem filter_set {p : Text → Bool} {key : Text} (h : p key = false) (value : α) (l : Keyed α) :
    (set key value l).filter (fun e => p e.1) = l.filter fun e => p e.1 := by
  induction l with
  | nil => simp [set, h]
  | cons entry rest ih =>
    obtain ⟨k, v⟩ := entry
    by_cases hk : k = key
    · simp [set, hk, h]
    · by_cases hp : p k <;> simp [set, hk, hp, ih]

theorem get?_map {β : Type} (f : Text → α → β) (key : Text) (l : Keyed α) :
    get? key (l.map fun e => (e.1, f e.1 e.2)) = (get? key l).map (f key) := by
  induction l with
  | nil => rfl
  | cons entry rest ih =>
    obtain ⟨k, v⟩ := entry
    by_cases h : k = key
    · simp [get?, h]
    · simp [get?, h, ih]

theorem keys_map {β : Type} (f : Text → α → β) (l : Keyed α) :
    keys (l.map fun e => (e.1, f e.1 e.2)) = keys l := by
  rw [keys, List.map_map]
  rfl

theorem perm_map_of_get? {β : Type} {f g : Text → α → β} {l more : Keyed α}
    (hl : (keys l).Nodup) (hm : (keys more).Nodup)
    (h : ∀ key, (get? key l).map (f key) = (get? key more).map (g key)) :
    (l.map fun e => (e.1, f e.1 e.2)).Perm (more.map fun e => (e.1, g e.1 e.2)) := by
  apply perm_of_get?
  · rwa [keys_map]
  · rwa [keys_map]
  · intro key
    rw [get?_map, get?_map, h]

end TypedTemplate.Keyed
