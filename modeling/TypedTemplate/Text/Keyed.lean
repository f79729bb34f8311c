import TypedTemplate.Text.Basic

/-!
# Keyed lists

A list of keys with values, in the order in which the keys were first set. Setting
a key that is present replaces its value and keeps its place.
-/
namespace TypedTemplate

abbrev Keyed (α : Type) := List (Text × α)

namespace Keyed

variable {α : Type}

def get? (key : Text) : Keyed α → Option α
  | [] => none
  | (k, v) :: rest => if k = key then some v else get? key rest

/-- Whether a key is present. -/
def has (key : Text) (l : Keyed α) : Bool := (get? key l).isSome

/-- Sets the value at a key, at the end when the key is new. -/
def set (key : Text) (value : α) : Keyed α → Keyed α
  | [] => [(key, value)]
  | (k, v) :: rest => if k = key then (k, value) :: rest else (k, v) :: set key value rest

/-- Sets every key of the second list, from left to right. -/
def setAll (l : Keyed α) (more : Keyed α) : Keyed α :=
  more.foldl (fun acc entry => acc.set entry.1 entry.2) l

/-- A keyed list from entries that may repeat keys; later values win. -/
def ofEntries (entries : List (Text × α)) : Keyed α := setAll [] entries

def keys (l : Keyed α) : List Text := l.map (·.1)

@[simp] theorem get?_nil (key : Text) : get? key ([] : Keyed α) = none := rfl

theorem get?_set_self (key : Text) (value : α) (l : Keyed α) :
    get? key (set key value l) = some value := by
  induction l with
  | nil => simp [set, get?]
  | cons entry rest ih =>
    obtain ⟨k, v⟩ := entry
    by_cases h : k = key <;> simp [set, get?, h, ih]

theorem get?_set_ne {key other : Text} (value : α) (l : Keyed α) (h : other ≠ key) :
    get? other (set key value l) = get? other l := by
  induction l with
  | nil => simp [set, get?, Ne.symm h]
  | cons entry rest ih =>
    obtain ⟨k, v⟩ := entry
    by_cases hk : k = key
    · subst hk
      simp [set, get?, Ne.symm h]
    · by_cases ho : k = other <;> simp [set, get?, hk, ho, h, ih]

/-- Setting a key keeps the other keys in place and adds the key once. -/
theorem keys_set (key : Text) (value : α) (l : Keyed α) :
    keys (set key value l) = if key ∈ keys l then keys l else keys l ++ [key] := by
  induction l with
  | nil => simp [set, keys]
  | cons entry rest ih =>
    obtain ⟨k, v⟩ := entry
    by_cases h : k = key
    · simp [set, keys, h]
    · have h' : key ≠ k := Ne.symm h
      simp only [keys] at ih
      by_cases hm : key ∈ rest.map (·.1) <;> simp_all [set, keys]

theorem nodup_keys_set {l : Keyed α} (h : (keys l).Nodup) (key : Text) (value : α) :
    (keys (set key value l)).Nodup := by
  rw [keys_set]
  split
  · exact h
  · rename_i hm
    refine List.nodup_append.2 ⟨h, by simp, ?_⟩
    intro a ha b hb hab
    rw [List.mem_singleton.1 hb] at hab
    exact hm (hab ▸ ha)

theorem nodup_keys_setAll {l : Keyed α} (h : (keys l).Nodup) (more : Keyed α) :
    (keys (setAll l more)).Nodup := by
  unfold setAll
  induction more generalizing l with
  | nil => exact h
  | cons entry rest ih => exact ih (nodup_keys_set h entry.1 entry.2)

theorem nodup_keys_ofEntries (entries : List (Text × α)) : (keys (ofEntries entries)).Nodup :=
  nodup_keys_setAll (by simp [keys]) entries

end Keyed
end TypedTemplate
