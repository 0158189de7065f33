import SessionBroker.Table

/-!
# Rows of tables

A table in which no key stands twice is determined by its look-ups: the rows are exactly what `get?` finds.
`put` and `erase` keep it so.
-/

namespace SessionBroker.Table

variable {κ α : Type}

theorem KeysNodup.filter {t : Table κ α} (h : t.KeysNodup) (p : κ × α → Bool) :
    KeysNodup (t.filter p) :=
  h.sublist (List.filter_sublist.map Prod.fst)

variable [DecidableEq κ]

theorem keys_put (key : κ) (value : α) (t : Table κ α) :
    keys (put key value t) = if key ∈ keys t then keys t else keys t ++ [key] := by
  induction t with
  | nil => simp [put, keys]
  | cons row rest ih =>
    obtain ⟨k, v⟩ := row
    by_cases hk : k = key
    · subst hk
      simp [put, keys]
    · unfold keys at ih ⊢
      simp only [put, if_neg hk, List.map_cons, ih, List.mem_cons, Ne.symm hk, false_or]
      split <;> rfl

theorem isSome_get?_iff {t : Table κ α} {key : κ} : (get? key t).isSome ↔ key ∈ keys t := by
  induction t with
  | nil => simp [get?, keys]
  | cons row rest ih =>
    obtain ⟨k, v⟩ := row
    by_cases hk : k = key
    · simp [get?, keys, hk]
    · simpa [get?, keys, hk, Ne.symm hk] using ih

theorem KeysNodup.put {t : Table κ α} (h : t.KeysNodup) (key : κ) (value : α) :
    KeysNodup (Table.put key value t) := by
  unfold KeysNodup at h ⊢
  rw [keys_put]
  split
  · exact h
  · next hk => simpa [List.nodup_append] using ⟨h, fun k hm hkey => hk (hkey ▸ hm)⟩

/-- Of two values put under a key the second stays. -/
theorem put_put (key : κ) (old value : α) (t : Table κ α) : put key value (put key old t) = put key value t := by
  induction t with
  | nil => simp [put]
  | cons row rest ih =>
    obtain ⟨k, v⟩ := row
    by_cases hk : k = key
    · simp [put, hk]
    · simp [put, hk, ih]

/-- A value that is there already may be put again. -/
theorem put_of_get? {t : Table κ α} {key : κ} {value : α} (h : get? key t = some value) :
    put key value t = t := by
  induction t with
  | nil => cases h
  | cons row rest ih =>
    obtain ⟨k, v⟩ := row
    by_cases hk : k = key
    · subst hk
      simp only [get?, if_pos, Option.some.injEq] at h
      simp [put, h]
    · simp only [get?, if_neg hk] at h
      simp [put, hk, ih h]

theorem mem_of_get? {t : Table κ α} {key : κ} {value : α} (h : get? key t = some value) :
    (key, value) ∈ t := by
  induction t with
  | nil => cases h
  | cons row rest ih =>
    obtain ⟨k, v⟩ := row
    by_cases hk : k = key
    · subst hk
      simp only [get?, if_pos] at h
      cases h
      exact List.mem_cons_self
    · simp only [get?, if_neg hk] at h
      exact List.mem_cons_of_mem _ (ih h)

theorem get?_of_mem {t : Table κ α} (h : t.KeysNodup) {key : κ} {value : α} (hm : (key, value) ∈ t) :
    get? key t = some value := by
  induction t with
  | nil => cases hm
  | cons row rest ih =>
    obtain ⟨k, v⟩ := row
    obtain ⟨hk, hrest⟩ := List.nodup_cons.mp h
    rcases List.mem_cons.mp hm with hm | hm
    · cases hm
      simp [get?]
    · have hne : k ≠ key := by
        intro e
        subst e
        exact hk (List.mem_map.mpr ⟨(k, value), hm, rfl⟩)
      simpa [get?, hne] using ih hrest hm

theorem mem_put {t : Table κ α} {key : κ} {value : α} {row : κ × α} (h : row ∈ put key value t) :
    row = (key, value) ∨ row ∈ t := by
  induction t with
  | nil => exact .inl (List.mem_singleton.mp h)
  | cons row' rest ih =>
    obtain ⟨k, v⟩ := row'
    by_cases hk : k = key
    · simp only [put, if_pos hk, List.mem_cons] at h
      exact h.imp id (List.mem_cons_of_mem _)
    · simp only [put, if_neg hk, List.mem_cons] at h
      rcases h with rfl | h
      · exact .inr List.mem_cons_self
      · exact (ih h).imp id (List.mem_cons_of_mem _)

/-- A key that is new comes last. -/
theorem put_of_get?_none {t : Table κ α} {key : κ} (h : get? key t = none) (value : α) :
    put key value t = t ++ [(key, value)] := by
  induction t with
  | nil => rfl
  | cons row rest ih =>
    obtain ⟨k, v⟩ := row
    by_cases hk : k = key
    · simp [get?, hk] at h
    · simp only [get?, if_neg hk] at h
      simp [put, hk, ih h]

/-- A value may be replaced by one that looks the same. -/
theorem map_values_put {β : Type} {t : Table κ α} {key : κ} {old value : α} {f : α → β}
    (h : get? key t = some old) (hf : f value = f old) : (put key value t).values.map f = t.values.map f := by
  induction t with
  | nil => cases h
  | cons row rest ih =>
    obtain ⟨k, v⟩ := row
    by_cases hk : k = key
    · simp only [get?, if_pos hk, Option.some.injEq] at h
      simp [put, values, hk, hf, h]
    · simp only [get?, if_neg hk] at h
      simpa [put, values, hk] using ih h

theorem KeysNodup.erase {t : Table κ α} (h : t.KeysNodup) (key : κ) : KeysNodup (Table.erase key t) :=
  h.filter _

theorem get?_filter {t : Table κ α} (h : t.KeysNodup) (p : κ × α → Bool) (key : κ) :
    get? key (t.filter p) = (get? key t).filter fun value => p (key, value) := by
  induction t with
  | nil => rfl
  | cons row rest ih =>
    obtain ⟨k, v⟩ := row
    obtain ⟨hk, hrest⟩ := List.nodup_cons.mp h
    by_cases hkey : k = key
    · subst hkey
      have hnone : get? k (rest.filter p) = none := by
        cases hg : get? k (rest.filter p) with
        | none => rfl
        | some value =>
          have hm : (k, value) ∈ rest := (List.mem_filter.mp (mem_of_get? hg)).1
          exact absurd (List.mem_map.mpr ⟨_, hm, rfl⟩) hk
      cases hp : p (k, v) <;> simp [get?, Option.filter, hp, hnone]
    · cases hp : p (k, v) <;> simp [get?, hp, hkey, ih hrest]

end SessionBroker.Table
