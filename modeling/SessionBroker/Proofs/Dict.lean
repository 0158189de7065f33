import SessionBroker.Dict

/-!
# Dictionaries as lists

Inserting keys in increasing order appends them, so a dictionary is made of its own entries again. In any order the
result is ordered, and where each key is inserted once, what is looked up in it is what was inserted.
-/

namespace SessionBroker.Dict

variable {α : Type}

theorem insert_last {key : String} {value : α} {d : Dict α} (h : ∀ e ∈ d, e.1 < key) :
    insert key value d = d ++ [(key, value)] := by
  induction d with
  | nil => rfl
  | cons e rest ih =>
    obtain ⟨k, v⟩ := e
    have hk : k < key := h _ List.mem_cons_self
    have hne : key ≠ k := fun heq => String.lt_irrefl k (heq ▸ hk)
    rw [insert, if_neg (String.lt_asymm hk), if_neg hne, ih fun e he => h e (List.mem_cons_of_mem _ he)]
    rfl

theorem foldl_insert_of_ordered {entries d : Dict α} (h : Ordered (d ++ entries)) :
    entries.foldl (fun d (k, v) => insert k v d) d = d ++ entries := by
  induction entries generalizing d with
  | nil => simp
  | cons e rest ih =>
    obtain ⟨k, v⟩ := e
    have hlast : ∀ a ∈ d, a.1 < k := fun a ha => (List.pairwise_append.mp h).2.2 a ha _ List.mem_cons_self
    change rest.foldl (fun d (k, v) => insert k v d) (insert k v d) = _
    rw [insert_last hlast, ih (by simpa using h)]
    simp

theorem ofList_of_ordered {d : Dict α} (h : Ordered d) : ofList d = d :=
  foldl_insert_of_ordered h

theorem mem_insert {key : String} {value : α} {e : String × α} {d : Dict α} (h : e ∈ insert key value d) :
    e = (key, value) ∨ e ∈ d := by
  induction d with
  | nil => exact .inl (List.mem_singleton.mp h)
  | cons first rest ih =>
    obtain ⟨k, v⟩ := first
    unfold insert at h
    split at h
    · exact List.mem_cons.mp h
    · split at h
      · exact (List.mem_cons.mp h).imp_right (List.mem_cons_of_mem _)
      · obtain rfl | hrest := List.mem_cons.mp h
        · exact .inr List.mem_cons_self
        · exact (ih hrest).imp_right (List.mem_cons_of_mem _)

theorem Ordered.insert {d : Dict α} (h : Ordered d) (key : String) (value : α) :
    Ordered (Dict.insert key value d) := by
  induction d with
  | nil => exact List.pairwise_singleton ..
  | cons first rest ih =>
    obtain ⟨k, v⟩ := first
    obtain ⟨hfirst, hrest⟩ := List.pairwise_cons.mp h
    unfold Dict.insert
    split
    · rename_i hlt
      refine List.pairwise_cons.mpr ⟨fun e he => ?_, h⟩
      obtain rfl | he := List.mem_cons.mp he
      · exact hlt
      · exact String.lt_trans hlt (hfirst e he)
    · rename_i hnot
      split
      · rename_i heq
        subst heq
        exact List.pairwise_cons.mpr ⟨hfirst, hrest⟩
      · rename_i hne
        refine List.pairwise_cons.mpr ⟨fun e he => ?_, ih hrest⟩
        obtain rfl | he := mem_insert he
        · exact String.not_le.mp fun hle => hne (String.le_antisymm hle (String.not_lt.mp hnot))
        · exact hfirst e he

theorem ordered_foldl_insert {d : Dict α} (h : Ordered d) (entries : List (String × α)) :
    Ordered (entries.foldl (fun d (k, v) => Dict.insert k v d) d) := by
  induction entries generalizing d with
  | nil => exact h
  | cons e rest ih => exact ih (h.insert e.1 e.2)

theorem ordered_ofList (entries : List (String × α)) : Ordered (ofList entries) :=
  ordered_foldl_insert List.Pairwise.nil entries

theorem mem_foldl_insert {e : String × α} {entries d : Dict α}
    (h : e ∈ entries.foldl (fun d (k, v) => insert k v d) d) : e ∈ entries ∨ e ∈ d := by
  induction entries generalizing d with
  | nil => exact .inr h
  | cons first rest ih =>
    obtain hrest | hd := ih h
    · exact .inl (List.mem_cons_of_mem _ hrest)
    · obtain rfl | hd := mem_insert hd
      · exact .inl List.mem_cons_self
      · exact .inr hd

theorem mem_ofList {e : String × α} {entries : List (String × α)} (h : e ∈ ofList entries) : e ∈ entries :=
  (mem_foldl_insert h).resolve_right List.not_mem_nil

/-- An entry of a dictionary is what is found under its key. -/
theorem Ordered.find?_of_mem {d : Dict α} (h : Ordered d) {key : String} {value : α} (hmem : (key, value) ∈ d) :
    find? key d = some value := by
  induction d with
  | nil => exact absurd hmem List.not_mem_nil
  | cons first rest ih =>
    obtain ⟨k, v⟩ := first
    obtain ⟨hfirst, hrest⟩ := List.pairwise_cons.mp h
    obtain heq | hmem := List.mem_cons.mp hmem
    · cases heq
      exact if_pos rfl
    · have hne : k ≠ key := fun heq => String.lt_irrefl k (heq ▸ hfirst _ hmem)
      exact (if_neg hne).trans (ih hrest hmem)

theorem find?_eq_none_of_not_mem {entries : List (String × α)} {key : String} (h : key ∉ entries.map Prod.fst) :
    find? key entries = none := by
  induction entries with
  | nil => rfl
  | cons first rest ih =>
    obtain ⟨k, v⟩ := first
    rw [List.map_cons, List.mem_cons, not_or] at h
    exact (if_neg (Ne.symm h.1)).trans (ih h.2)

theorem find?_foldl_insert {entries : List (String × α)} (h : (entries.map Prod.fst).Nodup) (d : Dict α)
    (key : String) : find? key (entries.foldl (fun d (k, v) => insert k v d) d) =
      (find? key entries).or (find? key d) := by
  induction entries generalizing d with
  | nil => rfl
  | cons first rest ih =>
    obtain ⟨k, v⟩ := first
    obtain ⟨hfirst, hrest⟩ := List.nodup_cons.mp h
    change find? key (rest.foldl _ (insert k v d)) = (find? key ((k, v) :: rest)).or _
    rw [ih hrest, find?_insert]
    by_cases hkey : k = key
    · subst hkey
      rw [find?_eq_none_of_not_mem hfirst, find?, if_pos rfl, if_pos rfl]
      rfl
    · rw [find?, if_neg hkey, if_neg hkey]

/-- Where each key is given once, it does not matter in which order. -/
theorem find?_ofList {entries : List (String × α)} (h : (entries.map Prod.fst).Nodup) (key : String) :
    find? key (ofList entries) = find? key entries := by
  rw [ofList, find?_foldl_insert h]
  exact Option.or_none

/-- Without one of its keys a dictionary has the other entries. -/
theorem find?_filter_ne (k key : String) (d : Dict α) :
    find? key (d.filter (·.1 ≠ k)) = if key = k then none else find? key d := by
  induction d with
  | nil => simp [find?]
  | cons first rest ih =>
    obtain ⟨l, v⟩ := first
    by_cases hl : l = k
    · subst hl
      rw [List.filter_cons_of_neg (by simp), ih, find?]
      by_cases hkey : key = l
      · rw [if_pos hkey, if_pos hkey]
      · rw [if_neg hkey, if_neg hkey, if_neg (Ne.symm hkey)]
    · rw [List.filter_cons_of_pos (by simpa using hl), find?, find?, ih]
      by_cases hkey : l = key
      · subst hkey
        rw [if_pos rfl, if_pos rfl, if_neg hl]
      · rw [if_neg hkey, if_neg hkey]

end SessionBroker.Dict
