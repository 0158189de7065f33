/-!
# Tables

A table holds one value for each key, in the order in which the keys first came. Writing to a key that
is present replaces its value in place.
-/

namespace SessionBroker

/-- Rows of a key and its value. -/
abbrev Table (κ α : Type) := List (κ × α)

namespace Table

variable {κ α : Type} [DecidableEq κ]

def get? (key : κ) : Table κ α → Option α
  | [] => none
  | (k, v) :: rest => if k = key then some v else get? key rest

def put (key : κ) (value : α) : Table κ α → Table κ α
  | [] => [(key, value)]
  | (k, v) :: rest => if k = key then (key, value) :: rest else (k, v) :: put key value rest

def erase (key : κ) (t : Table κ α) : Table κ α := t.filter (fun row => row.1 ≠ key)

def keys (t : Table κ α) : List κ := t.map Prod.fst

def values (t : Table κ α) : List α := t.map Prod.snd

/-- No key stands twice. -/
def KeysNodup (t : Table κ α) : Prop := t.keys.Nodup

theorem get?_put (key k : κ) (value : α) (t : Table κ α) :
    get? k (put key value t) = if key = k then some value else get? k t := by
  induction t with
  | nil => simp [put, get?]
  | cons row rest ih =>
    obtain ⟨k', v'⟩ := row
    by_cases hk : k' = key
    · subst hk
      by_cases h : k' = k <;> simp [put, get?, h]
    · by_cases h : k' = k
      · subst h
        simp [put, get?, hk, Ne.symm hk]
      · simp [put, get?, hk, h, ih]

theorem get?_erase (key k : κ) (t : Table κ α) :
    get? k (erase key t) = if key = k then none else get? k t := by
  induction t with
  | nil => simp [erase, get?]
  | cons row rest ih =>
    obtain ⟨k', v'⟩ := row
    unfold erase at ih ⊢
    by_cases hk : k' = key
    · subst hk
      by_cases h : k' = k
      · subst h
        simpa using ih
      · simpa [get?, h] using ih
    · by_cases h : k' = k
      · subst h
        simp [get?, hk, Ne.symm hk]
      · simpa [get?, hk, h] using ih

end Table

end SessionBroker
