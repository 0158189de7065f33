/-!
# Dictionaries with text keys

A dictionary lists its entries in increasing order of the keys, each key once. `insert` keeps that
order and replaces the value of a key that is present, so two dictionaries with the same look-ups
have the same list.
-/

namespace SessionBroker

/-- Entries in key order. -/
abbrev Dict (α : Type) := List (String × α)

namespace Dict

variable {α : Type}

def find? (key : String) : Dict α → Option α
  | [] => none
  | (k, v) :: rest => if k = key then some v else find? key rest

def insert (key : String) (value : α) : Dict α → Dict α
  | [] => [(key, value)]
  | (k, v) :: rest =>
    if key < k then (key, value) :: (k, v) :: rest
    else if key = k then (key, value) :: rest
    else (k, v) :: insert key value rest

/-- The dictionary of a list of entries; of two entries with one key the later counts. -/
def ofList (entries : List (String × α)) : Dict α :=
  entries.foldl (fun d (k, v) => insert k v d) []

/-- The keys increase strictly. -/
def Ordered (d : Dict α) : Prop := d.Pairwise (fun a b => a.1 < b.1)

theorem find?_insert (key k : String) (value : α) (d : Dict α) :
    find? k (insert key value d) = if key = k then some value else find? k d := by
  induction d with
  | nil => simp [insert, find?]
  | cons e rest ih =>
    obtain ⟨k', v'⟩ := e
    by_cases hlt : key < k'
    · simp [insert, hlt, find?]
    · by_cases heq : key = k'
      · subst heq
        by_cases hk : key = k <;> simp [insert, find?, hk]
      · by_cases hk : k' = k
        · subst hk
          simp [insert, find?, hlt, heq]
        · simp [insert, find?, hlt, heq, hk, ih]

end Dict

end SessionBroker
