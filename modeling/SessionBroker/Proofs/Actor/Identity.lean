import Mathlib.Data.List.Sort
import SessionBroker.Actor.Identity
import SessionBroker.Proofs.Dict
import SessionBroker.Proofs.Text.Case
import SessionBroker.Proofs.Text.Utf8

/-!
# Ids in both letter cases

Ids are collected as a list that increases strictly, so which list it is depends only on what it holds: each id in
upper and in lower case. For ASCII ids these cases are cases of each other, which makes the list a normal form. It
stands for the ids as a set, whatever the case of their letters, and it is its own normal form.
-/

namespace SessionBroker

variable {x id : String} {ids ids' : List String}

/-! ## What is collected -/

theorem mem_insertId : x ∈ insertId id ids ↔ x = id ∨ x ∈ ids := by
  induction ids with
  | nil => simp [insertId]
  | cons y rest ih =>
    unfold insertId
    split
    · exact List.mem_cons
    · split
      · next heq => simp [heq]
      · rw [List.mem_cons, ih, List.mem_cons]
        exact or_left_comm

theorem mem_foldl_insertId (ids found : List String) :
    x ∈ ids.foldl (fun found id => insertId (Case.lower id) (insertId (Case.upper id) found)) found ↔
      x ∈ found ∨ ∃ id ∈ ids, x = Case.upper id ∨ x = Case.lower id := by
  induction ids generalizing found with
  | nil => simp
  | cons id rest ih =>
    have hinsert : x ∈ insertId (Case.lower id) (insertId (Case.upper id) found) ↔
        x ∈ found ∨ x = Case.upper id ∨ x = Case.lower id := by
      rw [mem_insertId, mem_insertId, ← or_assoc, or_comm, or_comm (a := x = Case.lower id)]
    rw [List.foldl_cons, ih, hinsert, List.exists_mem_cons_iff, or_assoc]

theorem mem_foldCases : x ∈ foldCases ids ↔ ∃ id ∈ ids, x = Case.upper id ∨ x = Case.lower id := by
  unfold foldCases
  rw [mem_foldl_insertId]
  simp

/-! ## In which order -/

/-- Ids are inserted as keys are inserted into a dictionary. -/
theorem insertId_eq (id : String) (ids : List String) :
    insertId id ids = (Dict.insert id () (ids.map (·, ()))).map Prod.fst := by
  induction ids with
  | nil => rfl
  | cons x rest ih =>
    have hkeys : (rest.map (·, ())).map Prod.fst = rest := by
      rw [List.map_map]
      exact List.map_id rest
    rw [insertId, List.map_cons, Dict.insert]
    by_cases hlt : id < x
    · rw [if_pos hlt, if_pos hlt, List.map_cons, List.map_cons, hkeys]
    · rw [if_neg hlt, if_neg hlt]
      by_cases heq : id = x
      · rw [if_pos heq, if_pos heq, List.map_cons, hkeys, heq]
      · rw [if_neg heq, if_neg heq, List.map_cons, ih]

theorem ordered_insertId (h : ids.Pairwise (· < ·)) (id : String) : (insertId id ids).Pairwise (· < ·) := by
  have hdict : Dict.Ordered (ids.map (·, ())) := List.pairwise_map.mpr h
  rw [insertId_eq, List.pairwise_map]
  exact hdict.insert id ()

theorem ordered_foldl_insertId {found : List String} (h : found.Pairwise (· < ·)) (ids : List String) :
    (ids.foldl (fun found id => insertId (Case.lower id) (insertId (Case.upper id) found)) found).Pairwise
      (· < ·) := by
  induction ids generalizing found with
  | nil => exact h
  | cons id rest ih => exact ih (ordered_insertId (ordered_insertId h _) _)

theorem ordered_foldCases (ids : List String) : (foldCases ids).Pairwise (· < ·) :=
  ordered_foldl_insertId .nil ids

/-- What is collected says in which list. -/
theorem foldCases_eq_iff : foldCases ids = foldCases ids' ↔ ∀ x, x ∈ foldCases ids ↔ x ∈ foldCases ids' := by
  constructor
  · intro h x
    rw [h]
  · exact (ordered_foldCases ids).eq_of_mem_iff (ordered_foldCases ids')

/-! ## ASCII ids -/

/-- Both cases of what is collected are collected too, and are those of the id that it comes from. -/
theorem exists_of_mem_foldCases (h : ∀ id ∈ ids, Case.Ascii id) (hx : x ∈ foldCases ids) :
    ∃ id ∈ ids, Case.upper x = Case.upper id ∧ Case.lower x = Case.lower id := by
  obtain ⟨id, hid, hcase⟩ := mem_foldCases.mp hx
  have halike := (h id hid).casing hcase
  exact ⟨id, hid, halike.upper, halike.lower⟩

theorem mem_foldCases_foldCases (h : ∀ id ∈ ids, Case.Ascii id) :
    x ∈ foldCases (foldCases ids) ↔ x ∈ foldCases ids := by
  constructor
  · intro hx
    obtain ⟨y, hy, hcase⟩ := mem_foldCases.mp hx
    obtain ⟨id, hid, hupper, hlower⟩ := exists_of_mem_foldCases h hy
    rw [hupper, hlower] at hcase
    exact mem_foldCases.mpr ⟨id, hid, hcase⟩
  · intro hx
    obtain ⟨id, hid, hcase⟩ := mem_foldCases.mp hx
    have halike := (h id hid).casing (.inl rfl)
    have hthere : Case.upper id ∈ foldCases ids := mem_foldCases.mpr ⟨id, hid, .inl rfl⟩
    rw [← halike.upper, ← halike.lower] at hcase
    exact mem_foldCases.mpr ⟨Case.upper id, hthere, hcase⟩

/-- The ids in lower case are found in what is collected. -/
theorem mem_map_lower_iff (h : ∀ id ∈ ids, Case.Ascii id) :
    x ∈ ids.map Case.lower ↔ ∃ y ∈ foldCases ids, Case.lower y = x := by
  constructor
  · intro hx
    obtain ⟨id, hid, rfl⟩ := List.mem_map.mp hx
    have halike := (h id hid).casing (.inr rfl)
    exact ⟨Case.lower id, mem_foldCases.mpr ⟨id, hid, .inr rfl⟩, halike.lower⟩
  · rintro ⟨y, hy, rfl⟩
    obtain ⟨id, hid, -, hlower⟩ := exists_of_mem_foldCases h hy
    rw [hlower]
    exact List.mem_map_of_mem hid

/-- What is collected depends on the ids in lower case only: the upper case is found from there. -/
theorem mem_foldCases_of_lower (h : ∀ id ∈ ids, Case.Ascii id) (h' : ∀ id ∈ ids', Case.Ascii id)
    (hlower : ∀ y ∈ ids.map Case.lower, y ∈ ids'.map Case.lower) (hx : x ∈ foldCases ids) :
    x ∈ foldCases ids' := by
  obtain ⟨id, hid, hcase⟩ := mem_foldCases.mp hx
  obtain ⟨id', hid', hsame⟩ := List.mem_map.mp (hlower _ (List.mem_map_of_mem hid))
  have hupper : Case.upper id' = Case.upper id := by
    have halike := (h id hid).casing (.inr rfl)
    have halike' := (h' id' hid').casing (.inr rfl)
    rw [← halike'.upper, hsame, halike.upper]
  rw [← hupper, ← hsame] at hcase
  exact mem_foldCases.mpr ⟨id', hid', hcase⟩

theorem map_lower_of_ascii (h : ∀ id ∈ ids, Case.Ascii id) : ids.map Case.lower = ids.map String.toLower :=
  List.map_congr_left fun id hid => (h id hid).lower_eq

/-- Of ASCII ids, the list of both letter cases is a normal form. Its bytes increase strictly, and it holds the ids
with all their letters in upper case, those with all in lower case, and nothing else. Doing it again changes nothing,
and two lists of ids have the same normal form if and only if they name the same ids in lower case. -/
theorem foldCases_normal (h : ∀ id ∈ ids, Case.Ascii id) :
    (foldCases ids).Pairwise (fun x y => Bytes.ofText x < Bytes.ofText y) ∧
    (∀ x, x ∈ foldCases ids ↔ ∃ id ∈ ids, x = id.toUpper ∨ x = id.toLower) ∧
    foldCases (foldCases ids) = foldCases ids ∧
    ∀ ids' : List String, (∀ id ∈ ids', Case.Ascii id) →
      (foldCases ids = foldCases ids' ↔ ∀ x, x ∈ ids.map String.toLower ↔ x ∈ ids'.map String.toLower) := by
  refine ⟨(ordered_foldCases ids).imp Bytes.ofText_lt, fun x => ?_, ?_, fun ids' h' => ?_⟩
  · rw [mem_foldCases]
    refine exists_congr fun id => and_congr_right fun hid => ?_
    rw [(h id hid).upper_eq, (h id hid).lower_eq]
  · exact foldCases_eq_iff.mpr fun x => mem_foldCases_foldCases h
  · rw [← map_lower_of_ascii h, ← map_lower_of_ascii h']
    constructor
    · intro hsame x
      rw [mem_map_lower_iff h, mem_map_lower_iff h', hsame]
    · intro hlower
      refine foldCases_eq_iff.mpr fun x => ⟨?_, ?_⟩
      · exact mem_foldCases_of_lower h h' fun x => (hlower x).mp
      · exact mem_foldCases_of_lower h' h fun x => (hlower x).mpr

/-- One machine reports its ids in another order, one of them twice and in other letter cases. -/
theorem foldCases_normal_repeated :
    let ids := ["Aa:Bb", "10.0.0.1"]
    let ids' := ["10.0.0.1", "aa:BB", "AA:bb"]
    (∀ id ∈ ids, Case.Ascii id) ∧ (∀ id ∈ ids', Case.Ascii id) ∧
      foldCases ids = ["10.0.0.1", "AA:BB", "aa:bb"] ∧ foldCases ids' = foldCases ids := by
  intro ids ids'
  have h : ∀ id ∈ ids, Case.Ascii id := by decide +kernel
  have h' : ∀ id ∈ ids', Case.Ascii id := by decide +kernel
  have hlower : ids.map String.toLower = ["aa:bb", "10.0.0.1"] := by decide +kernel
  have hlower' : ids'.map String.toLower = ["10.0.0.1", "aa:bb", "aa:bb"] := by decide +kernel
  obtain ⟨-, -, -, hiff⟩ := foldCases_normal h
  refine ⟨h, h', by decide +kernel, ((hiff ids' h').mpr fun x => ?_).symm⟩
  rw [hlower, hlower']
  simp [or_comm]

/-- Beyond ASCII a case may have another case: "ß" is "SS" in upper case, and that is "ss" in lower case. -/
example : foldCases (foldCases ["ß"]) = ["SS", "ss", "ß"] ∧ foldCases ["ß"] = ["SS", "ß"] := by decide +kernel

end SessionBroker
