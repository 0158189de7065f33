import SessionBroker.Json.Decode
import SessionBroker.Proofs.Dict
import SessionBroker.Proofs.Text.Uuid
import SessionBroker.Proofs.Time.Timestamp

/-!
# Typed values come back from JSON

`ReadsBack` says of a value that reading what was written of it gives it again. Texts, truth values, UUIDs and JSON
itself always do, instants in the years of four digits; lists and options do if what they hold does. A record does
if its reader finds every field under its name: `RecordReader.Reads` is stated field by field, and it composes as
the readers themselves do.
-/

namespace SessionBroker

section Values

variable {α : Type} [FromJson α] [ToJson α]

/-- What is written of the value is read as the value. -/
def ReadsBack (a : α) : Prop := (fromJson (toJson a) : Decoded α) = .ok a

theorem ReadsBack.json (j : Json) : ReadsBack j := rfl

theorem ReadsBack.string (s : String) : ReadsBack s := rfl

theorem ReadsBack.bool (b : Bool) : ReadsBack b := rfl

theorem ReadsBack.uuid (u : Uuid) : ReadsBack u := by
  simp only [ReadsBack, toJson, fromJson, Uuid.parse_text]

theorem ReadsBack.instant {t : Instant} (h : 0 ≤ t.year ∧ t.year ≤ 9999) : ReadsBack t := by
  obtain ⟨s, htext, hread⟩ := Timestamp.exists_text h.1 h.2
  simp only [ReadsBack, toJson, fromJson, htext, hread]

/-- Other years have no written form, or one with a sign, which is refused. -/
theorem readsBack_instant_iff (t : Instant) : ReadsBack t ↔ 0 ≤ t.year ∧ t.year ≤ 9999 := by
  refine ⟨fun h => ?_, .instant⟩
  by_contra hyear
  cases htext : Timestamp.text? t with
  | none => simp [ReadsBack, toJson, fromJson, htext] at h
  | some s => simp [ReadsBack, toJson, fromJson, htext, Timestamp.parse?_signed hyear htext] at h

theorem ReadsBack.list {items : List α} (h : ∀ a ∈ items, ReadsBack a) : ReadsBack items := by
  change (items.map toJson).mapM fromJson = _
  induction items with
  | nil => rfl
  | cons a rest ih =>
    have hfirst : (fromJson (toJson a) : Decoded α) = .ok a := h a List.mem_cons_self
    rw [List.map_cons, List.mapM_cons, ih fun b hb => h b (List.mem_cons_of_mem a hb), hfirst]
    rfl

/-- Null is taken for no value, so a value must not be written as null. -/
theorem ReadsBack.option {a : Option α} (h : ∀ b ∈ a, ReadsBack b ∧ toJson b ≠ .null) : ReadsBack a := by
  cases a with
  | none => rfl
  | some b =>
    obtain ⟨hread, hnull⟩ := h b rfl
    have hread : (fromJson (toJson b) : Decoded α) = .ok b := hread
    change (fromJson (toJson b) : Decoded (Option α)) = _
    have hoption {j : Json} (hj : j ≠ .null) : (fromJson j : Decoded (Option α)) = some <$> fromJson j := by
      cases j with
      | null => exact absurd rfl hj
      | _ => rfl
    rw [hoption hnull, hread]
    rfl

end Values

namespace RecordReader

variable {ρ σ : Type}

/-- From every dictionary with these entries the reader gets the value, and it finds no fault with any member. -/
def Reads (r : RecordReader ρ) (entries : List (String × Json)) (value : ρ) : Prop :=
  ∀ members : Dict Json, (∀ key, members.find? key = Dict.find? key entries) →
    r.fromMembers members = .ok value ∧
      ∀ key j, members.find? key = some j → (r.checks.lookup key).bind (· j) = none

section Fields

variable {α : Type} {entries : List (String × Json)} {name : String} {j : Json} {value : α}

theorem Reads.one {read : Json → Decoded α} {absent tail : Option α} (hfind : Dict.find? name entries = some j)
    (hread : read j = .ok value) : (RecordReader.one name read absent tail).Reads entries value := by
  intro members hmembers
  have hfound : members.find? name = some j := (hmembers name).trans hfind
  refine ⟨?_, fun key j' hkey => ?_⟩
  · unfold RecordReader.one
    simp only [hfound, hread]
  · unfold RecordReader.one
    by_cases hname : key = name
    · subst hname
      obtain rfl : j = j' := Option.some.inj (hfound.symm.trans hkey)
      simp [List.lookup_cons_self, hread, fault]
    · have hother : (key == name) = false := by simpa using hname
      simp [List.lookup_cons, hother]

variable [FromJson α] [ToJson α]

theorem Reads.required (h : ReadsBack value) (hfind : Dict.find? name entries = some (toJson value)) :
    (RecordReader.required name).Reads entries value :=
  .one hfind h

theorem Reads.optional {value : Option α} (h : ReadsBack value)
    (hfind : Dict.find? name entries = some (toJson value)) : (RecordReader.optional name).Reads entries value :=
  .one hfind h

end Fields

variable {entries : List (String × Json)}

theorem Reads.map {r : RecordReader ρ} {value : ρ} (h : r.Reads entries value) (f : ρ → σ) :
    (f <$> r).Reads entries (f value) := by
  intro members hmembers
  obtain ⟨hread, hchecks⟩ := h members hmembers
  refine ⟨?_, hchecks⟩
  change f <$> r.fromMembers members = _
  rw [hread]
  rfl

theorem Reads.seq {r : RecordReader (ρ → σ)} {make : ρ → σ} {field : RecordReader ρ} {value : ρ}
    (h : r.Reads entries make) (h' : field.Reads entries value) : (r <*> field).Reads entries (make value) := by
  intro members hmembers
  obtain ⟨hread, hchecks⟩ := h members hmembers
  obtain ⟨hread', hchecks'⟩ := h' members hmembers
  refine ⟨?_, fun key j hkey => ?_⟩
  · change (do
      let make ← r.fromMembers members
      let value ← field.fromMembers members
      return make value) = _
    rw [hread, hread']
    rfl
  · change ((r.checks ++ field.checks).lookup key).bind (· j) = none
    rw [List.lookup_append]
    cases hfirst : r.checks.lookup key with
    | none => exact hchecks' key j hkey
    | some check =>
      have hcheck := hchecks key j hkey
      rwa [hfirst] at hcheck

theorem firstFault_eq_none {r : RecordReader ρ} {members : List (String × Json)}
    (h : ∀ e ∈ members, (r.checks.lookup e.1).bind (· e.2) = none) : r.firstFault members = none := by
  induction members with
  | nil => rfl
  | cons e rest ih =>
    rw [firstFault, h e List.mem_cons_self]
    exact ih fun e he => h e (List.mem_cons_of_mem _ he)

theorem Reads.readMembers {r : RecordReader ρ} {value : ρ} (h : r.Reads entries value) {members : Dict Json}
    (hordered : members.Ordered) (hmembers : ∀ key, members.find? key = Dict.find? key entries) :
    r.readMembers members = .ok value := by
  obtain ⟨hread, hchecks⟩ := h members hmembers
  have hfault : r.firstFault members = none :=
    firstFault_eq_none fun e he => hchecks e.1 e.2 (hordered.find?_of_mem he)
  unfold RecordReader.readMembers
  rw [hfault]
  exact hread

/-- A record is read from an object of its fields, in whatever order they are given. -/
theorem Reads.object {r : RecordReader ρ} {value : ρ} (h : r.Reads entries value)
    (hkeys : (entries.map Prod.fst).Nodup) (name : String) : r.read name (Json.object entries) = .ok value :=
  h.readMembers (Dict.ordered_ofList entries) (Dict.find?_ofList hkeys)

end RecordReader

end SessionBroker
