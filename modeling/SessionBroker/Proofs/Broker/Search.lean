import Mathlib.Data.Prod.Lex
import SessionBroker.Proofs.Actor.Identity
import SessionBroker.Proofs.Broker.Atomic
import SessionBroker.Proofs.Uuid

/-!
# The search for a user service

A search admits user services by their unique ids, their states and the service that their pools belong to, and
finds the one that was created first. UUIDs decide between those created together, so at most one user service
is the first, and the order in which they are kept does not matter.
-/

namespace SessionBroker

/-! ## The order of user services -/

namespace UserService

/-- User services are in the order of their creation, those created together in the order of their ids. -/
def seniority (u : UserService) : ℤ ×ₗ ℕ := toLex (u.creationDate.ms, u.uuid.number)

theorem uuid_eq_of_seniority {u v : UserService} (h : u.seniority = v.seniority) : u.uuid = v.uuid :=
  Uuid.number_injective (congrArg (fun s => (ofLex s).2) h)

end UserService

namespace Broker

variable {b b' : Broker} {u v : UserService} {filter : UserServiceFilter}

theorem precedes_iff : precedes u v = true ↔ u.seniority < v.seniority := by
  have hdate : u.creationDate = v.creationDate ↔ u.creationDate.ms = v.creationDate.ms :=
    ⟨congrArg Instant.ms, fun h => by rw [← Instant.ofMs_ms u.creationDate, h, Instant.ofMs_ms]⟩
  unfold precedes UserService.seniority
  rw [Prod.Lex.toLex_lt_toLex, Uuid.compare_eq]
  simp [Instant.lt_def, hdate, Nat.compare_eq_lt]

theorem earliest_eq_none {services : List UserService} : earliest services = none ↔ services = [] := by
  cases services with
  | nil => exact ⟨fun _ => rfl, fun _ => rfl⟩
  | cons u rest =>
    unfold earliest
    cases earliest rest with
    | none => simp
    | some v => by_cases h : precedes v u <;> simp [h]

theorem earliest_le {services : List UserService} (h : earliest services = some u) :
    ∀ v ∈ services, u.seniority ≤ v.seniority := by
  induction services generalizing u with
  | nil => cases h
  | cons w rest ih =>
    unfold earliest at h
    cases hrest : earliest rest with
    | none =>
      rw [hrest] at h
      cases h
      rw [earliest_eq_none.mp hrest]
      simp
    | some x =>
      rw [hrest] at h
      dsimp only at h
      have hx := ih hrest
      by_cases hlt : precedes x w = true
      · rw [if_pos hlt] at h
        cases h
        exact List.forall_mem_cons.mpr ⟨(precedes_iff.mp hlt).le, hx⟩
      · rw [if_neg hlt] at h
        cases h
        have hle : w.seniority ≤ x.seniority := not_lt.mp fun hless => hlt (precedes_iff.mpr hless)
        exact List.forall_mem_cons.mpr ⟨le_rfl, fun v hv => hle.trans (hx v hv)⟩

/-! ## What a search finds -/

/-- A user service that a search may find. -/
structure Admitted (b : Broker) (filter : UserServiceFilter) (u : UserService) : Prop where
  kept : b.userService? u.uuid = some u
  admits : b.admits filter u = true

/-- Of those that it admits, a search finds the first. -/
theorem Kept.findUserService_eq_some (h : b.Kept) :
    b.findUserService filter = some u ↔
      b.Admitted filter u ∧ ∀ v, b.Admitted filter v → u.seniority ≤ v.seniority := by
  have hmem (v : UserService) :
      v ∈ (b.userServices.values.map (·.service)).filter (b.admits filter) ↔ b.Admitted filter v := by
    rw [List.mem_filter, h.mem_services]
    exact ⟨fun ⟨hv, ha⟩ => ⟨hv, ha⟩, fun hv => ⟨hv.kept, hv.admits⟩⟩
  have first {v : UserService} (hv : b.findUserService filter = some v) :
      b.Admitted filter v ∧ ∀ w, b.Admitted filter w → v.seniority ≤ w.seniority :=
    ⟨(hmem v).mp (mem_of_earliest hv), fun w hw => earliest_le hv w ((hmem w).mpr hw)⟩
  constructor
  · exact first
  · intro ⟨hu, hleast⟩
    cases hv : b.findUserService filter with
    | none =>
      have hnil := earliest_eq_none.mp hv
      have hin := (hmem u).mpr hu
      rw [hnil] at hin
      exact absurd hin List.not_mem_nil
    | some v =>
      obtain ⟨hadmitted, hfirst⟩ := first hv
      have hsame : v.uuid = u.uuid :=
        UserService.uuid_eq_of_seniority (le_antisymm (hfirst u hu) (hleast v hadmitted))
      have hkept := hadmitted.kept
      rw [hsame, hu.kept] at hkept
      exact hkept.symm

theorem Kept.findUserService_eq_none (h : b.Kept) :
    b.findUserService filter = none ↔ ∀ u, ¬ b.Admitted filter u := by
  unfold findUserService
  rw [earliest_eq_none, List.filter_eq_nil_iff]
  constructor
  · exact fun hnone u hu => hnone u (h.mem_services.mpr hu.kept) hu.admits
  · exact fun hnone u hmem ha => hnone u ⟨h.mem_services.mp hmem, ha⟩

/-! ## The order of the tables -/

/-- The broker holds the same user services in pools of the same services, in whatever order it keeps them. -/
structure Reordered (b b' : Broker) : Prop where
  userServices : b'.userServices.Perm b.userServices
  pools : ∀ id, b'.pools.get? id = b.pools.get? id

theorem Reordered.symm (h : b.Reordered b') : b'.Reordered b where
  userServices := h.userServices.symm
  pools id := (h.pools id).symm

theorem Kept.reordered (h : b.Kept) (hb : b.Reordered b') : b'.Kept where
  distinct := (hb.userServices.map Prod.fst).nodup_iff.mpr h.distinct
  keyed row hrow := h.keyed row (hb.userServices.mem_iff.mp hrow)

theorem Kept.userService?_reordered (h : b.Kept) (hb : b.Reordered b') (u : UserService) :
    b'.userService? u.uuid = some u ↔ b.userService? u.uuid = some u := by
  rw [← h.mem_services, ← (h.reordered hb).mem_services]
  exact ((hb.userServices.map Prod.snd).map UserServiceEntry.service).mem_iff

end Broker

end SessionBroker
