import SessionBroker.Proofs.Broker.Tokens
import SessionBroker.Proofs.Protocol.Script

/-!
# Registrations by staff

A registration stores one identity, and which one depends on what it finds under the MAC. The table of actors
holds every actor once and under its own MAC, and with that a registration gives the machine the token that it
has, or else the one that was drawn.
-/

namespace SessionBroker

namespace Register

/-- A registration by staff. -/
structure Enrolment where
  request : RegisterRequest
  user : StaffUser
  staff : user.isStaff = true
  source : String
  now : Instant
  draws : Draws

namespace Enrolment

variable (r : Enrolment)

def mac : String := r.request.mac

/-- What it stores, by what it has found. -/
def identity (existing : Option ActorIdentity) : ActorIdentity :=
  Register.identity r.request r.user.name r.source r.draws.token r.now existing

/-- The token that the machine has after it. -/
def grants (existing : Option ActorIdentity) : String := (r.identity existing).token

@[simp] theorem grants_none : r.grants none = r.draws.token := rfl

@[simp] theorem grants_some (known : ActorIdentity) : r.grants (some known) = known.token := rfl

theorem run_eq (issuer : Issuer) (b : Broker) :
    Broker.backend.run issuer (protocol r.request (some r.user) r.source) r.now r.draws b =
      (.ok (r.grants (b.findActorByMac r.mac)), b.storeActor (r.identity (b.findActorByMac r.mac))) := by
  rw [run_eq_script]
  unfold script
  rw [Option.filter_some, r.staff, if_pos rfl]
  rfl

end Enrolment

end Register

namespace Broker

open Register (Enrolment)

/-- Every actor stands once, and under its own MAC. -/
structure Listed (b : Broker) : Prop where
  distinct : b.actors.KeysNodup
  keyed : ∀ row ∈ b.actors, row.2.mac = row.1

/-- The token of the actor that is registered under a MAC. -/
def tokenOf (b : Broker) (mac : String) : Option String := (b.findActorByMac mac).map (·.token)

/-- The tokens of all actors, in the order in which they came. -/
def tokens (b : Broker) : List String := b.actors.values.map (·.token)

variable {b : Broker}

theorem Listed.of_empty (h : b.actors = []) : b.Listed where
  distinct := by
    rw [h]
    exact List.nodup_nil
  keyed row hr := by
    rw [h] at hr
    exact absurd hr List.not_mem_nil

namespace Listed

variable (h : b.Listed) (r : Enrolment)

include h

theorem mac_of_find {mac : String} {known : ActorIdentity} (hknown : b.findActorByMac mac = some known) :
    known.mac = mac := h.keyed _ (Table.mem_of_get? hknown)

theorem identity_mac : (r.identity (b.findActorByMac r.mac)).mac = r.mac := by
  cases hfind : b.findActorByMac r.mac with
  | none => rfl
  | some known =>
    have hsame : (r.identity (some known)).mac = known.mac := rfl
    exact hsame.trans (h.mac_of_find hfind)

theorem enrol : (b.storeActor (r.identity (b.findActorByMac r.mac))).Listed where
  distinct := h.distinct.put _ _
  keyed row hr := by
    rcases Table.mem_put hr with rfl | hr
    · rfl
    · exact h.keyed row hr

theorem tokenOf_enrol (mac : String) :
    (b.storeActor (r.identity (b.findActorByMac r.mac))).tokenOf mac =
      if r.mac = mac then some (r.grants (b.findActorByMac r.mac)) else b.tokenOf mac := by
  unfold tokenOf
  rw [findActorByMac_storeActor, h.identity_mac]
  split <;> rfl

theorem mem_keys_enrol (mac : String) :
    mac ∈ (b.storeActor (r.identity (b.findActorByMac r.mac))).actors.keys ↔
      mac ∈ b.actors.keys ∨ mac = r.mac := by
  change mac ∈ (b.actors.put (r.identity _).mac (r.identity _)).keys ↔ _
  rw [h.identity_mac, Table.keys_put]
  split
  · next hmem => exact ⟨.inl, fun h => h.elim id fun h => h ▸ hmem⟩
  · simp

/-- An actor that comes is the last one, and one that was there keeps its token. -/
theorem tokens_enrol : (b.storeActor (r.identity (b.findActorByMac r.mac))).tokens =
    b.tokens ++ if (b.findActorByMac r.mac).isSome then [] else [r.draws.token] := by
  unfold tokens
  change (b.actors.put (r.identity _).mac (r.identity _)).values.map _ = _
  rw [h.identity_mac]
  cases hfind : b.findActorByMac r.mac with
  | none =>
    rw [Table.put_of_get?_none hfind]
    simp [Table.values]
    rfl
  | some known =>
    have hsame : (r.identity (some known)).token = known.token := rfl
    rw [Table.map_values_put hfind hsame]
    simp

end Listed

end Broker

end SessionBroker
