import Mathlib.Data.List.Nodup
import SessionBroker.Proofs.Broker.Atomic
import SessionBroker.Proofs.Broker.Tokens

/-!
# Aliases of unmanaged machines

An unmanaged machine that shows a master token gets an alias, which is bound to the service and to the first id
of the machine. A broker is `Aliased` where no machine of a service has two of them and none is a master token;
an alias that is made for a machine that has none keeps it so, if its token is new. `Named` lists all that a
binding can come to, with the aliases that it leaves.
-/

namespace SessionBroker

open Effect (Keeps)
open Protocol (ofStore ofStore_of_ok)

/-- Of the entries that give one answer there is one only. -/
theorem find?_of_filterMap_nodup {α β : Type} [DecidableEq β] {f : α → Option β} {entries : List α} {entry : α}
    {answer : β} (hdistinct : (entries.filterMap f).Nodup) (hentry : entry ∈ entries)
    (hanswer : f entry = some answer) :
    entries.find? (fun e => f e = some answer) = some entry := by
  induction entries with
  | nil => exact absurd hentry List.not_mem_nil
  | cons first rest ih =>
    rcases List.mem_cons.mp hentry with rfl | hrest
    · simp [hanswer]
    · have hother : answer ∈ rest.filterMap f := List.mem_filterMap.mpr ⟨entry, hrest, hanswer⟩
      cases hfirst : f first with
      | none =>
        rw [List.filterMap_cons_none hfirst] at hdistinct
        simpa [hfirst] using ih hdistinct hrest
      | some answer' =>
        rw [List.filterMap_cons_some hfirst] at hdistinct
        obtain ⟨hnew, hdistinct⟩ := List.nodup_cons.mp hdistinct
        have hne : answer' ≠ answer := fun h => hnew (h ▸ hother)
        simpa [hfirst, hne] using ih hdistinct hrest

namespace Broker

/-- The tokens that services are owned by. -/
def masters (b : Broker) : List String := b.services.values.filterMap (·.record.token)

/-- Who has an alias: a service, and the id of a machine of it. -/
def aliasOwners (b : Broker) : List (Uuid × Option String) := b.aliases.values.map fun a => (a.service, a.uniqueId)

/-- Every alias stands once and under its own text, no machine has two, and none is a master token. -/
structure Aliased (b : Broker) : Prop where
  distinct : b.aliases.KeysNodup
  keyed : ∀ row ∈ b.aliases, row.2.alias = row.1
  single : b.aliasOwners.Nodup
  apart : ∀ token ∈ b.masters, b.findAlias token = none

variable {b b' : Broker} {token : String} {service : Uuid} {id : String} {found : ServiceTokenAlias}

/-- Where all master tokens are different, each leads to the service that has it. -/
theorem serviceByMaster_of_mem (h : b.masters.Nodup) {entry : ServiceEntry} (hentry : entry ∈ b.services.values)
    (htoken : entry.record.token = some token) : b.serviceByMaster token = some entry.record := by
  unfold serviceByMaster
  rw [find?_of_filterMap_nodup h hentry htoken]
  rfl

theorem findService_direct (b : Broker) : b.findService token false = b.serviceByMaster token := by
  unfold findService
  cases b.serviceByMaster token <;> rfl

theorem mem_masters_of_serviceByMaster {record : ServiceRecord} (h : b.serviceByMaster token = some record) :
    token ∈ b.masters := by
  obtain ⟨entry, hentry, -⟩ := Option.map_eq_some_iff.mp h
  exact List.mem_filterMap.mpr ⟨entry, List.mem_of_find?_eq_some hentry, by simpa using List.find?_some hentry⟩

theorem findAlias_createAlias (b : Broker) (record : ServiceTokenAlias) (token : String) :
    (b.createAlias record).findAlias token = if record.alias = token then some record else b.findAlias token :=
  Table.get?_put record.alias token record b.aliases

/-- An alias that is made for a machine that has none is a change. -/
theorem createAlias_ne (h : b.findAliasFor service id = none) :
    (b.createAlias ⟨token, service, some id⟩).aliases ≠ b.aliases := by
  intro hsame
  have hfound : b.findAlias token = some ⟨token, service, some id⟩ := by
    unfold findAlias
    rw [← hsame]
    exact (b.findAlias_createAlias ⟨token, service, some id⟩ token).trans (if_pos rfl)
  have hmem : (⟨token, service, some id⟩ : ServiceTokenAlias) ∈ b.aliases.values :=
    List.mem_map.mpr ⟨_, Table.mem_of_get? hfound, rfl⟩
  have hmiss := List.find?_eq_none.mp h _ hmem
  simp at hmiss

namespace Aliased

theorem of_empty (h : b.aliases = []) : b.Aliased where
  distinct := by
    rw [h]
    exact List.nodup_nil
  keyed row hr := by
    rw [h] at hr
    exact absurd hr List.not_mem_nil
  single := by
    unfold aliasOwners
    rw [h]
    exact List.nodup_nil
  apart token _ := by
    unfold findAlias
    rw [h]
    rfl

variable (h : b.Aliased)

include h

theorem congr (hservices : b'.services = b.services) (haliases : b'.aliases = b.aliases) : b'.Aliased where
  distinct := haliases ▸ h.distinct
  keyed := haliases ▸ h.keyed
  single := by
    unfold aliasOwners
    rw [haliases]
    exact h.single
  apart token htoken := by
    unfold masters at htoken
    rw [hservices] at htoken
    unfold findAlias
    rw [haliases]
    exact h.apart token htoken

theorem alias_of_find (hfound : b.findAlias token = some found) : found.alias = token :=
  h.keyed _ (Table.mem_of_get? hfound)

/-- What the search for the alias of a machine finds is such an alias, under its text. -/
theorem findAlias_of_for (hfound : b.findAliasFor service id = some found) :
    b.findAlias found.alias = some ⟨found.alias, service, some id⟩ := by
  have howner := List.find?_some hfound
  rw [Bool.and_eq_true, decide_eq_true_eq, decide_eq_true_eq] at howner
  obtain ⟨rfl, hid⟩ := howner
  obtain ⟨⟨key, record⟩, hrow, rfl⟩ := List.mem_map.mp (List.mem_of_find?_eq_some hfound)
  have hkey : record.alias = key := h.keyed _ hrow
  unfold findAlias
  rw [hkey, Table.get?_of_mem h.distinct hrow, ← hid, ← hkey]

/-- One machine of a service has one alias. -/
theorem unique {token' : String} (htoken : b.findAlias token = some ⟨token, service, some id⟩)
    (htoken' : b.findAlias token' = some ⟨token', service, some id⟩) : token = token' := by
  have hmem (token : String) (hfound : b.findAlias token = some ⟨token, service, some id⟩) :
      (⟨token, service, some id⟩ : ServiceTokenAlias) ∈ b.aliases.values :=
    List.mem_map.mpr ⟨_, Table.mem_of_get? hfound, rfl⟩
  have hsame := List.inj_on_of_nodup_map h.single (hmem token htoken) (hmem token' htoken') rfl
  exact congrArg ServiceTokenAlias.alias hsame

/-- An alias under a new token, for a machine that has none. -/
theorem createAlias (hnew : b.findAlias token = none) (hmaster : token ∉ b.masters)
    (hnone : b.findAliasFor service id = none) : (b.createAlias ⟨token, service, some id⟩).Aliased where
  distinct := h.distinct.put _ _
  keyed row hr := by
    rcases Table.mem_put hr with rfl | hr
    · rfl
    · exact h.keyed row hr
  single := by
    have hlast : (b.createAlias ⟨token, service, some id⟩).aliasOwners = b.aliasOwners ++ [(service, some id)] := by
      change (b.aliases.put token _).values.map _ = _
      rw [Table.put_of_get?_none hnew]
      simp [Table.values, aliasOwners]
    have hother : (service, some id) ∉ b.aliasOwners := by
      intro hmem
      obtain ⟨record, hrecord, howner⟩ := List.mem_map.mp hmem
      obtain ⟨rfl, hid⟩ := Prod.mk.inj howner
      have hmiss := List.find?_eq_none.mp hnone record hrecord
      simp [hid] at hmiss
    rw [hlast]
    exact List.nodup_append.mpr ⟨h.single, List.nodup_singleton _, fun owner howner other hsame heq =>
      hother (List.mem_singleton.mp hsame ▸ heq ▸ howner)⟩
  apart master hmem := by
    have hne : token ≠ master := fun heq => hmaster (heq ▸ hmem)
    have hmiss : b.findAlias master = none := h.apart master hmem
    change (b.aliases.put token _).get? master = none
    rw [Table.get?_put, if_neg hne]
    exact hmiss

end Aliased

end Broker

/-! ## What bindings come to -/

namespace Binding

open Broker (backend)

/-- The alias that an actor is told to use from then on. -/
def aliasToken : Binding → Option String
  | .managed _ _ _ token | .notManaged token => token

theorem toJson_masterToken (binding : Binding) :
    binding.toJson.get? "master_token" = some (SessionBroker.toJson binding.aliasToken) := by
  cases binding <;> rfl

/-- If the binding succeeds, the actor is told to use the alias. -/
def Tells (outcome : Except ProtocolError Binding) (token : String) : Prop :=
  ∀ binding, outcome = .ok binding → binding.aliasToken = some token

/-- What a binding can come to: its outcome, and the aliases after it. -/
inductive Named (b : Broker) (draws : Draws) (request : BindingRequest) :
    Except ProtocolError Binding → Table String ServiceTokenAlias → Prop
  | managed (h : request.kind = .managed) (outcome) : Named b draws request outcome b.aliases
  | known {found outcome} (h : b.findAlias request.token = some found) (tells : Tells outcome found.alias) :
      Named b draws request outcome b.aliases
  | refused (e : ProtocolError) : Named b draws request (.error e) b.aliases
  | owned {record first found outcome} (h : b.findAlias request.token = none)
      (hrecord : b.serviceByMaster request.token = some record) (hfirst : request.ids.head? = some first)
      (hfound : b.findAliasFor record.id (aliasId first) = some found) (tells : Tells outcome found.alias) :
      Named b draws request outcome b.aliases
  | made {record first outcome} (h : b.findAlias request.token = none)
      (hrecord : b.serviceByMaster request.token = some record) (hfirst : request.ids.head? = some first)
      (hnone : b.findAliasFor record.id (aliasId first) = none) (tells : Tells outcome draws.token) :
      Named b draws request outcome
        (b.createAlias ⟨draws.token, record.id, some (aliasId first)⟩).aliases

variable (issuer : Issuer) (now : Instant) (draws : Draws) (request : BindingRequest) (b : Broker)

/-- The search for the user service neither touches the tables of tokens nor changes what the actor is told. -/
theorem bindTo_tells (ids : List String) (service : Option Uuid) (token : Option String) :
    let done := bindTo backend now request ids service token b
    done.2.directory = b.directory ∧ ∀ binding, done.1 = .ok binding → binding.aliasToken = token := by
  have hfind : ofStore (backend.findUserService ⟨ids, service, [.usable, .preparing]⟩) b =
      (.ok ((b.findUserService ⟨ids, service, [.usable, .preparing]⟩).map UserService.view), b) := rfl
  unfold bindTo
  rw [Effect.run_bind_of_ok hfind]
  cases b.findUserService ⟨ids, service, [.usable, .preparing]⟩ with
  | none => exact ⟨rfl, fun binding h => by cases h; rfl⟩
  | some u =>
    dsimp only [Option.map_some]
    have hkept : (ofStore (backend.prepareActor u.view.uuid request.version now) b).2.directory = b.directory :=
      (Broker.prepareActor_revised u.view.uuid request.version b (.refl b)).directory
    rw [Effect.run_bind]
    cases hp : ofStore (backend.prepareActor u.view.uuid request.version now) b with
    | mk outcome b' =>
      rw [hp] at hkept
      cases outcome with
      | ok actor => exact ⟨hkept, fun binding h => by cases h; rfl⟩
      | error e => exact ⟨hkept, fun binding h => by cases h⟩

theorem bindTo_told (ids : List String) (service : Option Uuid) (token : String) :
    let done := bindTo backend now request ids service (some token) b
    done.2.aliases = b.aliases ∧ Tells done.1 token := by
  obtain ⟨hdirectory, htells⟩ := bindTo_tells now request b ids service (some token)
  exact ⟨congrArg Directory.aliases hdirectory, htells⟩

variable {b request} in
/-- A machine that shows a master token is told the alias that it has, or one that is made for it. -/
theorem bindOwn_named (hunknown : b.findAlias request.token = none) {record : ServiceRecord} {first : IdEntry}
    (hrecord : b.serviceByMaster request.token = some record) (hfirst : request.ids.head? = some first) :
    let done := (ownAlias backend draws record.id (aliasId first) >>= fun token =>
      bindTo backend now request (unmanagedIds request) (some record.id) (some token)) b
    Named b draws request done.1 done.2.aliases := by
  have hlook : ofStore (backend.findAliasFor record.id (aliasId first)) b =
      (.ok (b.findAliasFor record.id (aliasId first)), b) := rfl
  unfold ownAlias
  rw [bind_assoc, Effect.run_bind_of_ok hlook]
  cases hown : b.findAliasFor record.id (aliasId first) with
  | some found =>
    obtain ⟨hkept, htells⟩ := bindTo_told now request b (unmanagedIds request) (some record.id) found.alias
    dsimp only
    rw [pure_bind, hkept]
    exact .owned hunknown hrecord hfirst hown htells
  | none =>
    have hmade : ofStore (backend.createAlias ⟨draws.token, record.id, some (aliasId first)⟩) b =
        (.ok (), b.createAlias ⟨draws.token, record.id, some (aliasId first)⟩) := rfl
    obtain ⟨hkept, htells⟩ := bindTo_told now request
      (b.createAlias ⟨draws.token, record.id, some (aliasId first)⟩) (unmanagedIds request) (some record.id)
      draws.token
    dsimp only
    rw [bind_assoc, Effect.run_bind_of_ok hmade, pure_bind, hkept]
    exact .made hunknown hrecord hfirst hown htells

/-- All that a binding can come to. -/
theorem run_named :
    let done := backend.run issuer (protocol request) now draws b
    Named b draws request done.1 done.2.aliases := by
  rw [run_eq_script]
  unfold script
  cases hkind : request.kind with
  | managed =>
    have hvalid : ofStore (backend.validateActorToken request.token) b =
        (.ok (b.validateActorToken request.token), b) := rfl
    dsimp only
    rw [Effect.run_bind_of_ok hvalid]
    cases b.validateActorToken request.token with
    | false => exact .managed hkind _
    | true =>
      have hkept : (bindTo backend now request (managedIds request) none none b).2.aliases = b.aliases :=
        congrArg Directory.aliases (bindTo_tells now request b (managedIds request) none none).1
      rw [if_pos rfl, hkept]
      exact .managed hkind _
  | unmanaged =>
    have halias : ofStore (backend.findAlias request.token) b = (.ok (b.findAlias request.token), b) := rfl
    dsimp only
    rw [Effect.run_bind_of_ok halias]
    cases hfound : b.findAlias request.token with
    | some found =>
      obtain ⟨hkept, htells⟩ :=
        bindTo_told now request b (unmanagedIds request) (some found.service) found.alias
      dsimp only
      rw [hkept]
      exact .known hfound htells
    | none =>
      have hservice : ofStore (backend.findService request.token false) b =
          (.ok (b.serviceByMaster request.token), b) := by
        rw [← b.findService_direct]
        rfl
      dsimp only
      rw [Effect.run_bind_of_ok hservice]
      cases hrecord : b.serviceByMaster request.token with
      | none => exact .refused _
      | some record =>
        dsimp only
        cases hids : request.ids with
        | nil => exact .refused _
        | cons first rest =>
          have hfirst : request.ids.head? = some first := by rw [hids]; rfl
          exact bindOwn_named now draws hfound hrecord hfirst

end Binding

end SessionBroker
