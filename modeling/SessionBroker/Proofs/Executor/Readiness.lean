import SessionBroker.Crypto.Certificate
import SessionBroker.Crypto.TaggedXor
import SessionBroker.Proofs.Broker.Departure
import SessionBroker.Proofs.Dict
import SessionBroker.Proofs.Executor.Direct
import SessionBroker.Proofs.Executor.Records
import SessionBroker.Proofs.Protocol.Sessions

/-!
# What a machine is told is what is stored

A report of readiness looks the user service up, has a certificate issued, and stores the certificate together
with the address. The actor is answered with the very certificate that is stored, and where the OS manager
leaves the user service alone when its guest comes up, the rest of the record is known as well.
-/

namespace SessionBroker

open Protocol (ofStore ofStore_of_ok)

namespace UserService

/-- The properties of a machine that has reported to be ready. -/
def readyProperties (report : ReadyReport) (properties : Dict String) : Dict String :=
  [(Property.ip, report.ip), (Property.commsUrl, report.commsUrl),
    (Property.certificate, report.certificate.certificate),
    (Property.privateKey, report.certificate.key.value),
    (Property.keyPassword, report.certificate.password.value)].foldl
    (fun d (name, value) => Dict.insert name value d) properties

/-- A user service after its machine has reported to be ready, under the name that the OS manager leaves it. -/
def readied (u : UserService) (report : ReadyReport) (name : String) (now : Instant) : UserService :=
  { u with
    friendlyName := name
    properties := readyProperties report u.properties
    osState := if report.markOsUsable then .usable else u.osState
    stateDate := if report.markOsUsable ∧ u.osState ≠ .usable then now else u.stateDate
    inUse := if report.clearInUse then false else u.inUse
    inUseDate := if report.clearInUse then now else u.inUseDate }

end UserService

namespace Broker

variable {b : Broker} {u : UserService} {manager : Option OsManager} {report : ReadyReport}

/-- Whom a report of readiness is passed on to. The OS manager is told only as the guest comes up. -/
def readyNotices (u : UserService) (manager : Option OsManager) (report : ReadyReport) : List Notice :=
  .provider report.userService (.setIp report.ip) ::
    if report.markOsUsable && manager.isSome then [.osToReady u.uniqueId] else []

/-- The mark of a manager that leaves the service alone. -/
theorem markOsUsable_spared (hm : ∀ m, manager = some m → ∀ v, m.toReady v = v) (u : UserService)
    (now : Instant) (b : Broker) :
    markOsUsable u manager now b = (u.setOsState .usable now,
      { b with journal := b.journal ++ if manager.isSome then [.osToReady u.uniqueId] else [] }) := by
  unfold markOsUsable
  cases manager with
  | none => simp
  | some m =>
    have hid : (u.setOsState .usable now).uniqueId = u.uniqueId := by
      unfold UserService.setOsState
      split <;> rfl
    dsimp only
    rw [hm m rfl, hid]
    rfl

/-- What a report of readiness leaves, where the OS manager leaves the service alone. -/
theorem commitReady_spared (hu : b.userService? report.userService = some u)
    (hmanager : b.osManager? u.pool = manager) (hm : ∀ m, manager = some m → ∀ v, m.toReady v = v)
    (now : Instant) :
    commitReady report now b = (.ok (),
      { b with journal := b.journal ++ readyNotices u manager report }.putUserService report.userService
        (u.readied report u.friendlyName now)) := by
  unfold commitReady readyNotices
  rw [revise_eq hu, hmanager]
  dsimp only
  rw [markOsUsable_spared hm]
  cases hmark : report.markOsUsable with
  | false =>
    cases hclear : report.clearInUse <;>
      simp [UserService.readied, UserService.readyProperties, UserService.setProperty, UserService.logIp,
        UserService.setCommsUrl, UserService.setInUse, hmark, hclear, tell]
  | true =>
    cases hclear : report.clearInUse <;> cases hos : u.osState <;>
      simp [UserService.readied, UserService.readyProperties, UserService.setProperty, UserService.logIp,
        UserService.setCommsUrl, UserService.setInUse, UserService.setOsState, hmark, hclear, hos, tell]

end Broker

/-- What a report of readiness stores, and what it leaves of the properties that were there. -/
theorem UserService.find?_readyProperties (report : ReadyReport) (properties : Dict String) (name : String) :
    Dict.find? name (readyProperties report properties) =
      (Dict.find? name [(Property.ip, report.ip), (Property.commsUrl, report.commsUrl),
        (Property.certificate, report.certificate.certificate),
        (Property.privateKey, report.certificate.key.value),
        (Property.keyPassword, report.certificate.password.value)]).or (Dict.find? name properties) := by
  refine Dict.find?_foldl_insert ?_ properties name
  change [Property.ip, Property.commsUrl, Property.certificate, Property.privateKey, Property.keyPassword].Nodup
  decide

/-! ## The report that a request comes to -/

section

variable (request : ReadyRequest) (clearInUse : Bool) (u : UserService) (bundle : CertificateBundle)

/-- The OS manager is told of a guest that was not up before. -/
theorem Ready.readyNotices_report (manager : Option OsManager) :
    Broker.readyNotices u manager (report request clearInUse u.view bundle) =
      .provider u.uuid (.setIp request.ip) ::
        if u.osState ≠ .usable ∧ manager.isSome then [.osToReady u.uniqueId] else [] := by
  have hmark : (report request clearInUse u.view bundle).markOsUsable = decide (u.osState ≠ .usable) := rfl
  unfold Broker.readyNotices
  rw [hmark]
  simp only [Bool.and_eq_true, decide_eq_true_eq]
  rfl

/-- Beside the properties, the guest is up from then on, and the service out of use if the report says so. -/
theorem Ready.readied_report (now : Instant) :
    let after := u.readied (report request clearInUse u.view bundle) u.friendlyName now
    after = { u with
      properties := after.properties
      osState := .usable
      stateDate := if u.osState = .usable then u.stateDate else now
      inUse := if clearInUse then false else u.inUse
      inUseDate := if clearInUse then now else u.inUseDate } := by
  cases hos : u.osState <;> simp [report, UserService.readied, UserService.view, hos]

end

/-- A report about a user service that an actor may use is stored once a certificate is issued. -/
theorem Ready.run_held {b : Broker} {id : Uuid} {u : UserService} (h : b.Holds id u)
    {manager : Option OsManager} (hmanager : b.osManager? u.pool = manager)
    (hm : ∀ m, manager = some m → ∀ v, m.toReady v = v) (hvalid : u.state.isValid) {request : ReadyRequest}
    (htoken : Uuid.parse? request.token = some id) {issuer : Issuer} {draws : Draws} {bundle : CertificateBundle}
    (hissued : issuer request.ip draws.password = .ok bundle) (clearInUse : Bool) (ciphers : Option String)
    (now : Instant) :
    let ready := report request clearInUse u.view bundle
    Broker.backend.run issuer (protocol request clearInUse ciphers) now draws b =
      (.ok ⟨bundle, ciphers⟩,
        { b with journal := b.journal ++ Broker.readyNotices u manager ready }.putUserService id
          (u.readied ready u.friendlyName now)) := by
  intro ready
  have hready : ready.userService = id := h.uuid
  have hfetch : ofStore (Broker.backend.fetchUserService request.token) b = (.ok (some u.view), b) :=
    Broker.ofStore_reading (congrArg (Option.map UserService.view) (h.validUserService? htoken hvalid))
  have hfound : b.userService? ready.userService = some u := hready ▸ h.found
  have hcommit := Broker.commitReady_spared hfound hmanager hm now
  rw [hready] at hcommit
  rw [run_eq_script]
  unfold script
  rw [Effect.run_bind_of_ok hfetch]
  dsimp only
  rw [hissued]
  dsimp only
  exact Effect.run_bind_of_ok (ofStore_of_ok hcommit) _

namespace Executor

variable {config : BrokerConfig} {cipher : Cipher} {issuer : Issuer} {s : State Broker TicketTable}
  {ctx : RequestContext} {draws : Draws} {params : Json} {request : ReadyRequest}

theorem handle_ready {action : Action} (haction : action = .ready ∨ action = .ipChange)
    {reply : CertificateReply} {b : Broker}
    (hrequest : (fromJson params : Decoded ReadyRequest) = .ok request)
    (hpassed : (inMemory config cipher issuer).isBlocked ctx s = false)
    (hrun : Broker.backend.run issuer
      (Ready.protocol request (action = .ready) (inMemory config cipher issuer).ciphers) ctx.now draws s.backend =
        (.ok reply, b)) :
    (inMemory config cipher issuer).handle ctx draws action params s =
      (.ok (.ok (toJson reply)), { s with backend := b, counters := Guard.clear s.counters ctx.source }) := by
  let x := inMemory config cipher issuer
  have hdispatch : x.dispatch ctx draws action params = parameters ReadyRequest params >>= fun request =>
      x.run (Ready.protocol request (action = .ready) x.ciphers) ctx draws >>= fun reply =>
        pure (.ok (toJson reply)) := by
    rcases haction with rfl | rfl <;> rfl
  have hguarded : action.bypassesGuard = false := by rcases haction with rfl | rfl <;> rfl
  exact handle_answered ctx hdispatch hguarded hpassed hrequest hrun fun _ => rfl

/-- The report of a machine that can be reached, or that has another address now, is answered with a
certificate, and its key, text and password are those that are stored for the user service, beside the address.
The guest counts as up from now on if it did not before. A machine that can be reached is out of use. One that has
another address is as it was, and nothing else is changed by either report. -/
theorem ready_stored {action : Action} {id : Uuid} {u : UserService}
    (hs : Attainable (inMemory config cipher trialIssuer) s) (haction : action = .ready ∨ action = .ipChange)
    (hrequest : (fromJson params : Decoded ReadyRequest) = .ok request)
    (htoken : Uuid.parse? request.token = some id) (hfound : s.backend.userService? id = some u)
    (hvalid : u.state = .usable ∨ u.state = .preparing) (hip : request.ip ≠ "")
    (hpassed : (inMemory config cipher trialIssuer).isBlocked ctx s = false)
    (hspares : ∀ m, s.backend.osManager? u.pool = some m → ∀ v, m.toReady v = v) :
    let x := inMemory config cipher trialIssuer
    let manager := s.backend.osManager? u.pool
    ∃ reply after key certificate password,
      x.handle ctx draws action params s =
        (.ok (.ok reply), { s with
          backend := { s.backend.putUserService id after with
            journal := s.backend.journal ++ .provider id (.setIp request.ip) ::
              if u.osState ≠ .usable ∧ manager.isSome then [.osToReady u.uniqueId] else [] }
          counters := Guard.clear s.counters ctx.source }) ∧
      (reply.get? "key" = some (.str key) ∧ reply.get? "private_key" = some (.str key) ∧
        reply.get? "certificate" = some (.str certificate) ∧
        reply.get? "server_certificate" = some (.str certificate) ∧
        reply.get? "password" = some (.str password)) ∧
      (after.property "priv" = some key ∧ after.property "cert" = some certificate ∧
        after.property "priv_passwd" = some password) ∧
      after.property "ip" = some request.ip ∧
      after.property "comms_url" =
        some ("https://" ++ request.ip ++ ":" ++ toString request.port ++ "/actor/" ++ request.secret) ∧
      (∀ name, name ∉ ["priv", "cert", "priv_passwd", "ip", "comms_url"] →
        after.property name = u.property name) ∧
      after = { u with
        properties := after.properties
        osState := .usable
        stateDate := if u.osState = .usable then u.stateDate else ctx.now
        inUse := if action = .ready then false else u.inUse
        inUseDate := if action = .ready then ctx.now else u.inUseDate } := by
  intro x manager
  have hholds : s.backend.Holds id u := hs.kept.holds hfound
  have hopen : u.state.isValid := ServiceState.isValid_iff.mpr hvalid
  let bundle : CertificateBundle :=
    ⟨⟨"faux-key-" ++ request.ip⟩, "faux-cert-" ++ request.ip, ⟨draws.password⟩⟩
  let ready := Ready.report request (action = .ready) u.view bundle
  let after := u.readied ready u.friendlyName ctx.now
  have hissued : trialIssuer request.ip draws.password = .ok bundle := if_neg hip
  have hrun := Ready.run_held hholds rfl hspares hopen htoken hissued (action = .ready) x.ciphers ctx.now
  dsimp only at hrun
  rw [Broker.putUserService_journaled] at hrun
  have hproperty (name : String) : after.property name = _ :=
    UserService.find?_readyProperties ready u.properties name
  refine ⟨toJson (⟨bundle, x.ciphers⟩ : CertificateReply), after, bundle.key.value, bundle.certificate,
    bundle.password.value, (handle_ready haction hrequest hpassed hrun).trans ?_, ⟨rfl, rfl, rfl, rfl, rfl⟩,
    ⟨hproperty "priv", hproperty "cert", hproperty "priv_passwd"⟩, hproperty "ip", hproperty "comms_url", ?_, ?_⟩
  · rw [Ready.readyNotices_report, hholds.uuid]
  · intro name hname
    have hother : name ∉ [Property.ip, Property.commsUrl, Property.certificate, Property.privateKey,
        Property.keyPassword] := by
      simpa [Property.ip, Property.commsUrl, Property.certificate, Property.privateKey, Property.keyPassword,
        and_assoc, and_comm, and_left_comm] using hname
    rw [hproperty, Dict.find?_eq_none_of_not_mem hother]
    rfl
  · have hafter := Ready.readied_report request (action = .ready) u bundle ctx.now
    simpa only [decide_eq_true_eq] using hafter

/-- A machine in use comes up again, under another address. -/
theorem ready_stored_restarted :
    let x := inMemory .standard TaggedXor.cipher trialIssuer
    let events : List Event :=
      [.administer (.addPool ⟨.nil, .nil, "pool", none⟩ (some OsPolicy.standard.manager) ⟨.zero, 0⟩),
        .administer (.addUserService (.fresh .nil .nil "desktop" "desktop" .l1 .epoch)
          ⟨true, fun _ => .finished⟩ .epoch),
        .administer (.edit .nil fun u => u.setInUse true (.ofMs 10))]
    let s := x.after events .initial
    let ctx : RequestContext := ⟨.ofMs 30, "10.1.1.1", none⟩
    let params : Json := .obj
      [("ip", .str "10.1.1.1"), ("port", .int 43910), ("secret", .str "hidden"), ("token", .str Uuid.nil.text)]
    ∃ reply after t, x.handle ctx ⟨"", "", "locked"⟩ .ready params s = (.ok (.ok reply), t) ∧
      t.backend.userService? .nil = some after ∧
      reply.get? "key" = (after.property "priv").map .str ∧
      reply.get? "certificate" = (after.property "cert").map .str ∧
      reply.get? "password" = (after.property "priv_passwd").map .str ∧
      after.property "comms_url" = some "https://10.1.1.1:43910/actor/hidden" ∧
      after.osState = .usable ∧ after.stateDate = .ofMs 30 ∧ after.inUse = false ∧ after.inUseDate = .ofMs 30 := by
  intro x events s ctx params
  have hs : Attainable x s := .equipped .start _ _ _ _ _ _ _ fun _ => rfl
  have hrequest : (fromJson params : Decoded ReadyRequest) =
      .ok ⟨Uuid.nil.text, "10.1.1.1", 43910, "hidden"⟩ := rfl
  have hleaves : ∀ m, s.backend.osManager? .nil = some m → ∀ v, m.toReady v = v := by
    intro m hm v
    cases hm
    rfl
  obtain ⟨reply, after, key, certificate, password, hanswer, ⟨hkey, -, hcertificate, -, hpassword⟩,
      ⟨hpriv, hcert, hlock⟩, -, hurl, -, hafter⟩ :=
    ready_stored hs (.inl rfl) hrequest Uuid.parse?_text_nil rfl (.inr rfl)
      (by decide) rfl hleaves
  refine ⟨reply, after, _, hanswer, rfl, ?_, ?_, ?_, hurl, ?_, ?_, ?_, ?_⟩
  · rw [hkey, hpriv]
    rfl
  · rw [hcertificate, hcert]
    rfl
  · rw [hpassword, hlock]
    rfl
  · exact congrArg UserService.osState hafter
  · exact congrArg UserService.stateDate hafter
  · exact congrArg UserService.inUse hafter
  · exact congrArg UserService.inUseDate hafter

end Executor

end SessionBroker
