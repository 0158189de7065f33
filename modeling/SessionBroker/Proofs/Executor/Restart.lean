import SessionBroker.Crypto.Certificate
import SessionBroker.Crypto.TaggedXor
import SessionBroker.Proofs.Broker.Search
import SessionBroker.Proofs.Executor.Logout

/-!
# The start of an unmanaged machine from end to end

A service that knows the machine by one of its ids is told of the certificate that the machine gets. Before
that, a user service that bears an id of the machine is logged out, and if there is none the service is told
of the start. A service that does not know the machine hears nothing of it.
-/

namespace SessionBroker

open Protocol (ofStore)

/-- A user may go without the manager touching the id, the state or the sessions of the service. -/
structure OsManager.LetsGo (m : OsManager) : Prop where
  keepsState : m.KeepsStateAtLogout
  sessions : ∀ u username, (m.loggedOut u username).sessions = u.sessions

theorem OsManager.Discreet.letsGo {m : OsManager} (h : m.Discreet) : m.LetsGo where
  keepsState := h.keepsState.loggedOut
  sessions u username := by
    obtain ⟨name, hname⟩ := h.loggedOut u username
    rw [hname]

namespace Broker

variable {b : Broker}

theorem putUserService_services (b : Broker) (id : Uuid) (v : UserService) :
    (b.putUserService id v).services = b.services := by
  unfold putUserService
  split <;> rfl

/-- A service that reacts to its machines is told of them, whatever else has changed. -/
theorem tellService_eq {b' : Broker} {service : Uuid} (h : (b.unmanaged? service).isSome)
    (hb : b'.services = b.services) (event : ServiceEvent) :
    b'.tellService service event = b'.tell (.service service event) := by
  refine if_pos ?_
  unfold unmanaged? at h ⊢
  rwa [hb]

theorem vacated_sessions {manager : Option OsManager} (hm : ∀ m, manager = some m → m.LetsGo) (u : UserService)
    (username sessionId : String) (now : Instant) :
    (vacated u manager username sessionId now).sessions =
      u.sessions.map (UserService.closeSession sessionId now) := by
  unfold vacated departed
  split
  · cases manager with
    | none => rfl
    | some m => exact (hm m rfl).sessions _ username
  · rfl

end Broker

namespace Unmanaged

variable {b : Broker} {request : UnmanagedRequest} {u : UserService}

/-- A user service that an actor may use and that bears one of the ids of the machine, in capitals or in small
letters. -/
structure Bears (b : Broker) (request : UnmanagedRequest) (u : UserService) : Prop where
  kept : b.userService? u.uuid = some u
  usable : u.state = .usable ∨ u.state = .preparing
  named : ∃ id ∈ candidateIds request.ids, u.uniqueId = Case.upper id ∨ u.uniqueId = Case.lower id

theorem bears_iff : Bears b request u ↔
    b.Admitted ⟨foldCases (candidateIds request.ids), none, [.usable, .preparing]⟩ u := by
  have hadmits : b.admits ⟨foldCases (candidateIds request.ids), none, [.usable, .preparing]⟩ u = true ↔
      u.uniqueId ∈ foldCases (candidateIds request.ids) ∧ (u.state = .usable ∨ u.state = .preparing) := by
    simp [Broker.admits, Broker.inScope]
  rw [mem_foldCases] at hadmits
  constructor
  · exact fun h => ⟨h.kept, hadmits.mpr ⟨h.named, h.usable⟩⟩
  · intro h
    obtain ⟨hnamed, husable⟩ := hadmits.mp h.admits
    exact ⟨h.kept, husable, hnamed⟩

/-- Where no user service bears an id of the machine, the service is told of the start. -/
theorem settle_free (hb : b.Kept) {service : Uuid} (hlistens : (b.unmanaged? service).isSome)
    (hfound : b.findUserService ⟨foldCases (candidateIds request.ids), none, [.usable, .preparing]⟩ = none)
    (known : String) (now : Instant) :
    (∀ u, ¬ Bears b request u) ∧
      settle Broker.backend now request service known b =
        (.ok (), b.tell (.service service (.started known))) := by
  have hfind : ofStore (Broker.backend.findUserService
      ⟨foldCases (candidateIds request.ids), none, [.usable, .preparing]⟩) b = (.ok none, b) :=
    Broker.ofStore_reading (congrArg (Option.map UserService.view) hfound)
  constructor
  · exact fun u hu => hb.findUserService_eq_none.mp hfound u (bears_iff.mp hu)
  · rw [← Broker.tellService_eq hlistens rfl]
    unfold settle
    rw [Effect.run_bind_of_ok hfind]
    rfl

/-- Otherwise the first of those that bear one is logged out. -/
theorem settle_bound (hb : b.Kept) (hgo : b.Hooks OsManager.LetsGo)
    (hfound : b.findUserService ⟨foldCases (candidateIds request.ids), none, [.usable, .preparing]⟩ = some u)
    (service : Uuid) (known : String) (now : Instant) :
    let manager := b.osManager? u.pool
    (Bears b request u ∧ ∀ w, Bears b request w → u.seniority ≤ w.seniority) ∧
      settle Broker.backend now request service known b =
        (.ok (), { b.putUserService u.uuid (Broker.dismissed u manager username "" now) with
          journal := b.journal ++ Broker.farewell u manager username }) := by
  intro manager
  obtain ⟨hadmitted, hleast⟩ := hb.findUserService_eq_some.mp hfound
  have hu : Bears b request u := bears_iff.mpr hadmitted
  have hsettle := settle_held (hb.holds hu.kept) rfl (fun m hm => (hgo.of_pool hm).keepsState)
    (ServiceState.isValid_iff.mpr hu.usable) hfound rfl service known now
  rw [Broker.putUserService_journaled] at hsettle
  exact ⟨⟨hu, fun w hw => hleast w (bears_iff.mp hw)⟩, hsettle⟩

end Unmanaged

namespace Executor

variable {config : BrokerConfig} {cipher : Cipher} {issuer : Issuer} {s : State Broker TicketTable}
  {ctx : RequestContext} {draws : Draws} {params : Json} {request : UnmanagedRequest}

theorem handle_unmanaged {reply : CertificateReply} {b : Broker}
    (hrequest : (fromJson params : Decoded UnmanagedRequest) = .ok request)
    (hpassed : (inMemory config cipher issuer).isBlocked ctx s = false)
    (hrun : Broker.backend.run issuer (Unmanaged.protocol request (inMemory config cipher issuer).ciphers) ctx.now
      draws s.backend = (.ok (.certificate reply), b)) :
    (inMemory config cipher issuer).handle ctx draws .unmanaged params s =
      (.ok (.ok (toJson reply)), { s with backend := b, counters := Guard.clear s.counters ctx.source }) := by
  let x := inMemory config cipher issuer
  have hdispatch : x.dispatch ctx draws .unmanaged params = parameters UnmanagedRequest params >>= fun request =>
      x.run (Unmanaged.protocol request x.ciphers) ctx draws >>= _ := rfl
  exact handle_answered ctx hdispatch rfl hpassed hrequest hrun fun _ => rfl

/-- The start of a machine whose token is that of a service, or an alias of it, and whose address is known, is
answered with a certificate. If the service knows the machine by an id, it is told of this certificate under that
id, once. Before that it is told of the start where no user service bears an id of the machine. Otherwise the user
service of these that was created first is logged out: all its sessions are closed, it is out of use, and it goes
exactly if it was in use and its OS manager does not want it to stay. If the service does not know the machine,
nothing is changed and nobody is told of anything. -/
theorem restart_exact {record : ServiceRecord} {ip : String}
    (hs : Attainable (inMemory config cipher trialIssuer) s)
    (hrequest : (fromJson params : Decoded UnmanagedRequest) = .ok request)
    (hservice : s.backend.findService request.token true = some record)
    (hip : Unmanaged.inferIp request.ids
      ((s.backend.unmanaged? record.id).bind (·.validId (candidateIds request.ids))) = some ip) (hknown : ip ≠ "")
    (hpassed : (inMemory config cipher trialIssuer).isBlocked ctx s = false)
    (hgo : s.backend.Hooks OsManager.LetsGo) :
    let x := inMemory config cipher trialIssuer
    let recognized := (s.backend.unmanaged? record.id).bind (·.validId (candidateIds request.ids))
    ∃ reply certificate b,
      x.handle ctx draws .unmanaged params s =
        (.ok (.ok reply), { s with backend := b, counters := Guard.clear s.counters ctx.source }) ∧
      reply.get? "certificate" = some (.str certificate) ∧
      (recognized = none → b = s.backend) ∧
      ∀ valid, recognized = some valid →
        let stored : Notice := .service record.id (.stored valid ⟨certificate, request.secret, request.port⟩)
        ((∀ u, ¬ Unmanaged.Bears s.backend request u) ∧
          b = { s.backend with
            journal := s.backend.journal ++ [.service record.id (.started valid), stored] }) ∨
        ∃ u, Unmanaged.Bears s.backend request u ∧
          (∀ w, Unmanaged.Bears s.backend request w → u.seniority ≤ w.seniority) ∧
          let manager := s.backend.osManager? u.pool
          let left := Broker.vacated u manager Unmanaged.username "" ctx.now
          let gone := u.inUse && Broker.removable manager left
          left.sessions = (u.sessions.map fun session =>
            if session.finish = none then { session with finish := some ctx.now } else session) ∧
          left.inUse = false ∧ left.state = u.state ∧
          b = { s.backend.putUserService u.uuid
              (if gone then { left with state := .removable, stateDate := ctx.now } else left) with
            journal := s.backend.journal ++ Broker.farewell u manager Unmanaged.username ++ [stored] } := by
  intro x recognized
  have hkept := hs.kept
  let bundle : CertificateBundle := ⟨⟨"faux-key-" ++ ip⟩, "faux-cert-" ++ ip, ⟨draws.password⟩⟩
  have hissued : trialIssuer ip draws.password = .ok bundle := if_neg hknown
  have answered {b : Broker} (hrun : Broker.backend.run trialIssuer (Unmanaged.protocol request x.ciphers) ctx.now
      draws s.backend = (.ok (.certificate ⟨bundle, x.ciphers⟩), b)) :=
    handle_unmanaged hrequest hpassed hrun
  cases hvalid : (s.backend.unmanaged? record.id).bind (·.validId (candidateIds request.ids)) with
  | none =>
    rw [hvalid] at hip
    have hrun := Unmanaged.run_unrecognized ctx.now x.ciphers hservice hvalid hip hissued
    refine ⟨_, bundle.certificate, s.backend, answered hrun, rfl, fun _ => rfl, fun valid hsome => ?_⟩
    exact nomatch hvalid.symm.trans hsome
  | some valid =>
    rw [hvalid] at hip
    have hlistens : (s.backend.unmanaged? record.id).isSome := by
      obtain ⟨service, hunmanaged, -⟩ := Option.bind_eq_some_iff.mp hvalid
      exact Option.isSome_of_mem hunmanaged
    have told {b : Broker}
        (hsettle : Unmanaged.settle Broker.backend ctx.now request record.id valid s.backend = (.ok (), b))
        (hb : b.services = s.backend.services) :
        x.handle ctx draws .unmanaged params s = (.ok (.ok (toJson (CertificateReply.mk bundle x.ciphers))),
          { s with
            backend := b.tell (.service record.id
              (.stored valid ⟨bundle.certificate, request.secret, request.port⟩))
            counters := Guard.clear s.counters ctx.source }) := by
      rw [← Broker.tellService_eq hlistens hb]
      exact answered (Unmanaged.run_recognized ctx.now x.ciphers hservice hvalid hip hissued hsettle)
    have only {known : String} (h : recognized = some known) : valid = known :=
      Option.some_inj.mp (hvalid.symm.trans h)
    cases hfound : s.backend.findUserService
        ⟨foldCases (candidateIds request.ids), none, [.usable, .preparing]⟩ with
    | none =>
      obtain ⟨hfree, hsettle⟩ := Unmanaged.settle_free hkept hlistens hfound valid ctx.now
      refine ⟨_, bundle.certificate, _, told hsettle rfl, rfl, fun hnone => ?_, fun known hsome => ?_⟩
      · exact nomatch hvalid.symm.trans hnone
      · obtain rfl := only hsome
        refine .inl ⟨hfree, ?_⟩
        simp [Broker.tell]
    | some u =>
      obtain ⟨⟨hbears, hleast⟩, hsettle⟩ := Unmanaged.settle_bound hkept hgo hfound record.id valid ctx.now
      have hm : ∀ m, s.backend.osManager? u.pool = some m → m.LetsGo := fun m hm => hgo.of_pool hm
      have hkeeps : ∀ m, s.backend.osManager? u.pool = some m → m.KeepsStateAtLogout :=
        fun m h => (hm m h).keepsState
      have hsessions := Broker.vacated_sessions hm u Unmanaged.username "" ctx.now
      rw [UserService.closeSession_all] at hsessions
      rw [Broker.dismissed_eq hkeeps _ _ _ _ (ServiceState.isValid_iff.mpr hbears.usable)] at hsettle
      refine ⟨_, bundle.certificate, _, told hsettle (Broker.putUserService_services ..), rfl, fun hnone => ?_,
        fun known hsome => ?_⟩
      · exact nomatch hvalid.symm.trans hnone
      · obtain rfl := only hsome
        refine .inr ⟨u, hbears, hleast, hsessions, Broker.vacated_inUse .., Broker.vacated_state hkeeps .., ?_⟩
        rfl

/-- A machine restarts under the eyes of the service that owns it, and the user who was there has left. -/
theorem restart_exact_desk :
    let x := inMemory .standard TaggedXor.cipher trialIssuer
    let fresh := UserService.fresh .nil .nil "AA:BB" "desk" .l1 .epoch
    let seated : UserService → UserService := fun u => (u.startSession "first" (.ofMs 10)).setInUse true (.ofMs 10)
    let lab : Event := .administer (.addService ⟨.nil, "lab", some "master"⟩ (some (.recognizing ["aa:bb"])))
    let events : List Event :=
      [.administer (.addPool ⟨.nil, .nil, "pool", none⟩ (some OsPolicy.standard.manager) ⟨.zero, 0⟩),
        .administer (.addUserService fresh ⟨true, fun _ => .finished⟩ .epoch),
        .administer (.edit .nil seated)]
    let s := x.after events (lab.happen x .initial)
    let ctx : RequestContext := ⟨.ofMs 30, "10.1.1.1", none⟩
    let params : Json := .obj
      [("id", .arr [.obj [("ip", .str "10.0.0.2"), ("mac", .str "aa:bb")]]), ("port", .int 43910),
        ("secret", .str "hidden"), ("token", .str "master")]
    ∃ reply certificate t after, x.handle ctx ⟨"", "", ""⟩ .unmanaged params s = (.ok (.ok reply), t) ∧
      reply.get? "certificate" = some (.str certificate) ∧
      t.backend.userService? .nil = some after ∧
      after.sessions = [⟨"first", .ofMs 10, some (.ofMs 30)⟩] ∧ after.inUse = false ∧
      after.state = .removable ∧ after.stateDate = .ofMs 30 ∧
      ∃ notices, t.backend.journal =
        s.backend.journal ++ notices ++ [.service .nil (.stored "aa:bb" ⟨certificate, "hidden", 43910⟩)] := by
  intro x fresh seated lab events s ctx params
  have hs : Attainable x s := .equipped (.next .start lab ⟨trivial, trivial⟩) _ _ _ _ _ _ _ fun _ => rfl
  have hgo : s.backend.Hooks OsManager.LetsGo := by
    intro row hrow m hm
    obtain rfl := List.mem_singleton.mp hrow
    cases hm
    exact (OsPolicy.manager_discreet _).letsGo
  have hrequest : (fromJson params : Decoded UnmanagedRequest) =
      .ok ⟨"master", [⟨"aa:bb", "10.0.0.2"⟩], "hidden", 43910⟩ := rfl
  have hvalid : (s.backend.unmanaged? .nil).bind (·.validId (candidateIds [⟨"aa:bb", "10.0.0.2"⟩])) = some "aa:bb" := by
    decide +kernel
  have hip : Unmanaged.inferIp [⟨"aa:bb", "10.0.0.2"⟩]
      ((s.backend.unmanaged? .nil).bind (·.validId (candidateIds [⟨"aa:bb", "10.0.0.2"⟩]))) = some "10.0.0.2" := by
    decide +kernel
  obtain ⟨reply, certificate, b, hanswer, hcertificate, -, hrecognized⟩ :=
    @restart_exact _ _ s ctx ⟨"", "", ""⟩ _ _ _ _ hs hrequest rfl hip (by decide) rfl hgo
  have hdesk : Unmanaged.Bears s.backend ⟨"master", [⟨"aa:bb", "10.0.0.2"⟩], "hidden", 43910⟩ (seated fresh) :=
    ⟨rfl, .inr rfl, "aa:bb", by decide +kernel, .inl (by decide +kernel)⟩
  rcases hrecognized "aa:bb" hvalid with ⟨hfree, -⟩ | ⟨u, hu, -, hsessions, hidle, -, hb⟩
  · exact absurd hdesk (hfree _)
  · obtain ⟨row, hrow, hrecord⟩ := Option.map_eq_some_iff.mp hu.kept
    have honly := List.mem_singleton.mp (Table.mem_of_get? hrow)
    obtain ⟨-, rfl⟩ := Prod.mk.inj honly
    cases hrecord
    exact ⟨reply, certificate, _, _, hanswer, hcertificate, congrArg (Broker.userService? · .nil) hb, hsessions, hidle,
      rfl, rfl, _, congrArg Broker.journal hb⟩

end Executor

end SessionBroker
