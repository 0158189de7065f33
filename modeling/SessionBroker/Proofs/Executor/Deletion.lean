import SessionBroker.Crypto.Certificate
import SessionBroker.Crypto.TaggedXor
import SessionBroker.Proofs.Broker.Deletion
import SessionBroker.Proofs.Executor.Frozen

/-!
# Deleted user services

In whatever state an executor is, a deletion leaves nothing of a user service behind, and nothing that is left
belongs to nobody. As long as no other user service is admitted under the id, the actor that still presents it is
refused, whether it reports a version, sends a log message, opens or closes a session or reports that its machine
is ready.
-/

namespace SessionBroker.Executor

variable {config : BrokerConfig} {cipher : Cipher} {issuer : Issuer} {s : State Broker TicketTable} {id : Uuid}
  {event : Event} {events : List Event} {u : UserService} {token : String}

/-! ## Log entries -/

theorem Event.happen_logsOwned (hkeyed : s.backend.Keyed) (h : s.backend.LogsOwned) (event : Event) :
    (event.happen (inMemory config cipher issuer) s).backend.LogsOwned :=
  Event.happen_keeps Broker.backend_logsOwned (fun task _ => task.perform_logsOwned hkeyed h) h

theorem Attainable.logsOwned (h : Attainable (inMemory config cipher issuer) s) : s.backend.LogsOwned := by
  induction h with
  | start => exact fun entry hentry => absurd hentry List.not_mem_nil
  | next before event _ ih =>
    have hkeyed : Broker.Keyed _ := fun id u hu => (before.kept.holds hu).uuid
    exact event.happen_logsOwned hkeyed ih

/-! ## Once it is gone -/

/-- The event has a user service admitted under the id. -/
def Event.Admits (id : Uuid) (s : State Broker TicketTable) : Event → Prop
  | administer (.addUserService service provider now) =>
    (Broker.addUserService service provider now s.backend).1 = .ok (some id)
  | _ => False

/-- A user service that is not there does not come otherwise. -/
theorem Event.happen_absent (hadmits : ¬ event.Admits id s) (habsent : s.backend.userService? id = none) :
    (event.happen (inMemory config cipher issuer) s).backend.userService? id = none := by
  by_cases hsupplants : event.Supplants id s
  · cases event with
    | administer task =>
      cases task with
      | addUserService service provider now => exact absurd hsupplants hadmits
      | deleteUserService id' now =>
        exact (s.backend.userService?_deleteUserService id' id now).trans (if_pos hsupplants)
      | _ => exact hsupplants.elim
    | _ => exact hsupplants.elim
  · have hpresent : ((event.happen (inMemory config cipher issuer) s).backend.userService? id).isSome = false := by
      rw [Event.happen_present hsupplants, habsent]
      rfl
    exact Option.not_isSome_iff_eq_none.mp (by simp [hpresent])

theorem after_absent (hadmits : Meets (inMemory config cipher issuer) (fun s event => ¬ event.Admits id s) events s)
    (habsent : s.backend.userService? id = none) :
    ((inMemory config cipher issuer).after events s).backend.userService? id = none := by
  induction events generalizing s with
  | nil => exact habsent
  | cons event rest ih => exact ih hadmits.2 (Event.happen_absent hadmits.1 habsent)

/-- The token by which a call names a user service, and the kind of actor that presents it. -/
def Call.names : Call → Option (String × ActorKind)
  | action _ _ .version params => presented .version params
  | action _ _ .log params => presented .log params
  | call => call.presents

/-- A managed actor whose token names no user service at all is refused. -/
theorem take_absent {call : Call} (h : call.names = some (token, .managed))
    (habsent : s.backend.tokenUserService? token = none) :
    ((inMemory config cipher issuer).take call s).1 =
      .error (if (inMemory config cipher issuer).isBlocked call.ctx s then .blocked else .accessDenied) := by
  have closed (hpresents : call.presents = some (token, .managed)) :
      ((inMemory config cipher issuer).take call s).1 =
        .error (if (inMemory config cipher issuer).isBlocked call.ctx s then .blocked else .accessDenied) := by
    refine take_closed hpresents ?_
    unfold Broker.validUserService?
    rw [habsent]
    rfl
  cases call with
  | notice ctx draws params => exact closed h
  | action ctx draws action params =>
    cases action with
    | version =>
      obtain ⟨request, hrequest, htoken⟩ := presentedBy_some h
      obtain ⟨rfl, -⟩ := Prod.mk.inj htoken
      refine handle_refused rfl ?_
      rw [dispatch_version ctx s draws hrequest, habsent]
    | log =>
      obtain ⟨request, hrequest, htoken⟩ := presentedBy_some h
      obtain ⟨rfl, -⟩ := Prod.mk.inj htoken
      refine handle_refused rfl ?_
      rw [dispatch_log ctx s draws hrequest, habsent]
    | _ => exact closed h

/-! ## Deletions -/

/-- In every state that an executor comes to, without OS managers or changes that touch ids, each log entry belongs
to a user service that is there. The deletion of one gives its record back, with the sessions that were open ended
and the others as they were. It takes the record, the log entries and the environment of that user service, and
leaves all other records, log entries, environments and tables as they are. Whatever happens afterwards, unless
another user service is admitted under the id, an actor that presents it is refused. -/
theorem deletion_exact (hs : Attainable (inMemory config cipher issuer) s) :
    (∀ entry ∈ s.backend.logs, (s.backend.userService? entry.owner).isSome) ∧
      ∀ id u now, s.backend.userService? id = some u →
        let x := inMemory config cipher issuer
        let deletion := Broker.deleteUserService id now s.backend
        let ended := { u with
          sessions := u.sessions.map fun s => if s.finish = none then { s with finish := some now } else s }
        deletion.1 = .ok ended ∧ ended.openSessions = [] ∧ Broker.Deleted id s.backend deletion.2 ∧
          ∀ events, Meets x (fun s event => ¬ event.Admits id s) events { s with backend := deletion.2 } →
            ∀ call token, Call.names call = some (token, .managed) → Uuid.parse? token = some id →
              let t := x.after events { s with backend := deletion.2 }
              (x.take call t).1 = .error (if x.isBlocked call.ctx t then .blocked else .accessDenied) := by
  refine ⟨hs.logsOwned, ?_⟩
  intro id u now hu x deletion ended
  obtain ⟨hresult, hdeleted⟩ := (hs.kept.holds hu).deleteUserService now
  have hended : u.endSession "" now = ended := by
    unfold UserService.endSession
    rw [UserService.closeSession_all]
  have hopen : ended.openSessions = [] := by
    rw [← hended]
    exact u.openSessions_endSession_all now
  refine ⟨hended ▸ hresult, hopen, hdeleted, ?_⟩
  intro events hadmits call token hnames hid t
  have habsent : t.backend.userService? id = none := by
    refine after_absent hadmits ?_
    unfold Broker.userService?
    rw [show deletion.2.userServices.get? id = none from hdeleted.gone]
    rfl
  refine take_absent hnames ?_
  unfold Broker.tokenUserService?
  rw [hid, Option.bind_some]
  exact habsent

/-- A user service with a log entry and an open session is deleted. The session has ended, the entry is gone, and
the machine that reports its version a day later is refused. -/
theorem deletion_exact_logged :
    let x := inMemory .standard TaggedXor.cipher trialIssuer
    let token := Uuid.nil.text
    let s := x.after (trialArrival OsPolicy.standard.manager ⟨false, fun _ => .finished⟩ ++
      [.appendLog token .info "hello" .epoch, .query (.openSession token "ann") .epoch ⟨"", "session", ""⟩]) .initial
    let deletion := Broker.deleteUserService .nil (.ofSeconds 60) s.backend
    let later : RequestContext := ⟨.ofSeconds 86400, "10.1.1.1", none⟩
    let version := Call.action later ⟨"", "", ""⟩ .version
      (.obj [("ip", .str "10.0.0.2"), ("token", .str token), ("version", .str "4.0.0")])
    Attainable x s ∧ s.backend.logs.map (·.message) = ["hello"] ∧ deletion.2.logs = [] ∧
      deletion.1.toOption.map (·.sessions) = some [⟨"session", .epoch, some (.ofSeconds 60)⟩] ∧
      (x.take version { s with backend := deletion.2 }).1 = .error .accessDenied := by
  intro x token s deletion later version
  have hs : Attainable x s := by
    refine .arrival (OsPolicy.standard.manager_spares UserService.uuid_lasting) _ ?_
    simp [Event.SparesShown]
  obtain ⟨u, hu⟩ := Option.isSome_iff_exists.mp (show (s.backend.userService? .nil).isSome by decide +kernel)
  obtain ⟨-, hdeletion⟩ := deletion_exact hs
  obtain ⟨-, -, hdeleted, hrefused⟩ := hdeletion .nil u (.ofSeconds 60) hu
  have hnames : version.names = some (token, .managed) := by decide +kernel
  refine ⟨hs, by decide +kernel, ?_, by decide +kernel, ?_⟩
  · rw [show deletion.2.logs = _ from hdeleted.logs]
    decide +kernel
  · exact hrefused [] trivial version token hnames (by decide +kernel)

end SessionBroker.Executor
