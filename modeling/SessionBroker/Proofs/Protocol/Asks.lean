import SessionBroker.Proofs.Protocol.Run

/-!
# What protocols ask for

A protocol enters nothing into the tables of tokens, but for the registration of an actor and the binding of
one: the first stores identities, and the second makes aliases.
-/

namespace SessionBroker

/-- The query enters nothing, or what only this action enters. -/
def Query.Suits (action : Action) : Query → Prop
  | .storeActor _ => action = .register
  | .createAlias _ => action = .bindActor
  | _ => True

open Query (Suits)

theorem Register.protocol_asks (request : RegisterRequest) (caller : Option StaffUser) (source : String) :
    (protocol request caller source).Asks (Suits .register) where
  start := by
    change (start request caller).Asks _
    unfold start
    cases caller with
    | none => trivial
    | some user =>
      dsimp only
      split <;> trivial
  resume now draws s reply := by
    change (resume request source now draws s reply).Asks _
    unfold resume
    split <;> trivial

theorem Binding.protocol_asks (request : BindingRequest) : (protocol request).Asks (Suits .bindActor) where
  start := by
    change (start request).Asks _
    unfold start
    cases request.kind <;> trivial
  resume now draws s reply := by
    have own (service : Uuid) : (askOwnAlias request service).Asks (Suits .bindActor) := by
      unfold askOwnAlias
      cases request.ids <;> trivial
    change (resume request now draws s reply).Asks _
    unfold resume
    split
    all_goals first | trivial | exact own _

theorem Login.protocol_asks (action : Action) (request : LoginRequest) :
    (protocol request).Asks (Suits action) where
  start := trivial
  resume now draws s reply := by
    change (resume request now draws s reply).Asks _
    unfold resume
    split
    all_goals try trivial
    cases request.kind <;> trivial

theorem Logout.protocol_asks (action : Action) (request : LogoutRequest) :
    (protocol request).Asks (Suits action) where
  start := trivial
  resume now draws s reply := by
    change (resume request now draws s reply).Asks _
    unfold resume
    split
    all_goals try trivial
    · split <;> trivial
    · cases request.kind <;> trivial

theorem Ready.protocol_asks (action : Action) (request : ReadyRequest) (clearInUse : Bool)
    (ciphers : Option String) : (protocol request clearInUse ciphers).Asks (Suits action) where
  start := trivial
  resume now draws s reply := by
    change (resume request clearInUse ciphers now draws s reply).Asks _
    unfold resume
    split <;> trivial

theorem Unmanaged.protocol_asks (action : Action) (request : UnmanagedRequest) (ciphers : Option String) :
    (protocol request ciphers).Asks (Suits action) where
  start := trivial
  resume now draws s reply := by
    have issue (service : Uuid) (validId : Option String) :
        (askIssue request service validId).Asks (Suits action) := by
      unfold askIssue
      cases inferIp request.ids validId <;> trivial
    have issued (service : Uuid) (validId : Option String) (reply : CertificateReply) :
        (issued request service validId reply).Asks (Suits action) := by
      cases validId <;> trivial
    change (resume request ciphers now draws s reply).Asks _
    unfold resume
    split
    all_goals first | trivial | exact issue _ _ | exact issued _ _ _ | (split <;> trivial)

end SessionBroker
