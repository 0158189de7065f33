import SessionBroker.Broker.Backend
import SessionBroker.Proofs.Effect
import SessionBroker.Protocol.Binding
import SessionBroker.Protocol.Login
import SessionBroker.Protocol.Logout
import SessionBroker.Protocol.Register
import SessionBroker.Protocol.Unmanaged

/-!
# What a protocol waits for

Every query asks for one kind of reply, and every state of a protocol waits for one kind. `Backend.answer`
gives replies of the kind that was asked for, and the six protocols only ask for what the state after the
query waits for. Together this keeps a run clear of unexpected replies, whatever the backend answers.
-/

namespace SessionBroker

/-- The constructors of `Reply`, without what they carry. -/
inductive ReplyKind
  | stored | actor | tokenValid | service | «alias» | userService | prepared | sessionOpened
  | sessionClosed | certificate | notified | validId
deriving DecidableEq, Repr

def Reply.kind : Reply → ReplyKind
  | .stored => .stored
  | .actor _ => .actor
  | .tokenValid _ => .tokenValid
  | .service _ => .service
  | .alias _ => .alias
  | .userService _ => .userService
  | .prepared _ => .prepared
  | .sessionOpened _ => .sessionOpened
  | .sessionClosed _ => .sessionClosed
  | .certificate _ => .certificate
  | .notified _ => .notified
  | .validId _ => .validId

/-- The kind of reply that a query asks for. -/
def Query.expects : Query → ReplyKind
  | .findActorByMac _ => .actor
  | .validateActorToken _ => .tokenValid
  | .findService _ _ => .service
  | .findAlias _ | .findAliasFor _ _ => .alias
  | .findUserService _ | .fetchUserService _ => .userService
  | .prepareActor _ _ => .prepared
  | .openSession _ _ => .sessionOpened
  | .closeSession _ _ _ => .sessionClosed
  | .issueCertificate _ => .certificate
  | .notifyService _ => .notified
  | .resolveValidId _ _ => .validId
  | .storeActor _ | .createAlias _ | .release _ | .commitReady _ | .notifyInitialization _ _
  | .storeIdInfo _ _ _ => .stored

/-- A backend answers in the kind that was asked for, or not at all. -/
theorem Backend.answer_kind {σ : Type} (b : Backend σ) {issuer : Issuer} {now : Instant} {draws : Draws}
    {query : Query} {s s' : σ} {reply : Reply}
    (h : b.answer issuer now draws query s = (.ok reply, s')) : reply.kind = query.expects := by
  cases query with
  | issueCertificate ip =>
    cases h
    rfl
  | _ =>
    obtain ⟨_, _, -, h⟩ := Effect.bind_ok h
    cases h
    rfl

namespace Move

variable {σ α : Type} {awaits : σ → ReplyKind}

/-- The move asks for what the next state waits for, and does not fail for want of it. -/
def Fits (awaits : σ → ReplyKind) : Move σ α → Prop
  | .ask query next => query.expects = awaits next
  | .finish _ => True
  | .fail error => ∀ state, error ≠ .unexpectedReply state

@[simp] theorem fits_ask {query : Query} {next : σ} :
    (ask query next : Move σ α).Fits awaits ↔ query.expects = awaits next := Iff.rfl

@[simp] theorem fits_finish {result : α} : (finish result : Move σ α).Fits awaits := trivial

@[simp] theorem fits_fail {error : ProtocolError} :
    (fail error : Move σ α).Fits awaits ↔ ∀ state, error ≠ .unexpectedReply state := Iff.rfl

end Move

/-- `awaits` names the kind of reply that each state waits for: a reply of that kind leads to a move that
fits, and every other reply is unexpected. -/
structure Protocol.Awaits {σ α : Type} (p : Protocol σ α) (awaits : σ → ReplyKind) : Prop where
  start : p.start.Fits awaits
  resume : ∀ now draws s reply, reply.kind = awaits s → (p.resume now draws s reply).Fits awaits
  refuse : ∀ now draws s reply, reply.kind ≠ awaits s →
    ∃ state, p.resume now draws s reply = .fail (.unexpectedReply state)

/-! ## The six protocols -/

namespace Register

def awaits : State → ReplyKind
  | .lookup _ => .actor
  | .store _ => .stored

theorem protocol_awaits (request : RegisterRequest) (caller : Option StaffUser) (source : String) :
    (protocol request caller source).Awaits awaits where
  start := by
    change (start request caller).Fits awaits
    unfold start
    split
    · split <;> simp [Query.expects, awaits]
    · simp
  resume now draws s reply h := by
    cases s with
    | lookup username =>
      cases reply with
      | actor existing => exact rfl
      | _ => cases h
    | store token =>
      cases reply with
      | stored => trivial
      | _ => cases h
  refuse now draws s reply h := by
    cases s <;> cases reply <;> first | exact ⟨_, rfl⟩ | exact absurd rfl h

end Register

namespace Binding

def awaits : State → ReplyKind
  | .validateToken => .tokenValid
  | .findAlias | .findOwnAlias _ _ => .alias
  | .findService => .service
  | .createAlias _ _ => .stored
  | .findUserService _ => .userService
  | .prepare _ _ => .prepared

theorem askOwnAlias_fits (request : BindingRequest) (service : Uuid) :
    (askOwnAlias request service).Fits awaits := by
  unfold askOwnAlias
  split
  · simp
  · exact rfl

theorem protocol_awaits (request : BindingRequest) : (protocol request).Awaits awaits where
  start := by
    change (start request).Fits awaits
    unfold start
    split <;> exact rfl
  resume now draws s reply h := by
    cases s with
    | validateToken =>
      cases reply with
      | tokenValid valid =>
        cases valid
        · simp [protocol, resume]
        · exact rfl
      | _ => cases h
    | findAlias | findOwnAlias =>
      cases reply with
      | «alias» found => cases found <;> exact rfl
      | _ => cases h
    | findService =>
      cases reply with
      | service record =>
        cases record with
        | none => simp [protocol, resume]
        | some record => exact askOwnAlias_fits request record.id
      | _ => cases h
    | createAlias =>
      cases reply with
      | stored => exact rfl
      | _ => cases h
    | findUserService =>
      cases reply with
      | userService view =>
        cases view
        · trivial
        · exact rfl
      | _ => cases h
    | prepare =>
      cases reply with
      | prepared => trivial
      | _ => cases h
  refuse now draws s reply h := by
    cases s <;> cases reply <;> first | exact ⟨_, rfl⟩ | exact absurd rfl h

end Binding

namespace Login

def awaits : State → ReplyKind
  | .opening => .sessionOpened
  | .notify => .notified

theorem protocol_awaits (request : LoginRequest) : (protocol request).Awaits awaits where
  start := rfl
  resume now draws s reply h := by
    cases s with
    | opening =>
      cases reply with
      | sessionOpened session =>
        cases session with
        | none =>
          simp only [protocol, resume]
          split
          · simp
          · exact rfl
        | some session => trivial
      | _ => cases h
    | notify =>
      cases reply with
      | notified outcome => cases outcome <;> simp [protocol, resume]
      | _ => cases h
  refuse now draws s reply h := by
    cases s <;> cases reply <;> first | exact ⟨_, rfl⟩ | exact absurd rfl h

end Login

namespace Logout

def awaits : State → ReplyKind
  | .close => .sessionClosed
  | .release => .stored
  | .notify => .notified

theorem protocol_awaits (request : LogoutRequest) : (protocol request).Awaits awaits where
  start := rfl
  resume now draws s reply h := by
    cases s with
    | close =>
      cases reply with
      | sessionClosed session =>
        cases session with
        | none =>
          simp only [protocol, resume]
          split
          · simp
          · exact rfl
        | some closed =>
          simp only [protocol, resume]
          split
          · exact rfl
          · trivial
      | _ => cases h
    | release =>
      cases reply with
      | stored => trivial
      | _ => cases h
    | notify =>
      cases reply with
      | notified outcome => cases outcome <;> simp [protocol, resume]
      | _ => cases h
  refuse now draws s reply h := by
    cases s <;> cases reply <;> first | exact ⟨_, rfl⟩ | exact absurd rfl h

end Logout

namespace Ready

def awaits : State → ReplyKind
  | .fetch => .userService
  | .issue _ => .certificate
  | .commit _ => .stored

theorem protocol_awaits (request : ReadyRequest) (clearInUse : Bool) (ciphers : Option String) :
    (protocol request clearInUse ciphers).Awaits awaits where
  start := rfl
  resume now draws s reply h := by
    cases s with
    | fetch =>
      cases reply with
      | userService view =>
        cases view
        · simp [protocol, resume]
        · exact rfl
      | _ => cases h
    | issue service =>
      cases reply with
      | certificate bundle =>
        cases bundle
        · simp [protocol, resume]
        · exact rfl
      | _ => cases h
    | commit bundle =>
      cases reply with
      | stored => trivial
      | _ => cases h
  refuse now draws s reply h := by
    cases s <;> cases reply <;> first | exact ⟨_, rfl⟩ | exact absurd rfl h

end Ready

namespace Unmanaged

def awaits : State → ReplyKind
  | .findService => .service
  | .resolveId _ => .validId
  | .issue _ _ => .certificate
  | .findUserService _ => .userService
  | .closeSession _ => .sessionClosed
  | .settle _ | .storeInfo _ => .stored

theorem askIssue_fits (request : UnmanagedRequest) (service : Uuid) (validId : Option String) :
    (askIssue request service validId).Fits awaits := by
  unfold askIssue
  split
  · exact rfl
  · simp

theorem issued_fits (request : UnmanagedRequest) (service : Uuid) (validId : Option String)
    (reply : CertificateReply) : (issued request service validId reply).Fits awaits := by
  unfold issued
  split
  · trivial
  · exact rfl

theorem protocol_awaits (request : UnmanagedRequest) (ciphers : Option String) :
    (protocol request ciphers).Awaits awaits where
  start := rfl
  resume now draws s reply h := by
    cases s with
    | findService =>
      cases reply with
      | service record =>
        cases record
        · trivial
        · exact rfl
      | _ => cases h
    | resolveId service =>
      cases reply with
      | validId id => exact askIssue_fits request service id
      | _ => cases h
    | issue service validId =>
      cases reply with
      | certificate bundle =>
        cases bundle with
        | error reason => simp [protocol, resume]
        | ok bundle => exact issued_fits request service validId ⟨bundle, ciphers⟩
      | _ => cases h
    | findUserService known =>
      cases reply with
      | userService view => cases view <;> exact rfl
      | _ => cases h
    | closeSession known =>
      cases reply with
      | sessionClosed session =>
        cases session with
        | none => exact rfl
        | some closed =>
          simp only [protocol, resume]
          split <;> exact rfl
      | _ => cases h
    | settle known =>
      cases reply with
      | stored => exact rfl
      | _ => cases h
    | storeInfo reply' =>
      cases reply with
      | stored => trivial
      | _ => cases h
  refuse now draws s reply h := by
    cases s <;> cases reply <;> first | exact ⟨_, rfl⟩ | exact absurd rfl h

end Unmanaged

end SessionBroker
