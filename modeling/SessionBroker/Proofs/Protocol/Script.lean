import SessionBroker.Proofs.Effect
import SessionBroker.Proofs.Protocol.Run

/-!
# Protocols in direct style

A run of a protocol against a backend is a program that calls the operations of the backend one after the
other. These programs are written out here, and each is proved equal to the run of the protocol, for every
backend and issuer. What is proved of a program is thereby proved of the run.
-/

namespace SessionBroker

namespace Protocol

variable {σ ς α γ : Type}

/-- An operation of storage, within a run. -/
def ofStore (m : StoreM σ γ) : RunM σ γ := fun s =>
  let (r, s) := m s
  (r.mapError .store, s)

variable (p : Protocol ς α) (answer : Query → StoreM σ Reply) (now : Instant) (draws : Draws)

theorem run_eq : p.run answer now draws = p.follow answer now draws p.start :=
  funext fun s => p.run_eq_follow answer now draws s

variable {p answer now draws}

/-- A query is the operation that answers it, and then the move that the reply leads to. -/
theorem follow_asked {query : Query} {st : ς} (m : StoreM σ γ) (f : γ → Reply)
    (h : answer query = m >>= fun x => pure (f x)) :
    p.follow answer now draws (.ask query st)
      = ofStore m >>= fun x => p.follow answer now draws (p.resume now draws st (f x)) := by
  funext s
  rw [follow_ask, h, Effect.run_bind, Effect.run_bind]
  unfold ofStore
  cases m s with
  | mk r t => cases r <;> rfl

/-- A query whose answer needs no storage is the move that the reply leads to. -/
theorem follow_known {query : Query} {st : ς} (reply : Reply) (h : answer query = pure reply) :
    p.follow answer now draws (.ask query st)
      = p.follow answer now draws (p.resume now draws st reply) := by
  funext s
  rw [follow_ask, h]
  rfl

end Protocol

open Protocol (ofStore follow_asked follow_known)

variable {σ : Type} (b : Backend σ) (issuer : Issuer) (now : Instant) (draws : Draws)

namespace Register

def script (request : RegisterRequest) (caller : Option StaffUser) (source : String) :
    Protocol.RunM σ String := do
  match caller.filter (·.isStaff) with
  | none => throw .accessDenied
  | some user =>
    let existing ← ofStore (b.findActorByMac request.mac)
    let stored := identity request user.name source draws.token now existing
    ofStore (b.storeActor stored)
    return stored.token

theorem run_eq_script (request : RegisterRequest) (caller : Option StaffUser) (source : String) :
    b.run issuer (protocol request caller source) now draws
      = script b now draws request caller source := by
  have hstart : (protocol request caller source).start = start request caller := rfl
  unfold Backend.run script
  rw [Protocol.run_eq, hstart]
  rcases caller with _ | ⟨name, _ | _⟩
  · rfl
  · rfl
  · refine (follow_asked (b.findActorByMac request.mac) .actor rfl).trans (bind_congr fun existing => ?_)
    exact follow_asked (b.storeActor _) (fun _ => .stored) rfl

end Register

namespace Login

def script (request : LoginRequest) : Protocol.RunM σ LoginInfo := do
  match ← ofStore (b.openSession request.token request.username draws.session now) with
  | some session => return .ofSession session now
  | none => match request.kind with
    | .managed => throw (.blockAccess "no user service for token")
    | .unmanaged => match ← ofStore (b.notifyService (notification request)) with
      | .ok _ => return .empty
      | .error reason => throw (.notify reason)

theorem run_eq_script (request : LoginRequest) :
    b.run issuer (protocol request) now draws = script b now draws request := by
  unfold Backend.run script
  rw [Protocol.run_eq]
  refine (follow_asked (b.openSession _ _ _ now) .sessionOpened rfl).trans (bind_congr fun opened => ?_)
  cases opened with
  | some session => rfl
  | none =>
    simp only [protocol, resume]
    cases request.kind with
    | managed => rfl
    | unmanaged =>
      refine (follow_asked (b.notifyService _) .notified rfl).trans (bind_congr fun outcome => ?_)
      cases outcome <;> rfl

end Login

namespace Logout

def script (request : LogoutRequest) : Protocol.RunM σ LogoutOutcome := do
  match ← ofStore (b.closeSession request.token request.username request.sessionId now) with
  | some closed =>
    if closed.wasInUse && closed.removableOnLogout then
      ofStore (b.release closed.userService now)
      return .closed true
    else return .closed false
  | none => match request.kind with
    | .managed => throw (.blockAccess "no user service for token")
    | .unmanaged => match ← ofStore (b.notifyService (notification request)) with
      | .ok _ => return .notified
      | .error reason => throw (.notify reason)

theorem run_eq_script (request : LogoutRequest) :
    b.run issuer (protocol request) now draws = script b now request := by
  unfold Backend.run script
  rw [Protocol.run_eq]
  refine (follow_asked (b.closeSession _ _ _ now) .sessionClosed rfl).trans (bind_congr fun closed => ?_)
  cases closed with
  | some closed =>
    simp only [protocol, resume]
    split
    · exact follow_asked (b.release _ now) (fun _ => .stored) rfl
    · rfl
  | none =>
    simp only [protocol, resume]
    cases request.kind with
    | managed => rfl
    | unmanaged =>
      refine (follow_asked (b.notifyService _) .notified rfl).trans (bind_congr fun outcome => ?_)
      cases outcome <;> rfl

end Logout

namespace Ready

def script (request : ReadyRequest) (clearInUse : Bool) (ciphers : Option String) :
    Protocol.RunM σ CertificateReply := do
  match ← ofStore (b.fetchUserService request.token) with
  | none => throw (.blockAccess "no user service for token")
  | some service => match issuer request.ip draws.password with
    | .error reason => throw (.certificate reason)
    | .ok bundle =>
      ofStore (b.commitReady (report request clearInUse service bundle) now)
      return ⟨bundle, ciphers⟩

theorem run_eq_script (request : ReadyRequest) (clearInUse : Bool) (ciphers : Option String) :
    b.run issuer (protocol request clearInUse ciphers) now draws
      = script b issuer now draws request clearInUse ciphers := by
  unfold Backend.run script
  rw [Protocol.run_eq]
  refine (follow_asked (b.fetchUserService _) .userService rfl).trans (bind_congr fun view => ?_)
  cases view with
  | none => rfl
  | some service =>
    refine (follow_known (.certificate (issuer request.ip draws.password)) rfl).trans ?_
    cases issuer request.ip draws.password with
    | error reason => rfl
    | ok bundle => exact follow_asked (b.commitReady _ now) (fun _ => .stored) rfl

end Ready

namespace Binding

/-- The search for the user service, with which every binding ends. -/
def bindTo (request : BindingRequest) (ids : List String) (service : Option Uuid)
    (aliasToken : Option String) : Protocol.RunM σ Binding := do
  match ← ofStore (b.findUserService ⟨ids, service, [.usable, .preparing]⟩) with
  | none => return .notManaged aliasToken
  | some view =>
    let actor ← ofStore (b.prepareActor view.uuid request.version now)
    return .managed view.uuid actor.uniqueId actor.os aliasToken

/-- The alias of a machine that showed a master token. It is made if there is none yet. -/
def ownAlias (service : Uuid) (uniqueId : String) : Protocol.RunM σ String := do
  match ← ofStore (b.findAliasFor service uniqueId) with
  | some found => return found.alias
  | none =>
    ofStore (b.createAlias ⟨draws.token, service, some uniqueId⟩)
    return draws.token

def script (request : BindingRequest) : Protocol.RunM σ Binding := do
  match request.kind with
  | .managed =>
    if ← ofStore (b.validateActorToken request.token) then
      bindTo b now request (managedIds request) none none
    else throw (.blockAccess "invalid actor token")
  | .unmanaged => match ← ofStore (b.findAlias request.token) with
    | some found => bindTo b now request (unmanagedIds request) (some found.service) (some found.alias)
    | none => match ← ofStore (b.findService request.token false) with
      | none => throw (.blockAccess "unknown service token")
      | some record => match request.ids with
        | [] => throw (.missingField "id")
        | first :: _ =>
          let token ← ownAlias b draws record.id (aliasId first)
          bindTo b now request (unmanagedIds request) (some record.id) (some token)

theorem follow_askUserService (request : BindingRequest) (ids : List String) (service : Option Uuid)
    (aliasToken : Option String) :
    (protocol request).follow (b.answer issuer now draws) now draws (askUserService ids service aliasToken)
      = bindTo b now request ids service aliasToken := by
  refine (follow_asked (b.findUserService _) .userService rfl).trans (bind_congr fun view => ?_)
  cases view with
  | none => rfl
  | some view => exact follow_asked (b.prepareActor _ _ now) .prepared rfl

theorem follow_findAliasFor (request : BindingRequest) (service : Uuid) (uniqueId : String) :
    (protocol request).follow (b.answer issuer now draws) now draws
        (.ask (.findAliasFor service uniqueId) (.findOwnAlias service uniqueId))
      = ownAlias b draws service uniqueId >>= fun token =>
        bindTo b now request (unmanagedIds request) (some service) (some token) := by
  unfold ownAlias
  rw [bind_assoc]
  refine (follow_asked (b.findAliasFor _ _) .alias rfl).trans (bind_congr fun found => ?_)
  cases found with
  | some found =>
    rw [pure_bind]
    exact follow_askUserService b issuer now draws request _ _ _
  | none =>
    dsimp only
    rw [bind_assoc]
    refine (follow_asked (b.createAlias _) (fun _ => .stored) rfl).trans (bind_congr fun _ => ?_)
    rw [pure_bind]
    exact follow_askUserService b issuer now draws request _ _ _

theorem run_eq_script (request : BindingRequest) :
    b.run issuer (protocol request) now draws = script b now draws request := by
  have hstart : (protocol request).start = start request := rfl
  unfold Backend.run script
  rw [Protocol.run_eq, hstart, start]
  cases request.kind with
  | managed =>
    refine (follow_asked (b.validateActorToken _) .tokenValid rfl).trans (bind_congr fun valid => ?_)
    cases valid with
    | false => rfl
    | true => exact follow_askUserService b issuer now draws request _ _ _
  | unmanaged =>
    refine (follow_asked (b.findAlias _) .alias rfl).trans (bind_congr fun found => ?_)
    cases found with
    | some found => exact follow_askUserService b issuer now draws request _ _ _
    | none =>
      refine (follow_asked (b.findService _ _) .service rfl).trans (bind_congr fun record => ?_)
      cases record with
      | none => rfl
      | some record =>
        simp only [protocol, resume, askOwnAlias]
        cases request.ids with
        | nil => rfl
        | cons first rest => exact follow_findAliasFor b issuer now draws request _ _

end Binding

namespace Unmanaged

/-- What becomes of the user service of a machine that has just started. Where there is none, the service
that owns the machine is told of the start. -/
def settle (request : UnmanagedRequest) (service : Uuid) (id : String) : Protocol.RunM σ Unit := do
  match ← ofStore (b.findUserService ⟨foldCases (candidateIds request.ids), none, [.usable, .preparing]⟩) with
  | none => ofStore (b.notifyInitialization service id)
  | some view => match ← ofStore (b.closeSession view.uuid.text username "" now) with
    | none => return
    | some closed =>
      if closed.wasInUse && closed.removableOnLogout then ofStore (b.release closed.userService now)

def script (request : UnmanagedRequest) (ciphers : Option String) : Protocol.RunM σ UnmanagedOutcome := do
  match ← ofStore (b.findService request.token true) with
  | none => return .invalidToken
  | some record =>
    let validId ← ofStore (b.resolveValidId record.id (candidateIds request.ids))
    match inferIp request.ids validId with
    | none => throw (.missingField "id")
    | some ip => match issuer ip draws.password with
      | .error reason => throw (.certificate reason)
      | .ok bundle => match validId with
        | none => return .certificate ⟨bundle, ciphers⟩
        | some id =>
          settle b now request record.id id
          ofStore (b.storeIdInfo record.id id ⟨bundle.certificate, request.secret, request.port⟩)
          return .certificate ⟨bundle, ciphers⟩

theorem follow_storeIdInfo (request : UnmanagedRequest) (ciphers : Option String) (known : Recognized) :
    (protocol request ciphers).follow (b.answer issuer now draws) now draws (storeIdInfo known)
      = ofStore (b.storeIdInfo known.service known.id known.info) >>= fun _ =>
        pure (.certificate known.reply) :=
  follow_asked (b.storeIdInfo _ _ _) (fun _ => .stored) rfl

/-- Once the certificate is there, the user service is settled and the service told of the certificate. -/
theorem follow_findUserService (request : UnmanagedRequest) (ciphers : Option String)
    (known : Recognized) :
    (protocol request ciphers).follow (b.answer issuer now draws) now draws
        (.ask (.findUserService ⟨foldCases (candidateIds request.ids), none, [.usable, .preparing]⟩)
          (.findUserService known))
      = settle b now request known.service known.id >>= fun _ =>
        ofStore (b.storeIdInfo known.service known.id known.info) >>= fun _ =>
        pure (.certificate known.reply) := by
  have stored := follow_storeIdInfo b issuer now draws request ciphers known
  unfold settle
  rw [bind_assoc]
  refine (follow_asked (b.findUserService _) .userService rfl).trans (bind_congr fun view => ?_)
  cases view with
  | none =>
    refine (follow_asked (b.notifyInitialization _ _) (fun _ => .stored) rfl).trans ?_
    exact bind_congr fun _ => stored
  | some view =>
    dsimp only
    rw [bind_assoc]
    refine (follow_asked (b.closeSession _ _ _ now) .sessionClosed rfl).trans (bind_congr fun closed => ?_)
    cases closed with
    | none => exact stored
    | some closed =>
      simp only [protocol, resume]
      split
      · refine (follow_asked (b.release _ now) (fun _ => .stored) rfl).trans ?_
        exact bind_congr fun _ => stored
      · exact stored

theorem run_eq_script (request : UnmanagedRequest) (ciphers : Option String) :
    b.run issuer (protocol request ciphers) now draws = script b issuer now draws request ciphers := by
  unfold Backend.run script
  rw [Protocol.run_eq]
  refine (follow_asked (b.findService _ _) .service rfl).trans (bind_congr fun record => ?_)
  cases record with
  | none => rfl
  | some record =>
    refine (follow_asked (b.resolveValidId _ _) .validId rfl).trans (bind_congr fun validId => ?_)
    simp only [protocol, resume, askIssue]
    cases inferIp request.ids validId with
    | none => rfl
    | some ip =>
      refine (follow_known (.certificate (issuer ip draws.password)) rfl).trans ?_
      dsimp only
      cases issuer ip draws.password with
      | error reason => rfl
      | ok bundle =>
        cases validId with
        | none => rfl
        | some id => exact follow_findUserService b issuer now draws request ciphers ⟨_, id, _, _⟩

end Unmanaged

end SessionBroker
