import SessionBroker.Protocol.Machine

/-!
# Binding of an actor

When its machine starts, an actor asks which user service it belongs to. Managed actors show the token
that they were registered with. Unmanaged ones show the master token of a service, for which they get an
alias bound to their first id, or that alias, which they keep.
-/

namespace SessionBroker

structure BindingRequest where
  kind : ActorKind
  version : String
  token : String
  ids : List IdEntry
deriving Repr

namespace BindingRequest

def reader : RecordReader BindingRequest :=
  BindingRequest.mk <$> .required "type" <*> .required "version" <*> .required "token" <*> .required "id"

instance : FromJson BindingRequest := ⟨reader.read "BindingRequest"⟩
instance : ToJson BindingRequest := ⟨fun r => Json.object
  [("type", toJson r.kind), ("version", toJson r.version), ("token", toJson r.token),
    ("id", toJson r.ids)]⟩

end BindingRequest

/-- What an actor learns about its machine. -/
inductive Binding
  /-- A user service claims the machine. -/
  | managed (ownToken : Uuid) (uniqueId : String) (os : Json) (aliasToken : Option String)
  | notManaged (aliasToken : Option String)

/-- Older actors read the token from `token`, newer ones from `own_token`. -/
def Binding.toJson : Binding → Json
  | .managed ownToken uniqueId os aliasToken => Json.object
    [("own_token", .str ownToken.text), ("token", .str ownToken.text),
      ("master_token", SessionBroker.toJson aliasToken), ("unique_id", .str uniqueId), ("os", os)]
  | .notManaged aliasToken => Json.object
    [("own_token", .null), ("token", SessionBroker.toJson aliasToken),
      ("master_token", SessionBroker.toJson aliasToken), ("unique_id", .null), ("os", .null)]

namespace Binding

inductive State
  | validateToken
  | findAlias
  /-- The token was no alias, so it has to be a master token. -/
  | findService
  | findOwnAlias (service : Uuid) (uniqueId : String)
  | createAlias (service : Uuid) («alias» : String)
  | findUserService (aliasToken : Option String)
  | prepare (ownToken : Uuid) (aliasToken : Option String)

/-- How many of the reported MACs a managed actor may be found by. -/
def managedIdLimit : Nat := 5

/-- The ids that a managed actor may be found by. -/
def managedIds (request : BindingRequest) : List String :=
  foldCases (((request.ids.take managedIdLimit).map IdEntry.mac).filter (· ≠ ""))

/-- The ids that an unmanaged actor may be found by. -/
def unmanagedIds (request : BindingRequest) : List String := foldCases (candidateIds request.ids)

/-- The id that an alias is bound to. -/
def aliasId (entry : IdEntry) : String := if entry.mac = "" then entry.ip else entry.mac

def askUserService (ids : List String) (service : Option Uuid) (aliasToken : Option String) :
    Move State Binding :=
  .ask (.findUserService ⟨ids, service, [.usable, .preparing]⟩) (.findUserService aliasToken)

def start (request : BindingRequest) : Move State Binding :=
  match request.kind with
  | .managed => .ask (.validateActorToken request.token) .validateToken
  | .unmanaged => .ask (.findAlias request.token) .findAlias

/-- Looks for the alias of the machine, by its first id. -/
def askOwnAlias (request : BindingRequest) (service : Uuid) : Move State Binding :=
  match request.ids with
  | [] => .fail (.missingField "id")
  | first :: _ => .ask (.findAliasFor service (aliasId first)) (.findOwnAlias service (aliasId first))

def resume (request : BindingRequest) (_now : Instant) (draws : Draws) :
    State → Reply → Move State Binding
  | .validateToken, .tokenValid true => askUserService (managedIds request) none none
  | .validateToken, .tokenValid false => .fail (.blockAccess "invalid actor token")
  | .validateToken, _ => .unexpected "initialize validate"
  | .findAlias, .alias (some found) =>
    askUserService (unmanagedIds request) (some found.service) (some found.alias)
  | .findAlias, .alias none => .ask (.findService request.token false) .findService
  | .findAlias, _ => .unexpected "initialize alias"
  | .findService, .service (some record) => askOwnAlias request record.id
  | .findService, .service none => .fail (.blockAccess "unknown service token")
  | .findService, _ => .unexpected "initialize service"
  | .findOwnAlias service _, .alias (some found) =>
    askUserService (unmanagedIds request) (some service) (some found.alias)
  | .findOwnAlias service uniqueId, .alias none =>
    .ask (.createAlias ⟨draws.token, service, some uniqueId⟩) (.createAlias service draws.token)
  | .findOwnAlias _ _, _ => .unexpected "initialize own alias"
  | .createAlias service token, .stored =>
    askUserService (unmanagedIds request) (some service) (some token)
  | .createAlias _ _, _ => .unexpected "initialize create alias"
  | .findUserService aliasToken, .userService none => .finish (.notManaged aliasToken)
  | .findUserService aliasToken, .userService (some view) =>
    .ask (.prepareActor view.uuid request.version) (.prepare view.uuid aliasToken)
  | .findUserService _, _ => .unexpected "initialize user service"
  | .prepare ownToken aliasToken, .prepared actor =>
    .finish (.managed ownToken actor.uniqueId actor.os aliasToken)
  | .prepare _ _, _ => .unexpected "initialize prepare"

def rank : State → Nat
  | .findAlias => 5
  | .findService => 4
  | .findOwnAlias _ _ => 3
  | .validateToken | .createAlias _ _ => 2
  | .findUserService _ => 1
  | .prepare _ _ => 0

theorem resume_below (request : BindingRequest) (now : Instant)
    (draws : Draws) (s : State) (reply : Reply) :
    (resume request now draws s reply).Below rank (rank s) := by
  unfold resume
  split <;> simp [askUserService, askOwnAlias, rank]
  split <;> simp [rank]

def protocol (request : BindingRequest) : Protocol State Binding where
  start := start request
  resume := resume request
  rank := rank
  resume_below := resume_below request

end Binding

end SessionBroker
