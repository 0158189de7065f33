import SessionBroker.Protocol.Machine

/-!
# Registration of an actor

Staff registers an actor under the MAC of its machine. An actor that is known already keeps its token,
so its machine need not be told a new one.
-/

namespace SessionBroker

structure RegisterRequest where
  mac : String
  ip : String
  hostname : String
  preCommand : String
  postCommand : String
  runOnceCommand : String
  logLevel : Int
  os : Option String
  custom : Option Json
  version : Option String
deriving Repr

namespace RegisterRequest

def reader : RecordReader RegisterRequest :=
  RegisterRequest.mk <$> .required "mac" <*> .required "ip" <*> .required "hostname"
    <*> .required "pre_command" <*> .required "post_command" <*> .required "run_once_command"
    <*> .requiredWith "log_level" Json.decodeI64 <*> .defaulted "os" none <*> .defaulted "custom" none
    <*> .defaulted "version" none

instance : FromJson RegisterRequest := ⟨reader.read "RegisterRequest"⟩
instance : ToJson RegisterRequest := ⟨fun r => Json.object
  [("mac", toJson r.mac), ("ip", toJson r.ip), ("hostname", toJson r.hostname),
    ("pre_command", toJson r.preCommand), ("post_command", toJson r.postCommand),
    ("run_once_command", toJson r.runOnceCommand), ("log_level", toJson r.logLevel),
    ("os", toJson r.os), ("custom", toJson r.custom), ("version", toJson r.version)]⟩

end RegisterRequest

namespace Register

inductive State
  | lookup (username : String)
  /-- The identity is being stored; the token goes to the caller afterwards. -/
  | store (token : String)

def commands (request : RegisterRequest) : ActorCommands where
  preCommand := request.preCommand
  postCommand := request.postCommand
  runOnceCommand := request.runOnceCommand
  custom := request.custom.getD .null

/-- The identity to be stored. What was registered before keeps its token, MAC and operating system. -/
def identity (request : RegisterRequest) (username source token : String) (now : Instant)
    (existing : Option ActorIdentity) : ActorIdentity :=
  match existing with
  | some known => { known with
      ip := request.ip
      ipFrom := source
      hostname := request.hostname
      logLevel := request.logLevel
      subtype := request.version.getD ""
      commands := commands request
      username := username
      stamp := now }
  | none => {
      token := token
      mac := request.mac
      ip := request.ip
      ipFrom := source
      hostname := request.hostname
      logLevel := request.logLevel
      os := request.os.getD ""
      subtype := request.version.getD ""
      commands := commands request
      username := username
      stamp := now }

/-- Only staff gets past the first step. -/
def start (request : RegisterRequest) (caller : Option StaffUser) : Move State String :=
  match caller with
  | some user => if user.isStaff then .ask (.findActorByMac request.mac) (.lookup user.name)
    else .fail .accessDenied
  | none => .fail .accessDenied

def resume (request : RegisterRequest) (source : String) (now : Instant) (draws : Draws) :
    State → Reply → Move State String
  | .lookup username, .actor existing =>
    let stored := identity request username source draws.token now existing
    .ask (.storeActor stored) (.store stored.token)
  | .lookup _, _ => .unexpected "register lookup"
  | .store token, .stored => .finish token
  | .store _, _ => .unexpected "register store"

def rank : State → Nat
  | .lookup _ => 1
  | .store _ => 0

theorem resume_below (request : RegisterRequest) (source : String) (now : Instant) (draws : Draws)
    (s : State) (reply : Reply) : (resume request source now draws s reply).Below rank (rank s) := by
  unfold resume
  split <;> simp [rank]

def protocol (request : RegisterRequest) (caller : Option StaffUser) (source : String) :
    Protocol State String where
  start := start request caller
  resume := resume request source
  rank := rank
  resume_below := resume_below request source

end Register

end SessionBroker
