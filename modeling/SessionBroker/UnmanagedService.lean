import SessionBroker.Error
import SessionBroker.Json.Printer
import SessionBroker.Protocol.Query

/-!
# Services with machines of their own

A service may own machines that the broker does not manage. It is told what happens on them, each time
under an id that it recognizes.
-/

namespace SessionBroker

/-- What a service is told. -/
inductive ServiceEvent
  | login (id : String) (remote : Bool)
  | logout (id : String) (remote : Bool)
  | data (id : Option String) (payload : Json)
  | started (id : String)
  | stored (id : String) (info : IdInfo)
deriving Repr

namespace ServiceEvent

def word (b : Bool) : String := if b then "true" else "false"

/-- One line per event. The secret and the certificate of a machine stay out of it. -/
def text : ServiceEvent → String
  | .login id remote => "login " ++ id ++ " " ++ word remote
  | .logout id remote => "logout " ++ id ++ " " ++ word remote
  | .data id payload => "data " ++ id.getD "-" ++ " " ++ payload.compact
  | .started id => "init " ++ id
  | .stored id info => "store " ++ id ++ " " ++ toString info.port

end ServiceEvent

structure UnmanagedService where
  /-- The first of the ids that the service recognizes. -/
  validId : List String → Option String

namespace UnmanagedService

/-- A service that recognizes a fixed list of ids. -/
def recognizing (known : List String) : UnmanagedService := ⟨fun ids => ids.find? known.contains⟩

/-- The event that a notification amounts to. A login and a logout need an id that the service
recognizes, data does not. -/
def notify (service : UnmanagedService) (action : NotifyAction) (ids : List String) (remote : Bool)
    (data : Option Json) : Except ProtocolError ServiceEvent :=
  match action, service.validId ids, data with
  | .login, some id, _ => .ok (.login id remote)
  | .logout, some id, _ => .ok (.logout id remote)
  | .login, none, _ | .logout, none, _ => .error (.notify "no valid id")
  | .data, id, some payload => .ok (.data id payload)
  | .data, _, none => .error (.missingField "data")

end UnmanagedService

/-- Remote desktops name their session types this way. -/
def isRemoteSession (sessionType : String) : Bool :=
  let front := sessionType.toList.take 4
  front = "xrdp".toList || front = "RDP-".toList

end SessionBroker
