import SessionBroker.Json.Decode
import SessionBroker.Text.Case

/-!
# Actor actions

The operations that actors may call, and the three kinds of notification that come in a query string.
-/

namespace SessionBroker

/-- An operation of the actor endpoint. -/
inductive Action
  | test | register | bindActor | ready | ipChange | login | logout | log | ticket | version
  | unmanaged | notify
deriving DecidableEq, Repr

/-- A kind of event that the query string variant reports. -/
inductive NotifyAction
  | login | logout | data
deriving DecidableEq, Repr

/-- A text that names no action. -/
structure ActionParseError where
  literal : String
deriving DecidableEq, Repr

def ActionParseError.message (e : ActionParseError) : String :=
  "Failed to parse the action from " ++ Quoted.text e.literal ++ "."

namespace Action

def all : List Action :=
  [.test, .register, .bindActor, .ready, .ipChange, .login, .logout, .log, .ticket, .version,
    .unmanaged, .notify]

def name : Action → String
  | .test => "test"
  | .register => "register"
  | .bindActor => "initialize"
  | .ready => "ready"
  | .ipChange => "ipchange"
  | .login => "login"
  | .logout => "logout"
  | .log => "log"
  | .ticket => "ticket"
  | .version => "version"
  | .unmanaged => "unmanaged"
  | .notify => "notify"

/-- A blocked source may still register, since only staff can. -/
def bypassesGuard (a : Action) : Bool := a = .register

/-- Actions are named in any letter case. -/
def parse (text : String) : Except ActionParseError Action :=
  let lowered := Case.lower text
  match all.find? (fun a => a.name == lowered) with
  | some a => .ok a
  | none => .error ⟨text⟩

end Action

instance : FromJson Action where
  fromJson
    | .str s => match Action.parse s with
      | .ok a => .ok a
      | .error e => .error (.refused e.message)
    | other => .error (.invalidType other.describe "expecting a known actor action")
instance : ToJson Action := ⟨fun a => .str a.name⟩

namespace NotifyAction

def name : NotifyAction → String
  | .login => "login"
  | .logout => "logout"
  | .data => "data"

def parse : String → Except ActionParseError NotifyAction
  | "login" => .ok .login
  | "logout" => .ok .logout
  | "data" => .ok .data
  | other => .error ⟨other⟩

end NotifyAction

end SessionBroker
