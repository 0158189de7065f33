import SessionBroker.Executor.Basic
import SessionBroker.Http.Stamp
import SessionBroker.Http.Url
import SessionBroker.Net.Address

/-!
# The HTTP surface

Every action has a path of its own, to which its parameters are posted. Only the notification is a GET,
with its parameters in the query. A call counts against the address of the peer, unless the peer is a
trusted proxy and names another.
-/

namespace SessionBroker

structure HttpRequest where
  method : String
  target : String
  headers : List (String × String)
  peer : Option IpAddr
  body : Bytes
deriving Repr

structure HttpResponse where
  status : Nat
  contentType : Option String
  /-- The version of the broker. -/
  version : Option String
  stamp : Option Int
  /-- The methods that are possible where the one used is not. -/
  allow : Option String
  /-- How long the response is held back. -/
  held : Duration
  body : String
deriving Repr

namespace HttpRequest

/-- The value of the first header of a name, if it is visible ASCII. -/
def header? (r : HttpRequest) (name : String) : Option String :=
  match r.headers.find? fun h => h.1.toLower = name with
  | some (_, value) =>
    if value.toList.all fun c => c = '\t' || (32 ≤ c.toNat && c.toNat < 127) then some value else none
  | none => none

/-- The address that a forwarding header names first. -/
def forwardedFor (r : HttpRequest) : Option String :=
  (r.header? "x-forwarded-for").bind fun value =>
    let first := CodePoints.trim (value.toList.takeWhile (· ≠ ','))
    if first.isEmpty then none else some (String.ofList first)

/-- The address that failures of the call count against. -/
def source (r : HttpRequest) (trustedProxies : List IpAddr) : String :=
  match r.peer with
  | none => "unknown"
  | some peer =>
    if trustedProxies.contains peer then r.forwardedFor.getD peer.text else peer.text

end HttpRequest

structure Router (σ τ : Type) where
  executor : Executor σ τ
  trustedProxies : List IpAddr

namespace Router

/-- What a router keeps from request to request. -/
structure State (σ τ : Type) where
  executor : Executor.State σ τ
  /-- The stamp of the last response. -/
  stamp : Int

variable {σ τ : Type}

def actorPath : String := "/uds/rest/actor/v3/"

def authHeader : String := "x-auth-token"

def maxBody : Nat := 1048576

def textType : String := "text/plain; charset=utf-8"

def jsonType : String := "application/json"

/-- The last part of a path that leads to an action, still with its percent signs. -/
def segment? (path : String) : Option String :=
  let lead := actorPath.toList
  if lead.isPrefixOf path.toList then
    let rest := path.toList.drop lead.length
    if rest.isEmpty || rest.contains '/' then none else some (String.ofList rest)
  else none

/-- A response of the surface itself. -/
def bare (status : Nat) (contentType allow : Option String) (body : String) : HttpResponse :=
  ⟨status, contentType, none, none, allow, .zero, body⟩

/-- Text that may stand in a header. -/
def headerText? (s : String) : Option String :=
  if s.toList.all fun c => c = '\t' || (32 ≤ c.toNat && c.toNat ≠ 127) then some s else none

/-- A response to a call. It takes the next stamp. -/
def respond (r : Router σ τ) (now : Instant) (status : Nat) (contentType : String) (held : Duration)
    (body : String) : StateM (State σ τ) HttpResponse := do
  let s ← get
  let stamp := nextStamp now s.stamp
  set { s with stamp := stamp }
  return {
    status := status
    contentType := some contentType
    version := headerText? r.executor.version
    stamp := some stamp
    allow := none
    held := held
    body := body }

def replyBody (r : Router σ τ) (now : Instant) (reply : ActorReply) : Json :=
  let members := [("result", reply.result), ("stamp", .int now.seconds),
    ("version", .str r.executor.version)]
  Json.object (match reply.error with
    | some error => members ++ [("error", .str error)]
    | none => members)

/-- The status and the text that a failure is shown as. -/
def failure : ActorError → Nat × String
  | .requestError _ | .missingField _ => (400, "Invalid parameters")
  | .unknownAction name | .notFound name => (404, "Method not found: " ++ name)
  | _ => (403, "Access denied")

/-- No response is held back longer than this, which is 30 years. -/
def longestHold : Duration := .ofSeconds 946080000

/-- How long a blocked source waits for its response. -/
def hold (r : Router σ τ) : Duration := ⟨min r.executor.guard.blockDelay.ms longestHold.ms⟩

/-- The response to the outcome of a call. A blocked source waits for it. -/
def finish (r : Router σ τ) (now : Instant) (outcome : Except ActorError ActorReply) :
    StateM (State σ τ) HttpResponse :=
  match outcome with
  | .ok reply => r.respond now 200 jsonType .zero (r.replyBody now reply).compact
  | .error e =>
    let held := if e = .blocked then r.hold else .zero
    r.respond now (failure e).1 textType held (failure e).2

def call (m : Executor.CallM σ τ ActorReply) : StateM (State σ τ) (Except ActorError ActorReply) :=
  fun s =>
    let (outcome, executor) := m s.executor
    (outcome, { s with executor := executor })

def isBlankByte (b : UInt8) : Bool := b = 32 || b = 9 || b = 10 || b = 12 || b = 13

/-- The parameters in a body. A blank body has none. -/
def bodyParams (body : Bytes) : Except ActorError Json :=
  if maxBody < body.length then .error (.requestError "the body is too long")
  else if body.all isBlankByte then .ok (.obj [])
  else match Json.parseBytes? body with
    | some params => .ok params
    | none => .error (.requestError "the body is no JSON")

/-- Only a registration looks at who makes the call. -/
def caller (r : Router σ τ) (action : Action) (request : HttpRequest) (s : State σ τ) :
    Option StaffUser :=
  if action = .register then
    (request.header? authHeader).bind fun bearer => r.executor.authenticate bearer s.executor
  else none

def post (r : Router σ τ) (now : Instant) (draws : Draws) (name : String) (request : HttpRequest) :
    StateM (State σ τ) HttpResponse := do
  match Action.parse name with
  | .error _ => r.finish now (.error (.unknownAction name))
  | .ok action =>
    let ctx : RequestContext :=
      ⟨now, request.source r.trustedProxies, r.caller action request (← get)⟩
    match bodyParams request.body with
    | .error e => r.finish now (.error e)
    | .ok params => r.finish now (← call (r.executor.handle ctx draws action params))

/-- The path of the notification, in any letter case. -/
def isNotify (name : String) : Bool := name.toLower = Action.notify.name

def fetch (r : Router σ τ) (now : Instant) (draws : Draws) (name query : String)
    (request : HttpRequest) : StateM (State σ τ) HttpResponse := do
  if isNotify name then
    let ctx : RequestContext := ⟨now, request.source r.trustedProxies, none⟩
    let params := Json.object ((Url.queryPairs query).map fun (k, v) => (k, .str v))
    r.finish now (← call (r.executor.notify ctx draws params))
  else r.finish now (.error (.unknownAction name))

/-- Answers a request. A HEAD gets what a GET would, without the body. -/
def serve (r : Router σ τ) (now : Instant) (draws : Draws) (request : HttpRequest) :
    StateM (State σ τ) HttpResponse := do
  let (path, query) := Url.splitTarget request.target
  match segment? path with
  | none => return bare 404 none none ""
  | some segment =>
    let isHead := request.method = "HEAD"
    if !isHead && request.method ≠ "GET" && request.method ≠ "POST" then
      return bare 405 none (some "GET,HEAD,POST") ""
    let response ← match (Url.percentDecode (Bytes.ofText segment)).text? with
      | none => pure (bare 400 (some textType) none "Invalid URL: Invalid UTF-8 in \x60action\x60")
      | some name =>
        if request.method = "POST" then r.post now draws name request
        else r.fetch now draws name query request
    return if isHead then { response with body := "" } else response

end Router

end SessionBroker
