import SessionBroker.Http.Router
import SessionBroker.Json.Member

/-!
# Requests and responses as JSON

Whoever holds the connections hands a request over as an object and sends out what comes back. The
headers that the broker itself decides about are written with the response.
-/

namespace SessionBroker

namespace HttpRequest

/-- A pair of a name and a value; anything else is a header without a name. -/
def headerOf : Json → String × String
  | .arr [.str name, .str value] => (name, value)
  | _ => ("", "")

def ofJson (j : Json) : HttpRequest where
  method := (j.textAt? "method").getD "POST"
  target := j.textAt "path"
  headers := (j.itemsAt "headers").map headerOf
  peer := (j.textAt? "peer").bind IpAddr.parse?
  body := Bytes.ofText (j.textAt "body")

end HttpRequest

namespace HttpResponse

def header (name : String) (value : Option String) : Option (String × String) := value.map (name, ·)

def headers (r : HttpResponse) : List (String × String) :=
  [header "content-type" r.contentType, header "uds-version" r.version,
    header "response-stamp" (r.stamp.map toString), header "allow" r.allow].filterMap id

def toJson (r : HttpResponse) : Json := Json.object
  [("status", .int r.status),
    ("headers", .arr (r.headers.map fun (name, value) => .arr [.str name, .str value])),
    ("held_ms", .int r.held.ms), ("body", .str r.body)]

end HttpResponse

end SessionBroker
