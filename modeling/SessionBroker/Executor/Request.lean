import SessionBroker.Error
import SessionBroker.Json.Reader
import SessionBroker.Protocol.Query

/-!
# Requests that need no protocol

The parameters of the smaller actions, and the ids of a notification, which may come as the text of a
JSON list.
-/

namespace SessionBroker

structure TestRequest where
  token : String
  kind : ActorKind
deriving Repr

def TestRequest.reader : RecordReader TestRequest :=
  TestRequest.mk <$> .required "token" <*> .defaulted "type" .managed

instance : FromJson TestRequest := ⟨TestRequest.reader.read "TestRequest"⟩

structure TicketRequest where
  token : String
  ticket : String
deriving Repr

def TicketRequest.reader : RecordReader TicketRequest :=
  TicketRequest.mk <$> .required "token" <*> .required "ticket"

instance : FromJson TicketRequest := ⟨TicketRequest.reader.read "TicketRequest"⟩

structure VersionRequest where
  token : String
  version : String
  ip : String
deriving Repr

def VersionRequest.reader : RecordReader VersionRequest :=
  VersionRequest.mk <$> .required "token" <*> .required "version" <*> .required "ip"

instance : FromJson VersionRequest := ⟨VersionRequest.reader.read "VersionRequest"⟩

structure LogRequest where
  token : String
  level : Int
  message : String
deriving Repr

def LogRequest.reader : RecordReader LogRequest :=
  LogRequest.mk <$> .required "token" <*> .requiredWith "level" Json.decodeI64 <*> .required "message"

instance : FromJson LogRequest := ⟨LogRequest.reader.read "LogRequest"⟩

namespace Notification

/-- One entry of a list of ids in text form. -/
def readEntry (s : Json.Source) : Option (IdEntry × Json.Source) := do
  let (record, rest) ← Json.readRecord ["mac", "ip"] (Json.nestingLimit - 1) s
  let entry ← (fromJson record : Decoded IdEntry).toOption
  some (entry, rest)

/-- The entries of a list of ids in text form. -/
def parseEntries? (text : String) : Option (List IdEntry) := do
  let (entries, rest) ← Json.readList readEntry (Utf8.scanText text)
  if Json.atEnd rest then some entries else none

/-- A parameter that is a text; anything else counts as empty. -/
def textOf (params : Json) (name : String) : String := ((params.get? name).bind Json.text?).getD ""

/-- The ids of a notification: a list of entries, the text of such a list, or one address in the
parameters themselves. -/
def entriesOf (params : Json) : Except ActorError (List IdEntry) :=
  match params.get? "id" with
  | some (.str text) => match parseEntries? text with
    | some entries => .ok entries
    | none => .error (.requestError "the ids are no list of entries")
  | some entries => (fromJson entries : Decoded (List IdEntry)).mapError .ofDecode
  | none =>
    let entry : IdEntry := ⟨textOf params "mac", textOf params "ip"⟩
    .ok (if entry.mac = "" && entry.ip = "" then [] else [entry])

end Notification

end SessionBroker
