import SessionBroker.Json.Decode

/-!
# Services and pools

A service owns pools of user services. It may own machines that the broker does not manage; these
present its master token, or an alias of that token.
-/

namespace SessionBroker

structure ServiceRecord where
  id : Uuid
  name : String
  token : Option String
deriving DecidableEq, Repr

namespace ServiceRecord

def reader : RecordReader ServiceRecord :=
  ServiceRecord.mk <$> .required "id" <*> .required "name" <*> .optional "token"

instance : FromJson ServiceRecord := ⟨reader.read "ServiceRecord"⟩
instance : ToJson ServiceRecord := ⟨fun s => Json.object
  [("id", toJson s.id), ("name", toJson s.name), ("token", toJson s.token)]⟩

end ServiceRecord

/-- A token that stands for the master token of a service, as a rule for one machine only. -/
structure ServiceTokenAlias where
  «alias» : String
  service : Uuid
  uniqueId : Option String
deriving DecidableEq, Repr

namespace ServiceTokenAlias

def reader : RecordReader ServiceTokenAlias :=
  ServiceTokenAlias.mk <$> .required "alias" <*> .required "service" <*> .optional "unique_id"

instance : FromJson ServiceTokenAlias := ⟨reader.read "ServiceTokenAlias"⟩
instance : ToJson ServiceTokenAlias := ⟨fun a => Json.object
  [("alias", toJson a.alias), ("service", toJson a.service), ("unique_id", toJson a.uniqueId)]⟩

end ServiceTokenAlias

structure ServicePool where
  id : Uuid
  service : Uuid
  name : String
  deadline : Option Instant
deriving DecidableEq, Repr

namespace ServicePool

def reader : RecordReader ServicePool :=
  ServicePool.mk <$> .required "id" <*> .required "service" <*> .required "name" <*> .optional "deadline"

instance : FromJson ServicePool := ⟨reader.read "ServicePool"⟩
instance : ToJson ServicePool := ⟨fun p => Json.object
  [("id", toJson p.id), ("service", toJson p.service), ("name", toJson p.name),
    ("deadline", toJson p.deadline)]⟩

end ServicePool

end SessionBroker
