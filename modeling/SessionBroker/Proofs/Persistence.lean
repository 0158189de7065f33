import SessionBroker.Persistence
import SessionBroker.Proofs.Json.Record

/-!
# Kept records come back

What is kept of a record gives the record again, as long as its instants lie in the years of four digits. Each
record is written and read under the same names, and every field is of a type whose values come back.
-/

namespace SessionBroker

section

variable {α : Type} [FromJson α] [ToJson α] [Kept α]

/-- All instants of the value lie in the civil years from the first to the last, in UTC. -/
def Dated (first last : Int) (a : α) : Prop := ∀ t ∈ Kept.instants a, first ≤ t.year ∧ t.year ≤ last

instance (first last : Int) (a : α) : Decidable (Dated first last a) :=
  inferInstanceAs (Decidable (∀ t ∈ Kept.instants a, _))

/-- The value can be kept, and is found again. -/
def Restored (a : α) : Prop := ∃ j, serialize a = .ok j ∧ (fromJson j : Decoded α) = .ok a

theorem Restored.of_readsBack {a : α} (hdated : Dated 0 9999 a) (h : ReadsBack a) : Restored a := by
  have hall : ((Kept.instants a).all fun t => (Timestamp.text? t).isSome) = true := by
    refine List.all_eq_true.mpr fun t ht => ?_
    obtain ⟨s, htext, -⟩ := Timestamp.exists_text (hdated t ht).1 (hdated t ht).2
    rw [htext]
    rfl
  exact ⟨toJson a, if_pos hall, h⟩

omit [FromJson α] [ToJson α] in
theorem Dated.mono {a : α} (h : Dated 1 9999 a) : Dated 0 9999 a :=
  fun t ht => ⟨by have := (h t ht).1; omega, (h t ht).2⟩

end

/-! ## Named variants -/

theorem ReadsBack.serviceState (s : ServiceState) : ReadsBack s := by cases s <;> rfl

theorem ReadsBack.osState (s : OsState) : ReadsBack s := by cases s <;> rfl

theorem ReadsBack.cacheLevel (l : CacheLevel) : ReadsBack l := by cases l <;> rfl

theorem ReadsBack.logLevel (l : LogLevel) : ReadsBack l := by cases l <;> rfl

theorem ReadsBack.logSource (s : LogSource) : ReadsBack s := by cases s <;> rfl

/-! ## Fields with a reader of their own -/

theorem decodeI64_int {i : Int} (h : -9223372036854775808 ≤ i) (h' : i ≤ 9223372036854775807) :
    Json.decodeI64 (toJson i) = .ok i :=
  if_pos (by simp [h, h'])

theorem decodeProperties_obj (properties : Dict String) :
    UserService.decodeProperties (.obj (properties.map fun (key, value) => (key, .str value))) = .ok properties := by
  change (properties.map fun (key, value) => (key, Json.str value)).mapM _ = _
  induction properties with
  | nil => rfl
  | cons property rest ih =>
    rw [List.map_cons, List.mapM_cons, ih]
    rfl

theorem ofOption_map {α : Type} [ToJson α] (a : Option α) : Json.ofOption (a.map toJson) = toJson a := by
  cases a <;> rfl

/-- An instant of the years of four digits is written as a text, so an optional one comes back as well. -/
theorem ReadsBack.optionInstant {t : Option Instant} (h : ∀ u ∈ t, 0 ≤ u.year ∧ u.year ≤ 9999) : ReadsBack t := by
  refine .option fun u hu => ⟨.instant (h u hu), ?_⟩
  obtain ⟨s, htext, -⟩ := Timestamp.exists_text (h u hu).1 (h u hu).2
  simp [toJson, htext]

/-! ## Records -/

section Records

open RecordReader (Reads)

theorem ReadsBack.session {s : Session} (h : Dated 0 9999 s) : ReadsBack s := by
  obtain ⟨id, start, finish⟩ := s
  have hstart : ReadsBack start := .instant (h start List.mem_cons_self)
  have hfinish : ReadsBack finish :=
    .optionInstant fun t ht => h t (List.mem_cons_of_mem _ (Option.mem_toList.mpr ht))
  -- The proof has the shape of the reader: the constructor is applied to one field after the other.
  refine Reads.object (.seq (.seq (.map ?id _) ?start) ?finish) (by simp) "Session"
  case id => exact .required (.string id) rfl
  case start => exact .required hstart rfl
  case finish => exact .optional hfinish (congrArg some (ofOption_map finish))

theorem ReadsBack.logEntry {e : LogEntry} (h : Dated 0 9999 e) : ReadsBack e := by
  obtain ⟨owner, level, source, message, stamp⟩ := e
  have hstamp : ReadsBack stamp := .instant (h stamp List.mem_cons_self)
  refine Reads.object (.seq (.seq (.seq (.seq (.map ?owner _) ?level) ?source) ?message) ?stamp) (by simp) "LogEntry"
  case owner => exact .required (.uuid owner) rfl
  case level => exact .required (.logLevel level) rfl
  case source => exact .required (.logSource source) rfl
  case message => exact .required (.string message) rfl
  case stamp => exact .required hstamp rfl

theorem ReadsBack.servicePool {p : ServicePool} (h : Dated 0 9999 p) : ReadsBack p := by
  obtain ⟨id, service, name, deadline⟩ := p
  have hdeadline : ReadsBack deadline := .optionInstant fun t ht => h t (Option.mem_toList.mpr ht)
  refine Reads.object (.seq (.seq (.seq (.map ?id _) ?service) ?name) ?deadline) (by simp) "ServicePool"
  case id => exact .required (.uuid id) rfl
  case service => exact .required (.uuid service) rfl
  case name => exact .required (.string name) rfl
  case deadline => exact .optional hdeadline rfl

theorem ReadsBack.serviceTokenAlias (a : ServiceTokenAlias) : ReadsBack a := by
  obtain ⟨name, service, uniqueId⟩ := a
  have huniqueId : ReadsBack uniqueId := .option fun id _ => ⟨.string id, nofun⟩
  refine Reads.object (.seq (.seq (.map ?name _) ?service) ?uniqueId) (by simp) "ServiceTokenAlias"
  case name => exact .required (.string name) rfl
  case service => exact .required (.uuid service) rfl
  case uniqueId => exact .optional huniqueId rfl

theorem ReadsBack.actorCommands (c : ActorCommands) : ReadsBack c := by
  obtain ⟨preCommand, postCommand, runOnceCommand, custom⟩ := c
  refine Reads.object (.seq (.seq (.seq (.map ?pre _) ?post) ?runOnce) ?custom) (by simp) "ActorCommands"
  case pre => exact .required (.string preCommand) rfl
  case post => exact .required (.string postCommand) rfl
  case runOnce => exact .required (.string runOnceCommand) rfl
  case custom => exact .required (.json custom) rfl

theorem ReadsBack.actorIdentity {a : ActorIdentity} (h : Dated 0 9999 a)
    (hlevel : -9223372036854775808 ≤ a.logLevel ∧ a.logLevel ≤ 9223372036854775807) : ReadsBack a := by
  obtain ⟨token, mac, ip, ipFrom, hostname, logLevel, os, subtype, commands, username, stamp⟩ := a
  have hstamp : ReadsBack stamp := .instant (h stamp List.mem_cons_self)
  refine Reads.object (.seq (.seq (.seq (.seq (.seq (.seq (.seq (.seq (.seq (.seq (.map ?token _) ?mac) ?ip) ?ipFrom)
    ?hostname) ?logLevel) ?os) ?subtype) ?commands) ?username) ?stamp) (by simp) "ActorIdentity"
  case logLevel => exact .one rfl (decodeI64_int hlevel.1 hlevel.2)
  case commands => exact .required (.actorCommands commands) rfl
  case stamp => exact .required hstamp rfl
  all_goals exact .required (.string _) rfl

theorem ReadsBack.userService {u : UserService} (h : Dated 0 9999 u) : ReadsBack u := by
  obtain ⟨uuid, pool, uniqueId, friendlyName, state, osState, stateDate, creationDate, cacheLevel, inUse, inUseDate,
    user, actorVersion, sourceIp, sourceHostname, properties, sessions, destroyAfter⟩ := u
  have hdate {t : Instant} (ht : t ∈ [stateDate, creationDate, inUseDate]) : ReadsBack t :=
    .instant (h t (List.mem_append_left _ ht))
  have huser : ReadsBack user := .option fun u _ => ⟨.uuid u, nofun⟩
  have hsessions : ReadsBack sessions := .list fun s hs => .session fun t ht =>
    h t (List.mem_append_right _ (List.mem_flatMap.mpr ⟨s, hs, ht⟩))
  refine Reads.object (.seq (.seq (.seq (.seq (.seq (.seq (.seq (.seq (.seq (.seq (.seq (.seq (.seq (.seq (.seq (.seq
    (.seq (.map ?uuid _) ?pool) ?uniqueId) ?friendlyName) ?state) ?osState) ?stateDate) ?creationDate) ?cacheLevel)
    ?inUse) ?inUseDate) ?user) ?actorVersion) ?sourceIp) ?sourceHostname) ?properties) ?sessions) ?destroyAfter)
    (by simp) "UserService"
  case uuid | pool => exact .required (.uuid _) rfl
  case state => exact .required (.serviceState state) rfl
  case osState => exact .required (.osState osState) rfl
  case stateDate | creationDate | inUseDate => exact .required (hdate (by simp)) rfl
  case cacheLevel => exact .required (.cacheLevel cacheLevel) rfl
  case inUse | destroyAfter => exact .required (.bool _) rfl
  case user => exact .optional huser rfl
  case properties => exact .one rfl (decodeProperties_obj properties)
  case sessions => exact .required hsessions rfl
  all_goals exact .required (.string _) rfl

/-- The member that tells the kind is not shown to the reader of the others. -/
theorem decode_tagged {kind : Json} {r : RecordReader TicketValidator} {fields : List (String × Json)}
    {v : TicketValidator} (hkind : TicketValidator.readerOf kind = .ok r) (h : Reads r fields v)
    (hkeys : ((("kind", kind) :: fields).map Prod.fst).Nodup) :
    TicketValidator.decode (Json.object (("kind", kind) :: fields)) = .ok v := by
  have hfind := Dict.find?_ofList hkeys
  have hordered := (Dict.ordered_ofList (("kind", kind) :: fields)).filter (·.1 ≠ "kind")
  have hothers (key : String) : Dict.find? key ((Dict.ofList (("kind", kind) :: fields)).filter (·.1 ≠ "kind")) =
      Dict.find? key fields := by
    rw [Dict.find?_filter_ne, hfind]
    by_cases hkey : key = "kind"
    · subst hkey
      rw [if_pos rfl, Dict.find?_eq_none_of_not_mem (List.nodup_cons.mp hkeys).1]
    · rw [if_neg hkey]
      exact if_neg (Ne.symm hkey)
  have htag : Dict.find? "kind" (Dict.ofList (("kind", kind) :: fields)) = some kind :=
    (hfind "kind").trans (if_pos rfl)
  unfold TicketValidator.decode Json.object
  simp only [htag, hkind]
  exact h.readMembers hordered hothers

theorem ReadsBack.ticketValidator (v : TicketValidator) : ReadsBack v := by
  cases v with
  | fieldEquals field value =>
    refine decode_tagged rfl (.seq (.map ?field _) ?value) (by simp)
    case field => exact .required (.string field) rfl
    case value => exact .required (.json value) rfl
  | requiresFields fields =>
    exact decode_tagged rfl (.map (.required (.list fun name _ => .string name) rfl) _) (by simp)

end Records

/-- Every record whose instants lie in the years 1 to 9999 can be kept, and comes back as it was. Levels of actors are
signed 64-bit numbers; aliases and validators hold no instants. -/
theorem records_restored :
    (∀ u : UserService, Dated 1 9999 u → Restored u) ∧
    (∀ s : Session, Dated 1 9999 s → Restored s) ∧
    (∀ e : LogEntry, Dated 1 9999 e → Restored e) ∧
    (∀ p : ServicePool, Dated 1 9999 p → Restored p) ∧
    (∀ a : ActorIdentity, -9223372036854775808 ≤ a.logLevel ∧ a.logLevel ≤ 9223372036854775807 →
      Dated 1 9999 a → Restored a) ∧
    (∀ a : ServiceTokenAlias, Restored a) ∧
    ∀ v : TicketValidator, Restored v := by
  refine ⟨?service, ?session, ?entry, ?pool, ?identity, ?tokenAlias, ?validator⟩
  case service => exact fun u h => .of_readsBack h.mono (.userService h.mono)
  case session => exact fun s h => .of_readsBack h.mono (.session h.mono)
  case entry => exact fun e h => .of_readsBack h.mono (.logEntry h.mono)
  case pool => exact fun p h => .of_readsBack h.mono (.servicePool h.mono)
  case identity => exact fun a hlevel h => .of_readsBack h.mono (.actorIdentity h.mono hlevel)
  case tokenAlias => exact fun a => .of_readsBack (fun _ ht => absurd ht List.not_mem_nil) (.serviceTokenAlias a)
  case validator => exact fun v => .of_readsBack (fun _ ht => absurd ht List.not_mem_nil) (.ticketValidator v)

/-- The first and the last millisecond of the range, the last one before 1970, and the last one of a leap day. -/
theorem records_restored_bounds :
    let first : Instant := .ofMs (-62135596800000)
    let last : Instant := .ofMs 253402300799999
    let session : Session := ⟨"s1", .ofMs (-1), some (.ofMs 951868799999)⟩
    let service : UserService := { UserService.fresh .nil .nil "m1" "d1" .l1 first with
      inUseDate := last, user := some .nil, properties := [("ip", "10.0.0.1")], sessions := [session] }
    let identity : ActorIdentity := ⟨"t", "m", "10.0.0.1", "10.0.0.1", "h", -9223372036854775808, "", "",
      ⟨"", "", "", .arr [.null, .float ⟨0x7FEFFFFFFFFFFFFF⟩]⟩, "u", last⟩
    Dated 1 9999 service ∧ Restored service ∧ Restored session ∧
      Restored (⟨.nil, .other, .actor, "", first⟩ : LogEntry) ∧
      Restored (⟨.nil, .nil, "p", some last⟩ : ServicePool) ∧ Restored identity := by
  intro first last session service identity
  obtain ⟨hservice, hsession, hentry, hpool, hidentity, -, -⟩ := records_restored
  have hdated : Dated 1 9999 service := by decide
  exact ⟨hdated, hservice service hdated, hsession session (by decide), hentry _ (by decide), hpool _ (by decide),
    hidentity identity (by decide) (by decide)⟩

end SessionBroker
