import SessionBroker.Proofs.Protocol.Sessions

/-!
# Logouts from one user service at once

Several logouts may find a user service in use, and each of them closes the session and has to release the
service where it may go. Only the first to close it sees that it was in use. So the OS manager is told once,
and the one release that follows is that of the first.
-/

namespace SessionBroker.Logout

open Protocol (interleave opening transcript)

variable {ι : Type} {id : Uuid}

/-- The releases among some queries. -/
def releases (log : List (ι × Query)) : List (ι × Query) := log.filter fun entry => entry.2.isRelease

/-- How far the release has come that the first logout may owe: by the move of the first, the releases so far
and the state of the service, which was in a state before. -/
inductive Owed (id : Uuid) (first : ι) (before : ServiceState) :
    Bool → Move State LogoutOutcome → List (ι × Query) → ServiceState → Prop
  | pending : Owed id first before true (releasing id) [] before
  | done {move} (hmove : move.Ended) : Owed id first before true move [(first, .release id)] .removable
  | never {move} (hmove : move.Ended) : Owed id first before false move [] before

theorem Owed.ended {first : ι} {before state : ServiceState} {gone : Bool} {move : Move State LogoutOutcome}
    {log : List (ι × Query)} (h : Owed id first before gone move log state) (hended : move.Ended) :
    log = (if gone then [(first, .release id)] else []) ∧ state = if gone then .removable else before := by
  cases h with
  | pending => exact hended.elim
  | done _ => exact ⟨rfl, rfl⟩
  | never _ => exact ⟨rfl, rfl⟩

variable {runs : ι → Departure id} {first : ι} {before : ServiceState} {gone : Bool} {notices : List Notice}
  {moves : ι → Move State LogoutOutcome} {b : Broker} {log : List (ι × Query)}

/-- The first logout has ended the use of the service. What is left is its release, and nothing for the
others. -/
structure Left (runs : ι → Departure id) (first : ι) (before : ServiceState) (gone : Bool)
    (notices : List Notice) (moves : ι → Move State LogoutOutcome) (b : Broker) (log : List (ι × Query)) :
    Prop where
  kept : ∃ w, b.Holds id w ∧ w.inUse = false ∧ Owed id first before gone (moves first) (releases log) w.state
  told : b.journal = notices
  others : ∀ i, i ≠ first → moves i = (runs i).first ∨ (moves i).Ended

/-- Nothing but a release adds to the releases. -/
theorem releases_append (log : List (ι × Query)) (i : ι) (query : Query) :
    releases (log ++ [(i, query)]) = releases log ++ if query.isRelease then [(i, query)] else [] := by
  unfold releases
  rw [List.filter_append, List.filter_cons, List.filter_nil]

/-- The turn of one that has closed nothing yet finds nobody there. -/
theorem Left.turn_other (h : Left runs first before gone notices moves b log) (issuer : Issuer) (i : ι)
    (hmanaged : (runs i).request.kind = .managed) :
    ∃ move b', (runs i).party.turn Broker.backend issuer (runs i).first b = (move, b') ∧ move.Ended ∧
      b'.journal = notices ∧ ∃ w, b'.Holds id w ∧ w.inUse = false ∧
        Owed id first before gone (moves first) (releases log) w.state := by
  obtain ⟨⟨w, hw, hidle, howed⟩, htold, -⟩ := h
  by_cases hopen : w.state.isValid
  · have hclose := hw.closeSession_idle (runs i).names hopen hidle (runs i).request.username
      (runs i).request.sessionId (runs i).now
    refine ⟨_, _, (runs i).turn_closed issuer hclose, trivial, ?_, _, hw.put hw.uuid, hidle, howed⟩
    rw [Broker.putUserService_journal]
    exact htold
  · obtain ⟨move, hturn, hended | ⟨hkind, -⟩⟩ := (runs i).turn_refused issuer hw (by simpa using hopen)
    · exact ⟨move, b, hturn, hended, htold, w, hw, hidle, howed⟩
    · rw [hmanaged] at hkind
      cases hkind

variable [DecidableEq ι]

theorem Left.turn (hvalid : before.isValid) (issuer : Issuer)
    (hmanaged : ∀ i, (runs i).request.kind = .managed) {i : ι} {query : Query} {next : State}
    (hmove : moves i = .ask query next) (h : Left runs first before gone notices moves b log) :
    Left runs first before gone notices
      (Function.update moves i ((runs i).party.turn Broker.backend issuer (.ask query next) b).1)
      ((runs i).party.turn Broker.backend issuer (.ask query next) b).2 (log ++ [(i, query)]) := by
  have hasks : ¬ (moves i).Ended := by
    rw [hmove]
    exact not_false
  rw [← hmove]
  by_cases hi : i = first
  · subst hi
    obtain ⟨⟨w, hw, hidle, howed⟩, htold, hothers⟩ := h
    generalize hfirst : moves i = move at *
    generalize hlog : releases log = released at howed
    generalize hstate : w.state = state at howed
    cases howed with
    | pending =>
      cases hmove
      have hterminal : w.state.isTerminal = false := by
        rw [hstate]
        exact ServiceState.not_terminal_of_valid hvalid
      rw [(runs i).turn_releasing issuer hw hterminal]
      refine ⟨⟨_, hw.put hw.uuid, hidle, ?_⟩, ?_, fun j hj => ?_⟩
      · rw [Function.update_self, releases_append, hlog]
        exact .done trivial
      · rw [Broker.putUserService_journal]
        exact htold
      · rw [Function.update_of_ne hj]
        exact hothers j hj
    | done hended => exact absurd hended hasks
    | never hended => exact absurd hended hasks
  · rcases h.others i hi with hstart | hended
    · obtain ⟨move, b', hturn, hended, htold, w, hw, hidle, howed⟩ := h.turn_other issuer i (hmanaged i)
      have hquery : query.isRelease = false := by
        rw [hmove] at hstart
        cases hstart
        rfl
      rw [hstart, hturn]
      refine ⟨⟨w, hw, hidle, ?_⟩, htold, fun j hj => ?_⟩
      · rw [Function.update_of_ne (Ne.symm hi), releases_append, hquery]
        simpa using howed
      · by_cases hji : j = i
        · subst hji
          rw [Function.update_self]
          exact .inr hended
        · rw [Function.update_of_ne hji]
          exact h.others j hj
    · exact absurd hended hasks

section

variable {u : UserService} (h : b.Holds id u) (hvalid : u.state.isValid) (hu : u.inUse = true)
  (hm : ∀ m, b.osManager? u.pool = some m → m.KeepsStateAtLogout) (runs : ι → Departure id) (issuer : Issuer)

include h hvalid hu hm

theorem left_first (first : ι) :
    let manager := b.osManager? u.pool
    let x := runs first
    let turned := x.party.turn Broker.backend issuer x.first b
    Left runs first u.state (Broker.removable manager (x.leaves u manager))
      (b.journal ++ Broker.departure u manager x.request.username)
      (Function.update (opening fun i => (runs i).party) first turned.1) turned.2
      [(first, .closeSession x.request.token x.request.username x.request.sessionId)] := by
  intro manager x turned
  have hclose := h.closeSession_used rfl hm x.names hvalid hu x.request.username x.request.sessionId x.now
  have huuid : (x.leaves u manager).uuid = id := (Broker.departed_uuid hm u _ _ _).trans h.uuid
  have hturned : turned = _ := x.turn_closed issuer hclose
  rw [hturned]
  refine ⟨⟨_, (h.told ⟨_, rfl⟩).put huuid, Broker.departed_inUse u _ _ _, ?_⟩, ?_, fun i hi => ?_⟩
  · rw [Function.update_self, Broker.departed_state hm, Bool.true_and]
    change Owed id first u.state (Broker.removable manager (x.leaves u manager))
      (if Broker.removable manager (x.leaves u manager) then _ else _) [] _
    cases Broker.removable manager (x.leaves u manager) with
    | true => exact .pending
    | false => exact .never trivial
  · rw [Broker.putUserService_journal]
  · rw [Function.update_of_ne hi]
    exact .inl rfl

/-- Of several logouts from a user service in use the first ends its use. The OS manager is told of that one
and of no other, and the service is released by the first and by no other, if it may go. -/
theorem released_once [Nonempty ι] (hmanaged : ∀ i, (runs i).request.kind = .managed) (schedule : List ι)
    (hended : ∀ i, ((interleave (fun i => (runs i).party) Broker.backend issuer schedule
      (opening fun i => (runs i).party, b)).1 i).Ended) :
    let parties := fun i => (runs i).party
    let last := interleave parties Broker.backend issuer schedule (opening parties, b)
    let log := transcript parties Broker.backend issuer schedule (opening parties, b)
    let manager := b.osManager? u.pool
    ∃ first, schedule.head? = some first ∧
      let gone := Broker.removable manager ((runs first).leaves u manager)
      last.2.journal = b.journal ++ Broker.departure u manager (runs first).request.username ∧
      releases log = (if gone then [(first, .release id)] else []) ∧
      ∃ w, last.2.userService? id = some w ∧ w.inUse = false ∧
        w.state = if gone then .removable else u.state := by
  intro parties last log manager
  cases schedule with
  | nil => exact (hended (Classical.arbitrary ι)).elim
  | cons first rest =>
    refine ⟨first, rfl, ?_⟩
    intro gone
    have hlast : Left runs first u.state gone
        (b.journal ++ Broker.departure u manager (runs first).request.username) last.1 last.2 log :=
      Protocol.interleave_traces
        (I := Left runs first u.state gone
          (b.journal ++ Broker.departure u manager (runs first).request.username))
        (fun _ _ _ _ _ _ hmove h => h.turn hvalid issuer hmanaged hmove) rest
        (left_first h hvalid hu hm runs issuer first)
    obtain ⟨⟨w, hw, hidle, howed⟩, htold, -⟩ := hlast
    obtain ⟨hlog, hstate⟩ := howed.ended (hended first)
    exact ⟨htold, hlog, w, hw.found, hidle, hstate⟩

end

/-- Of three logouts the second closes first, so it is the one that the OS manager is told of and that releases
the service. The third comes after that and is refused. -/
theorem released_once_thrice :
    let runs : Fin 3 → Departure .nil := fun i => trialDeparture (["ann", "bob", "cid"].getD i "")
    let parties := fun i => (runs i).party
    let b := Broker.trialDesk (some OsPolicy.standard.manager)
    let last := interleave parties Broker.backend trialIssuer [1, 0, 1, 2] (opening parties, b)
    (∀ i, (runs i).request.kind = .managed) ∧ (∀ i, (last.1 i).Ended) ∧
      last.2.journal = [.osLoggedOut "desktop" "bob" true] ∧
      releases (transcript parties Broker.backend trialIssuer [1, 0, 1, 2] (opening parties, b)) =
        [(1, .release .nil)] ∧
      ∃ w, last.2.userService? .nil = some w ∧ w.inUse = false ∧ w.state = .removable := by
  intro runs parties b last
  have hended : ∀ i, (last.1 i).Ended := by decide +kernel
  have hm : ∀ m, b.osManager? .nil = some m → m.KeepsStateAtLogout := fun m hm => by
    cases hm
    exact OsPolicy.standard.manager_discreet.keepsState.loggedOut
  have hdesk : b.Holds .nil _ := ⟨rfl, rfl⟩
  obtain ⟨first, hfirst, hafter⟩ :=
    released_once hdesk rfl rfl hm runs trialIssuer (fun _ => rfl) [1, 0, 1, 2] hended
  have hone : first = 1 := (Option.some.inj hfirst).symm
  subst hone
  exact ⟨fun _ => rfl, hended, hafter⟩

end SessionBroker.Logout
