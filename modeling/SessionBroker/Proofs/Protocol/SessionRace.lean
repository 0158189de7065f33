import SessionBroker.Proofs.Protocol.Sessions

/-!
# Logins and logouts of one user service at once

A logout closes the session and releases the service by two queries, and nothing keeps a login from coming
between them. As long as no release is answered, the service takes every session, and it is in use exactly if
the last query was a login. From the first release on it takes none, and its use stays what it was. So a
service is released under its user exactly if its first release comes right after a login.
-/

namespace SessionBroker.Sessions

open Login (Arrival)
open Logout (Departure releasing)
open Protocol (Party interleave opening transcript)

variable {ι κ : Type}

/-- The states of the runs, with the logins on the left and the logouts on the right. -/
abbrev Progress : ι ⊕ κ → Type
  | .inl _ => Login.State
  | .inr _ => Logout.State

/-- What the runs come to. -/
abbrev Result : ι ⊕ κ → Type
  | .inl _ => LoginInfo
  | .inr _ => LogoutOutcome

variable {id : Uuid}

/-- Logins and logouts of one user service. -/
def parties (logins : ι → Arrival id) (logouts : κ → Departure id) :
    ∀ run : ι ⊕ κ, Party (Progress run) (Result run)
  | .inl i => (logins i).party
  | .inr k => (logouts k).party

/-- Where a run may stand after some queries. Only a service that was released turns runs away, so that they
are passed on. -/
inductive Stands (logins : ι → Arrival id) (logouts : κ → Departure id) (log : List ((ι ⊕ κ) × Query))
    (released : Prop) : ∀ run : ι ⊕ κ, Move (Progress run) (Result run) → Prop
  | opens (i : ι) : Stands logins logouts log released (.inl i) (logins i).first
  | closes (k : κ) : Stands logins logouts log released (.inr k) (logouts k).first
  | releases (k : κ) (h : log ≠ []) : Stands logins logouts log released (.inr k) (releasing id)
  | passesLogin (i : ι) (h : released) : Stands logins logouts log released (.inl i) (logins i).passedOn
  | passesLogout (k : κ) (h : released) : Stands logins logouts log released (.inr k) (logouts k).passedOn
  | ended {run : ι ⊕ κ} {move : Move (Progress run) (Result run)} (h : move.Ended) :
    Stands logins logouts log released run move

/-- The last of the queries was a login. -/
def EndsInLogin (log : List ((ι ⊕ κ) × Query)) : Prop :=
  ∃ before i token username, log = before ++ [(.inl i, .openSession token username)]

theorem endsInLogin_append {log : List ((ι ⊕ κ) × Query)} {entry : (ι ⊕ κ) × Query} :
    EndsInLogin (log ++ [entry]) ↔ ∃ i token username, entry = (.inl i, .openSession token username) := by
  constructor
  · rintro ⟨before, i, token, username, h⟩
    obtain ⟨-, hlast⟩ := List.append_inj' h rfl
    exact ⟨i, token, username, List.singleton_inj.mp hlast⟩
  · rintro ⟨i, token, username, rfl⟩
    exact ⟨log, i, token, username, rfl⟩

/-- Where the first release stands is told by the queries before it. -/
theorem before_release {log before after : List ((ι ⊕ κ) × Query)} {k : κ}
    (hlog : log = before ++ (.inr k, .release id) :: after)
    (hnone : ∀ entry ∈ before, entry.2.isRelease = false) :
    log.takeWhile (fun entry => !entry.2.isRelease) = before := by
  have hkept : ∀ entry ∈ before, (!entry.2.isRelease) = true := fun entry h => by rw [hnone entry h]; rfl
  rw [hlog, List.takeWhile_append_of_pos hkept]
  simp [Query.isRelease]

variable {logins : ι → Arrival id} {logouts : κ → Departure id} {pools : Table Uuid PoolEntry}
  {moves : ∀ run : ι ⊕ κ, Move (Progress run) (Result run)} {b : Broker} {log : List ((ι ⊕ κ) × Query)}

/-- The service has not been released yet. -/
structure Unreleased (logins : ι → Arrival id) (logouts : κ → Departure id) (pools : Table Uuid PoolEntry)
    (moves : ∀ run : ι ⊕ κ, Move (Progress run) (Result run)) (b : Broker) (log : List ((ι ⊕ κ) × Query)) :
    Prop where
  kept : ∃ w, b.Holds id w ∧ w.state.isValid ∧ (log ≠ [] → (w.inUse = true ↔ EndsInLogin log))
  pools : b.pools = pools
  none : ∀ entry ∈ log, entry.2.isRelease = false
  stands : ∀ run, Stands logins logouts log False run (moves run)

/-- The service was released for the first time by a query that came after some others. -/
structure Released (logins : ι → Arrival id) (logouts : κ → Departure id)
    (moves : ∀ run : ι ⊕ κ, Move (Progress run) (Result run)) (b : Broker) (log : List ((ι ⊕ κ) × Query)) :
    Prop where
  split : ∃ before k after, log = before ++ (.inr k, .release id) :: after ∧
    (∀ entry ∈ before, entry.2.isRelease = false) ∧
    ∃ w, b.Holds id w ∧ w.state = .removable ∧ (w.inUse = true ↔ EndsInLogin before)
  stands : ∀ run, Stands logins logouts log True run (moves run)

theorem Stands.mono {log' : List ((ι ⊕ κ) × Query)} {released released' : Prop} {run : ι ⊕ κ}
    {move : Move (Progress run) (Result run)} (h : Stands logins logouts log released run move)
    (hlog : log' ≠ []) (hreleased : released → released') :
    Stands logins logouts log' released' run move := by
  cases h with
  | opens i => exact .opens i
  | closes k => exact .closes k
  | releases k h => exact .releases k hlog
  | passesLogin i h => exact .passesLogin i (hreleased h)
  | passesLogout k h => exact .passesLogout k (hreleased h)
  | ended h => exact .ended h

variable [DecidableEq ι] [DecidableEq κ]

/-- One of the runs moves on, and the others stay. -/
theorem Stands.update {log' : List ((ι ⊕ κ) × Query)} {released released' : Prop} {run : ι ⊕ κ}
    {move : Move (Progress run) (Result run)} (h : ∀ run, Stands logins logouts log released run (moves run))
    (hmove : Stands logins logouts log' released' run move) (hlog : log' ≠ [])
    (hreleased : released → released') (other : ι ⊕ κ) :
    Stands logins logouts log' released' other (Function.update moves run move other) := by
  by_cases hother : other = run
  · subst hother
    rw [Function.update_self]
    exact hmove
  · rw [Function.update_of_ne hother]
    exact (h other).mono hlog hreleased

variable {issuer : Issuer} {run : ι ⊕ κ} {query : Query} {next : Progress run}
  {move : Move (Progress run) (Result run)} {b' : Broker}

theorem Unreleased.turn (hm : ∀ pool m, (Table.get? pool pools).bind (·.osManager) = some m → m.KeepsState)
    (h : Unreleased logins logouts pools moves b log) (hmove : moves run = .ask query next)
    (hturn : (parties logins logouts run).turn Broker.backend issuer (.ask query next) b = (move, b')) :
    Unreleased logins logouts pools (Function.update moves run move) b' (log ++ [(run, query)]) ∨
      Released logins logouts (Function.update moves run move) b' (log ++ [(run, query)]) := by
  obtain ⟨⟨w, hw, hvalid, hused⟩, hpools, hnone, hstands⟩ := h
  have hmanager : ∀ m, b.osManager? w.pool = some m → m.KeepsState := by
    intro m hb
    unfold Broker.osManager? at hb
    rw [hpools] at hb
    exact hm w.pool m hb
  have hnonempty : log ++ [(run, query)] ≠ [] := by simp
  have hrun := hstands run
  rw [hmove] at hrun
  cases hrun with
  | opens i =>
    obtain ⟨info, v, b₁, hopen, hv, hstate, hinUse, hpools₁⟩ := (logins i).turn_open issuer hw hmanager hvalid
    obtain ⟨rfl, rfl⟩ := Prod.mk.inj (hopen.symm.trans hturn)
    refine .inl ⟨⟨v, hv, hstate ▸ hvalid, fun _ => ?_⟩, hpools₁.trans hpools, ?_, ?_⟩
    · rw [endsInLogin_append]
      exact iff_of_true hinUse ⟨i, _, _, rfl⟩
    · exact List.forall_mem_append.mpr ⟨hnone, by simp [Query.isRelease]⟩
    · exact Stands.update hstands (.ended trivial) hnonempty False.elim
  | closes k =>
    obtain ⟨closing, v, b₁, hclose, hnext, hv, hstate, hinUse, hpools₁⟩ :=
      (logouts k).turn_close issuer hw hmanager hvalid
    obtain ⟨rfl, rfl⟩ := Prod.mk.inj (hclose.symm.trans hturn)
    refine .inl ⟨⟨v, hv, hstate ▸ hvalid, fun _ => ?_⟩, hpools₁.trans hpools, ?_, ?_⟩
    · rw [endsInLogin_append, hinUse]
      exact iff_of_false Bool.false_ne_true (by simp)
    · exact List.forall_mem_append.mpr ⟨hnone, by simp [Query.isRelease]⟩
    · refine Stands.update hstands ?_ hnonempty False.elim
      rcases hnext with hended | rfl
      · exact .ended hended
      · exact .releases k hnonempty
  | releases k hlog =>
    have hstate := ServiceState.not_terminal_of_valid hvalid
    have hrelease := (logouts k).turn_releasing issuer hw hstate
    obtain ⟨rfl, rfl⟩ := Prod.mk.inj (hrelease.symm.trans hturn)
    refine .inr ⟨⟨log, k, [], rfl, hnone, _, hw.put hw.uuid, rfl, hused hlog⟩, ?_⟩
    exact Stands.update hstands (.ended trivial) hnonempty False.elim
  | passesLogin i h => exact h.elim
  | passesLogout k h => exact h.elim
  | ended h => exact h.elim

theorem Released.turn (h : Released logins logouts moves b log) (hmove : moves run = .ask query next)
    (hturn : (parties logins logouts run).turn Broker.backend issuer (.ask query next) b = (move, b')) :
    Released logins logouts (Function.update moves run move) b' (log ++ [(run, query)]) := by
  obtain ⟨⟨before, k, after, hlog, hnone, w, hw, hstate, hused⟩, hstands⟩ := h
  have hclosed : w.state.isValid = false := by rw [hstate]; rfl
  -- the first release stays where it is
  suffices hafter : (∃ w, b'.Holds id w ∧ w.state = .removable ∧ (w.inUse = true ↔ EndsInLogin before)) ∧
      Stands logins logouts (log ++ [(run, query)]) True run move by
    refine ⟨⟨before, k, after ++ [(run, query)], by simp [hlog], hnone, hafter.1⟩, ?_⟩
    exact Stands.update hstands hafter.2 (by simp) fun h => h
  have hrun := hstands run
  rw [hmove] at hrun
  cases hrun with
  | opens i =>
    obtain ⟨refused, hopen, hnext⟩ := (logins i).turn_refused issuer hw hclosed
    obtain ⟨rfl, rfl⟩ := Prod.mk.inj (hopen.symm.trans hturn)
    refine ⟨⟨w, hw, hstate, hused⟩, ?_⟩
    rcases hnext with hended | rfl
    · exact .ended hended
    · exact .passesLogin i trivial
  | closes k =>
    obtain ⟨refused, hclose, hnext⟩ := (logouts k).turn_refused issuer hw hclosed
    obtain ⟨rfl, rfl⟩ := Prod.mk.inj (hclose.symm.trans hturn)
    refine ⟨⟨w, hw, hstate, hused⟩, ?_⟩
    rcases hnext with hended | ⟨-, rfl⟩
    · exact .ended hended
    · exact .passesLogout k trivial
  | releases k _ =>
    have hrelease := (logouts k).turn_releasing issuer hw (by rw [hstate]; rfl)
    obtain ⟨rfl, rfl⟩ := Prod.mk.inj (hrelease.symm.trans hturn)
    exact ⟨⟨_, hw.put hw.uuid, rfl, hused⟩, .ended trivial⟩
  | passesLogin i _ =>
    obtain ⟨told, b₁, hpassed, hended, htold⟩ := (logins i).turn_passedOn issuer b
    obtain ⟨rfl, rfl⟩ := Prod.mk.inj (hpassed.symm.trans hturn)
    exact ⟨⟨w, hw.told htold, hstate, hused⟩, .ended hended⟩
  | passesLogout k _ =>
    obtain ⟨told, b₁, hpassed, hended, htold⟩ := (logouts k).turn_passedOn issuer b
    obtain ⟨rfl, rfl⟩ := Prod.mk.inj (hpassed.symm.trans hturn)
    exact ⟨⟨w, hw.told htold, hstate, hused⟩, .ended hended⟩
  | ended h => exact h.elim

/-- A user service is released under its user exactly if the query before the first release was a login. -/
theorem removable_in_use_iff (issuer : Issuer) {u : UserService} (h : b.Holds id u)
    (hvalid : u.state.isValid) (hm : ∀ pool m, b.osManager? pool = some m → m.KeepsState)
    (logins : ι → Arrival id) (logouts : κ → Departure id) (schedule : List (ι ⊕ κ)) :
    let runs := parties logins logouts
    let last := interleave runs Broker.backend issuer schedule (opening runs, b)
    let log := transcript runs Broker.backend issuer schedule (opening runs, b)
    (∃ w, last.2.userService? id = some w ∧ w.state = .removable ∧ w.inUse = true) ↔
      ∃ before i token username k after,
        log = before ++ (.inl i, .openSession token username) :: (.inr k, .release id) :: after ∧
          ∀ entry ∈ before, entry.2.isRelease = false := by
  intro runs last log
  have hopening : Unreleased logins logouts b.pools (opening runs) b [] := {
    kept := ⟨u, h, hvalid, fun h => absurd rfl h⟩
    pools := rfl
    none := fun entry h => absurd h List.not_mem_nil
    stands := fun
      | .inl i => .opens i
      | .inr k => .closes k }
  have hlast : Unreleased logins logouts b.pools last.1 last.2 log ∨ Released logins logouts last.1 last.2 log :=
    Protocol.interleave_traces
      (I := fun moves b log => Unreleased logins logouts _ moves b log ∨ Released logins logouts moves b log)
      (fun _ _ _ _ _ _ hmove h => h.elim (fun h => h.turn hm hmove rfl) fun h => .inr (h.turn hmove rfl))
      schedule (.inl hopening)
  rcases hlast with ⟨⟨w, hw, hopen, -⟩, -, hnone, -⟩ | ⟨⟨before, k, after, hlog, hnone, w, hw, hstate, hused⟩, -⟩
  · refine iff_of_false ?_ ?_
    · rintro ⟨w', hw', hstate, -⟩
      cases hw.found.symm.trans hw'
      rw [hstate] at hopen
      cases hopen
    · rintro ⟨before, i, token, username, k, after, hlog, -⟩
      have hrelease := hnone (.inr k, .release id) (by simp [hlog])
      cases hrelease
  · constructor
    · rintro ⟨w', hw', -, hinUse⟩
      cases hw.found.symm.trans hw'
      obtain ⟨front, i, token, username, rfl⟩ := hused.mp hinUse
      refine ⟨front, i, token, username, k, after, by simp [hlog], fun entry h => ?_⟩
      exact hnone entry (List.mem_append_left _ h)
    · rintro ⟨front, i, token, username, k', after', hlog', hnone'⟩
      have hsplit : log = (front ++ [(.inl i, .openSession token username)]) ++ (.inr k', .release id) :: after' := by
        simp [hlog']
      have hnone'' : ∀ entry ∈ front ++ [(.inl i, .openSession token username)], entry.2.isRelease = false :=
        List.forall_mem_append.mpr ⟨hnone', by simp [Query.isRelease]⟩
      have hsame := (before_release hlog hnone).symm.trans (before_release hsplit hnone'')
      exact ⟨w, hw.found, hstate, hused.mpr ⟨front, i, token, username, hsame⟩⟩

/-- A login that comes between the two queries of a logout stands right before the release, and a logout that
comes later changes nothing. -/
theorem removable_in_use_iff_between :
    let logouts := fun second : Bool => Logout.trialDeparture (if second then "cid" else "ann")
    let runs := parties (fun _ : Unit => Login.trialArrival "bob") logouts
    let schedule := [.inr false, .inl (), .inr false, .inr true]
    let log := transcript runs Broker.backend trialIssuer schedule (opening runs, Broker.trialDesk none)
    ∃ before i token username k after,
      log = before ++ (.inl i, .openSession token username) :: (.inr k, .release .nil) :: after ∧
        ∀ entry ∈ before, entry.2.isRelease = false := by
  intro logouts runs schedule log
  have hdesk : (Broker.trialDesk none).Holds .nil _ := ⟨rfl, rfl⟩
  have hm : ∀ pool m, (Broker.trialDesk none).osManager? pool = some m → m.KeepsState := by
    intro pool m hm
    simp only [Broker.osManager?, Broker.trialDesk, Table.get?] at hm
    split at hm <;> cases hm
  have hiff := removable_in_use_iff trialIssuer hdesk rfl hm (fun _ : Unit => Login.trialArrival "bob") logouts
    schedule
  have hlast : ((interleave runs Broker.backend trialIssuer schedule
      (opening runs, Broker.trialDesk none)).2.userService? .nil).map (fun w => (w.state, w.inUse)) =
        some (.removable, true) := by decide +kernel
  obtain ⟨w, hw, hafter⟩ := Option.map_eq_some_iff.mp hlast
  exact hiff.mp ⟨w, hw, congrArg Prod.fst hafter, congrArg Prod.snd hafter⟩

/-- A login that comes between the two queries of a logout leaves a service in use that is to be removed. -/
theorem released_in_use :
    let runs := parties (fun _ : Unit => Login.trialArrival "bob") fun _ : Unit => Logout.trialDeparture "ann"
    let b := Broker.trialDesk none
    (b.userService? .nil).map (·.state) = some .preparing ∧
      ((interleave runs Broker.backend trialIssuer [.inr (), .inl (), .inr ()]
        (opening runs, b)).2.userService? .nil).map (fun w => (w.state, w.inUse)) = some (.removable, true) := by
  decide +kernel

end SessionBroker.Sessions
