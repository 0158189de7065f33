import SessionBroker.UserService.Basic

/-!
# Histories of sessions

A login opens a session. A logout closes the sessions that it names, and so does the start of a machine. What
the list of sessions is after a number of these can be told in two ways: mark by mark, as a record is changed
(`SessionMark.apply`), and from the history as a whole, in which a session ends with the first mark after its
own that ends it (`SessionMark.sessions`). They come to the same list: `foldl_apply`.
-/

namespace SessionBroker

/-! ## A close -/

/-- A close ends a session if it is open and is the one named. An empty id names every session. -/
theorem UserService.closeSession_eq_ite (id : String) (now : Instant) (s : Session) :
    closeSession id now s =
      if s.finish = none ∧ (id = "" ∨ s.id = id) then { s with finish := some now } else s := by
  have hnames : namesOpen id s = true ↔ s.finish = none ∧ (id = "" ∨ s.id = id) := by
    unfold namesOpen
    simp
  unfold closeSession
  simp only [hnames]

/-- Without an id a close ends what is open. -/
theorem UserService.closeSession_all (now : Instant) :
    closeSession "" now = fun s => if s.finish = none then { s with finish := some now } else s := by
  funext s
  rw [closeSession_eq_ite]
  simp

/-- What a close of everything leaves has ended. -/
theorem UserService.openSessions_endSession_all (u : UserService) (now : Instant) :
    (u.endSession "" now).openSessions = [] := by
  unfold openSessions endSession
  rw [closeSession_all, List.filter_eq_nil_iff]
  intro s hs
  obtain ⟨before, -, rfl⟩ := List.mem_map.mp hs
  split
  · simp
  · next hended => simpa [Option.isNone_iff_eq_none] using hended

/-! ## Histories -/

/-- One thing that happened to the sessions of a user service. -/
inductive SessionMark
  | opened (id : String) (time : Instant)
  /-- A close of the sessions of an id. An empty id names every session. -/
  | closed (named : String) (time : Instant)
deriving DecidableEq, Repr

namespace SessionMark

def time : SessionMark → Instant
  | opened _ time | closed _ time => time

def opens : SessionMark → Bool
  | opened .. => true
  | closed .. => false

/-- When the mark ends a session of the id that is open, if it does. -/
def ends (id : String) : SessionMark → Option Instant
  | opened .. => none
  | closed named time => if named = "" ∨ id = named then some time else none

/-- The sessions of a history, each up to the first mark after it that ends it. -/
def sessions : List SessionMark → List Session
  | [] => []
  | opened id time :: later => ⟨id, time, later.findSome? (ends id)⟩ :: sessions later
  | closed .. :: later => sessions later

/-- What a mark makes of a list of sessions. -/
def apply : SessionMark → List Session → List Session
  | opened id time, sessions => sessions ++ [⟨id, time, none⟩]
  | closed named time, sessions => sessions.map (UserService.closeSession named time)

end SessionMark

open SessionMark (apply ends)

/-- What a session is after more marks. It is changed only if it was open. -/
def Session.followedBy (later : List SessionMark) (s : Session) : Session :=
  { s with finish := s.finish.or (later.findSome? (ends s.id)) }

/-- What may come of a session: it has ended, if it was open, and is otherwise what it was. -/
structure Session.Continues (s s' : Session) : Prop where
  id : s'.id = s.id
  start : s'.start = s.start
  finish : ∀ t, s.finish = some t → s'.finish = some t

theorem Session.continues_followedBy (later : List SessionMark) (s : Session) :
    s.Continues (s.followedBy later) where
  id := rfl
  start := rfl
  finish t ht := by simp [followedBy, ht]

theorem Session.closeSession_eq (named : String) (time : Instant) (s : Session) :
    UserService.closeSession named time s = s.followedBy [.closed named time] := by
  obtain ⟨id, start, finish⟩ := s
  cases finish with
  | some time => simp [UserService.closeSession, UserService.namesOpen, followedBy]
  | none =>
    by_cases hnamed : named = "" ∨ id = named <;>
      simp [UserService.closeSession, UserService.namesOpen, followedBy, ends, hnamed]

theorem Session.followedBy_opened (id : String) (time : Instant) (s : Session) :
    s.followedBy [.opened id time] = s := by
  simp [followedBy, ends]

namespace SessionMark

variable {earlier later marks : List SessionMark}

theorem time_of_ends {id : String} {mark : SessionMark} {t : Instant} (h : mark.ends id = some t) :
    mark.time = t := by
  cases mark with
  | opened id' time => cases h
  | closed named time => exact (Option.ite_some_none_eq_some.mp h).2

/-- More marks add their own sessions, and end some of those that were open. -/
theorem sessions_append (earlier later : List SessionMark) :
    sessions (earlier ++ later) = (sessions earlier).map (Session.followedBy later) ++ sessions later := by
  induction earlier with
  | nil => rfl
  | cons mark rest ih =>
    cases mark with
    | closed named time => exact ih
    | opened id time => simp [sessions, ih, Session.followedBy, List.findSome?_append]

theorem sessions_concat (marks : List SessionMark) (mark : SessionMark) :
    sessions (marks ++ [mark]) = mark.apply (sessions marks) := by
  rw [sessions_append]
  cases mark with
  | opened id time =>
    rw [List.map_congr_left (fun s _ => s.followedBy_opened id time), List.map_id']
    rfl
  | closed named time =>
    rw [List.map_congr_left (fun s _ => (s.closeSession_eq named time).symm)]
    exact List.append_nil _

/-- The list kept mark by mark goes on as the history does. -/
theorem foldl_apply_sessions (earlier marks : List SessionMark) :
    marks.foldl (fun sessions mark => mark.apply sessions) (sessions earlier) = sessions (earlier ++ marks) := by
  induction marks generalizing earlier with
  | nil => rw [List.foldl_nil, List.append_nil]
  | cons mark rest ih => rw [List.foldl_cons, ← sessions_concat, ih, List.append_assoc, List.singleton_append]

/-- The list kept mark by mark is that of the history as a whole. -/
theorem foldl_apply (marks : List SessionMark) :
    marks.foldl (fun sessions mark => mark.apply sessions) [] = sessions marks :=
  foldl_apply_sessions [] marks

/-- A session keeps its place, its id and its start, and its end once it has one. -/
theorem sessions_kept {i : Nat} {s : Session} (h : (sessions earlier)[i]? = some s) (later : List SessionMark) :
    ∃ s', (sessions (earlier ++ later))[i]? = some s' ∧ s.Continues s' := by
  refine ⟨s.followedBy later, ?_, s.continues_followedBy later⟩
  obtain ⟨hi, rfl⟩ := List.getElem?_eq_some_iff.mp h
  rw [sessions_append, List.getElem?_append_left (by simpa using hi)]
  simp [h]

/-- No session ends before it starts, if the marks are in order of time. -/
theorem start_le_finish (h : (marks.map time).Pairwise (· ≤ ·)) {s : Session} (hs : s ∈ sessions marks)
    {t : Instant} (ht : s.finish = some t) : s.start ≤ t := by
  induction marks with
  | nil => cases hs
  | cons mark later ih =>
    obtain ⟨hfirst, hlater⟩ := List.pairwise_cons.mp h
    cases mark with
    | closed named time => exact ih hlater hs
    | opened id time =>
      rcases List.mem_cons.mp hs with rfl | hs
      · obtain ⟨mark, hmark, hends⟩ := List.exists_of_findSome?_eq_some ht
        exact hfirst t (List.mem_map.mpr ⟨mark, hmark, time_of_ends hends⟩)
      · exact ih hlater hs

end SessionMark

end SessionBroker
