import SessionBroker.Executor.Basic
import SessionBroker.Proofs.Guard.Tally

/-!
# The policy for failures

A call is turned away by the guard, or carried out. What the guard makes of it is told by the outcome alone,
and the caller sees of a failure only that there was one.
-/

namespace SessionBroker.Executor

open Guard (Verdict)

/-- A call of an actor, with the random draws that it needs. -/
inductive Call
  | action (ctx : RequestContext) (draws : Draws) (action : Action) (params : Json)
  | notice (ctx : RequestContext) (draws : Draws) (params : Json)

def Call.ctx : Call → RequestContext
  | action ctx _ _ _ => ctx
  | notice ctx _ _ => ctx

/-- Takes a call. -/
def take {σ τ : Type} (x : Executor σ τ) : Call → CallM σ τ ActorReply
  | .action ctx draws action params => x.handle ctx draws action params
  | .notice ctx draws params => x.notify ctx draws params

variable {σ τ : Type} (x : Executor σ τ) (ctx : RequestContext) (draws : Draws) (s : State σ τ)

@[simp] theorem take_action (action : Action) (params : Json) :
    x.take (.action ctx draws action params) = x.handle ctx draws action params := rfl

@[simp] theorem take_notice (params : Json) :
    x.take (.notice ctx draws params) = x.notify ctx draws params := rfl

/-- What the caller gets to see. -/
def shown : Except ActorError ActorReply → Except ActorError ActorReply
  | .ok reply => .ok reply
  | .error _ => .error .accessDenied

/-- What the policy makes of the outcome of an action. -/
def verdictOf : Except ActorError ActorReply → Verdict
  | .ok reply => if reply.error.isNone then .clears else .leaves
  | .error e => if countsAsGuess e then .counts else .leaves

theorem handle_eq (action : Action) (params : Json) : x.handle ctx draws action params s =
    let done := x.dispatch ctx draws action params s
    if action.bypassesGuard then (shown done.1, done.2)
    else if x.isBlocked ctx s then (.error .blocked, x.recordFailure ctx s)
    else (shown done.1,
      { done.2 with counters := (verdictOf done.1).enter x.guard ctx.source ctx.now done.2.counters }) := by
  unfold handle
  cases x.dispatch ctx draws action params s with
  | mk outcome t =>
    dsimp only
    split
    · cases outcome <;> rfl
    · split
      · rfl
      · cases outcome with
        | ok reply => cases he : reply.error <;> simp [shown, verdictOf, Verdict.enter, clearFailures, he]
        | error e =>
          cases he : countsAsGuess e <;> simp [shown, verdictOf, Verdict.enter, recordFailure, he]

/-- A call that is let pass and succeeds clears the count of its source. -/
theorem handle_ok {action : Action} {params : Json} {reply : ActorReply} {t : State σ τ}
    (hguarded : action.bypassesGuard = false) (hpassed : x.isBlocked ctx s = false)
    (hdone : x.dispatch ctx draws action params s = (.ok reply, t)) (hreply : reply.error = none) :
    x.handle ctx draws action params s =
      (.ok reply, { t with counters := Guard.clear t.counters ctx.source }) := by
  rw [handle_eq, hdone]
  simp only [hguarded, hpassed, Bool.false_eq_true, if_false, shown, verdictOf, hreply, Option.isNone_none,
    if_true, Verdict.enter]

/-- What a notification is, by its parameters. -/
def header (params : Json) : Except ActorError (NotifyAction × String) :=
  match (params.get? "action").bind Json.text?, (params.get? "token").bind Json.text? with
  | some action, some token => match NotifyAction.parse action with
    | .ok action => .ok (action, token)
    | .error e => .error (.requestError e.message)
  | _, _ => .error (.requestError "Invalid parameters")

/-- The answer to a notification. -/
def acknowledged : Except ActorError Unit → Except ActorError ActorReply
  | .ok _ => .ok (.ok (.str "ok"))
  | .error _ => .error .accessDenied

/-- Every failure of a notification counts. -/
def noticeVerdict : Except ActorError Unit → Verdict
  | .ok _ => .clears
  | .error _ => .counts

theorem notify_eq (params : Json) : x.notify ctx draws params s =
    match header params with
    | .error e => (.error e, s)
    | .ok (action, token) =>
      let done := x.dispatchNotice ctx draws action token params s
      if x.isBlocked ctx s then (.error .blocked, x.recordFailure ctx s)
      else (acknowledged done.1,
        { done.2 with counters := (noticeVerdict done.1).enter x.guard ctx.source ctx.now done.2.counters }) := by
  unfold notify header
  cases (params.get? "action").bind Json.text? with
  | none => rfl
  | some action =>
    cases (params.get? "token").bind Json.text? with
    | none => rfl
    | some token =>
      dsimp only
      cases NotifyAction.parse action with
      | error e => rfl
      | ok action =>
        dsimp only
        cases x.dispatchNotice ctx draws action token params s with
        | mk outcome t => cases outcome <;> rfl

end SessionBroker.Executor
