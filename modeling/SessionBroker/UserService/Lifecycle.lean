import SessionBroker.UserService.Basic

/-!
# The life of a user service

The operations that move a user service between its states. Some of them give an order to the provider
that runs the machine, and go on according to the task it starts. An `Attempt` keeps what an operation
left behind, also when it failed: the service, the orders that were given, and the error.
-/

namespace SessionBroker

/-- What a provider is told about one service. -/
inductive Order
  | setIp (ip : String)
  | cancel
  | destroy
  | move (level : CacheLevel)
deriving DecidableEq, Repr

/-- How far a provider has come with an order. -/
inductive TaskState
  | running
  | finished
  | failed (reason : String)
deriving DecidableEq, Repr

/-- The provider behind one service, by its answers. -/
structure Provider where
  supportsCancel : Bool
  task : Order → TaskState

/-- What an operation on a service came to. -/
structure Attempt where
  service : UserService
  orders : List Order
  error : Option UserServiceError
deriving DecidableEq, Repr

namespace UserService

/-- Final states are kept; moving to the present state changes nothing. -/
def setState (u : UserService) (state : ServiceState) (now : Instant) :
    Except UserServiceError UserService :=
  if state = u.state then .ok u
  else if u.state.isTerminal then .error (.terminal u.state)
  else .ok { u with state := state, stateDate := now }

/-- An attempt that only moves the state. -/
def attemptState (u : UserService) (orders : List Order) (state : ServiceState) (now : Instant) :
    Attempt :=
  match u.setState state now with
  | .ok v => ⟨v, orders, none⟩
  | .error e => ⟨u, orders, some e⟩

/-- A task that failed puts the service into the error state. -/
def taskFailed (u : UserService) (orders : List Order) (reason : String) (now : Instant) : Attempt :=
  match u.setState .error now with
  | .ok v => ⟨v, orders, some (.provider reason)⟩
  | .error e => ⟨u, orders, some e⟩

/-- Follows up on the task that an order has started. -/
def applyTask (u : UserService) (orders : List Order) (task : TaskState) (finished : ServiceState)
    (now : Instant) : Attempt :=
  match task with
  | .running => ⟨u, orders, none⟩
  | .finished => u.attemptState orders finished now
  | .failed reason => u.taskFailed orders reason now

/-- Marks the service for removal. The provider is told later. -/
def release (u : UserService) (now : Instant) : Except UserServiceError UserService :=
  u.setState .removable now

/-- Has the provider destroy the service. -/
def remove (u : UserService) (provider : Provider) (now : Instant) : Attempt :=
  if u.state = .usable || u.state = .removable then
    match u.setState .removing now with
    | .ok v => (v.setInUse false now).applyTask [.destroy] (provider.task .destroy) .removed now
    | .error e => ⟨u, [], some e⟩
  else ⟨u, [], some (.illegalTransition u.state .removing)⟩

/-- Ends a preparation. A provider that cannot do so has the service removed after it, and a service
that is not being prepared is removed at once. -/
def cancel (u : UserService) (provider : Provider) (now : Instant) : Attempt :=
  if !u.isPreparing then u.remove provider now
  else if !provider.supportsCancel then ⟨{ u with destroyAfter := true }, [], none⟩
  else match u.setState .canceling now with
    | .ok v => v.applyTask [.cancel] (provider.task .cancel) .canceled now
    | .error e => ⟨u, [], some e⟩

def removeOrCancel (u : UserService) (provider : Provider) (now : Instant) : Attempt :=
  if u.isUsable then u.remove provider now else u.cancel provider now

/-- The provider has finished preparing the service. -/
def finishPreparation (u : UserService) (provider : Provider) (now : Instant) : Attempt :=
  match u.setState .usable now with
  | .error e => ⟨u, [], some e⟩
  | .ok v =>
    if v.destroyAfter then { v with destroyAfter := false }.remove provider now
    else ⟨v, [], none⟩

/-- Moves the service to a cache level. The level is changed whatever comes of the provider's task. -/
def moveToLevel (u : UserService) (level : CacheLevel) (provider : Provider) (now : Instant) : Attempt :=
  if level ≠ .assigned && u.user.isSome then ⟨u, [], some .notAssignable⟩
  else
    let moved := { u with cacheLevel := level }
    match provider.task (.move level) with
    | .running =>
      if moved.isUsable then moved.attemptState [.move level] .preparing now
      else ⟨moved, [.move level], none⟩
    | .failed reason => moved.taskFailed [.move level] reason now
    | .finished => ⟨moved, [.move level], none⟩

end UserService

end SessionBroker
