import SessionBroker.Json.Decode

/-!
# Restraint of failing pools

A pool is restrained while at least `threshold` of its user services went into the error state within
the trailing `window`. A window or a threshold of zero turns the policy off. The restraint lifts once
only `threshold - 1` errors remain in the window, so what decides about the time left is the error that
stands `threshold` places from the newest.
-/

namespace SessionBroker

structure RestraintPolicy where
  window : Duration
  threshold : Nat
deriving DecidableEq, Repr

namespace RestraintPolicy

def standard : RestraintPolicy := ⟨.ofSeconds 600, 3⟩

def reader : RecordReader RestraintPolicy :=
  RestraintPolicy.mk <$> .defaulted "window" standard.window
    <*> .defaultedWith "threshold" Json.decodeUsize standard.threshold

instance : FromJson RestraintPolicy := ⟨reader.read "RestraintPolicy"⟩
instance : ToJson RestraintPolicy := ⟨fun p => Json.object
  [("window", toJson p.window), ("threshold", toJson p.threshold)]⟩

def isEnabled (p : RestraintPolicy) : Bool := !p.window.isZero && 0 < p.threshold

/-- The error lies in the window that ends now. The window is open at its older end. -/
def inWindow (p : RestraintPolicy) (now error : Instant) : Bool :=
  now.before p.window < error && error ≤ now

/-- The errors inside the window, oldest first. -/
def qualifying (p : RestraintPolicy) (errors : List Instant) (now : Instant) : List Instant :=
  (errors.filter (p.inWindow now)).mergeSort (· ≤ ·)

def isRestrained (p : RestraintPolicy) (errors : List Instant) (now : Instant) : Bool :=
  p.isEnabled && p.threshold ≤ (p.qualifying errors now).length

/-- How long the pool will stay restrained if nothing else fails; zero if it is not. -/
def remaining (p : RestraintPolicy) (errors : List Instant) (now : Instant) : Duration :=
  if p.isEnabled then
    let recent := p.qualifying errors now
    if recent.length < p.threshold then .zero
    else match recent[recent.length - p.threshold]? with
      | some pivot => now.timeUntil (pivot.after p.window)
      | none => .zero
  else .zero

end RestraintPolicy

end SessionBroker
