/-!
# Operations that change a state and may fail

Storage, tickets, administration and calls all work in one kind of operation: a function from a state to an
outcome and the state after it. These lemmas carry out such operations one step at a time.
-/

namespace SessionBroker.Effect

variable {ε σ α β : Type}

theorem run_bind (m : ExceptT ε (StateM σ) α) (f : α → ExceptT ε (StateM σ) β) (s : σ) :
    (m >>= f) s = match m s with
      | (.ok a, s) => f a s
      | (.error e, s) => (.error e, s) := by
  change (ExceptT.bind m f : ExceptT ε (StateM σ) β) s = _
  simp only [ExceptT.bind, ExceptT.mk, bind, StateT.bind]
  cases m s with
  | mk r t => cases r <;> rfl

theorem run_bind_of_ok {m : ExceptT ε (StateM σ) α} {s t : σ} {a : α} (h : m s = (.ok a, t))
    (f : α → ExceptT ε (StateM σ) β) : (m >>= f) s = f a t := by
  rw [run_bind, h]

theorem run_bind_of_error {m : ExceptT ε (StateM σ) α} {s t : σ} {e : ε} (h : m s = (.error e, t))
    (f : α → ExceptT ε (StateM σ) β) : (m >>= f) s = (.error e, t) := by
  rw [run_bind, h]

theorem run_map (f : α → β) (m : ExceptT ε (StateM σ) α) (s : σ) :
    (f <$> m) s = match m s with
      | (.ok a, s) => (.ok (f a), s)
      | (.error e, s) => (.error e, s) := by
  change (ExceptT.map f m : ExceptT ε (StateM σ) β) s = _
  simp only [ExceptT.map, ExceptT.mk, bind, StateT.bind]
  cases m s with
  | mk r t => cases r <;> rfl

theorem bind_ok {m : ExceptT ε (StateM σ) α} {f : α → ExceptT ε (StateM σ) β} {s s' : σ} {b : β}
    (h : (m >>= f) s = (.ok b, s')) : ∃ a t, m s = (.ok a, t) ∧ f a t = (.ok b, s') := by
  rw [run_bind] at h
  cases hm : m s with
  | mk r t =>
    rw [hm] at h
    cases r with
    | ok a => exact ⟨a, t, rfl, h⟩
    | error e => cases h

theorem bind_error {m : ExceptT ε (StateM σ) α} {f : α → ExceptT ε (StateM σ) β} {s s' : σ} {e : ε}
    (h : (m >>= f) s = (.error e, s')) :
    m s = (.error e, s') ∨ ∃ a t, m s = (.ok a, t) ∧ f a t = (.error e, s') := by
  rw [run_bind] at h
  cases hm : m s with
  | mk r t =>
    rw [hm] at h
    cases r with
    | ok a => exact .inr ⟨a, t, rfl, h⟩
    | error e' =>
      cases h
      exact .inl rfl

/-- The operation keeps a property of the state, whatever comes of it. -/
def Keeps (P : σ → Prop) (m : ExceptT ε (StateM σ) α) : Prop := ∀ s, P s → P (m s).2

section Keeps

variable {P : σ → Prop}

theorem Keeps.pure (a : α) : Keeps P (pure a : ExceptT ε (StateM σ) α) := fun _ h => h

theorem Keeps.throw (e : ε) : Keeps P (throw e : ExceptT ε (StateM σ) α) := fun _ h => h

theorem Keeps.bind {m : ExceptT ε (StateM σ) α} {f : α → ExceptT ε (StateM σ) β} (hm : Keeps P m)
    (hf : ∀ a, Keeps P (f a)) : Keeps P (m >>= f) := by
  intro s hs
  have ht := hm s hs
  rw [run_bind]
  cases h : m s with
  | mk r t =>
    rw [h] at ht
    cases r with
    | ok a => exact hf a t ht
    | error e => exact ht

/-- What holds after one operation, the operations that follow on it keep. -/
theorem Keeps.after {m : ExceptT ε (StateM σ) α} {f : α → ExceptT ε (StateM σ) β} {s : σ} (hm : P (m s).2)
    (hf : ∀ a, Keeps P (f a)) : P ((m >>= f) s).2 := by
  rw [run_bind]
  cases h : m s with
  | mk r t =>
    rw [h] at hm
    cases r with
    | ok a => exact hf a t hm
    | error e => exact hm

theorem Keeps.map {m : ExceptT ε (StateM σ) α} (hm : Keeps P m) (f : α → β) : Keeps P (f <$> m) := by
  intro s hs
  have ht := hm s hs
  rw [run_map]
  cases h : m s with
  | mk r t =>
    rw [h] at ht
    cases r <;> exact ht

/-- What follows an operation may be dropped, as far as it only looks at the result. -/
theorem Keeps.of_bind_pure {m : ExceptT ε (StateM σ) α} {f : α → β}
    (h : Keeps P (m >>= fun a => (Pure.pure (f a) : ExceptT ε (StateM σ) β))) : Keeps P m := by
  intro s hs
  have ht := h s hs
  rw [run_bind] at ht
  cases hm : m s with
  | mk r t =>
    rw [hm] at ht
    cases r <;> exact ht

end Keeps

/-- The operation leaves the state as it is. -/
def Looks (m : ExceptT ε (StateM σ) α) : Prop := ∀ s, (m s).2 = s

/-- The operation does not fail in a state that has the property. -/
def Total (P : σ → Prop) (m : ExceptT ε (StateM σ) α) : Prop := ∀ s, P s → ∃ a s', m s = (.ok a, s')

/-- Where the operation fails, it leaves a state that has the property as it is. -/
def Atomic (P : σ → Prop) (m : ExceptT ε (StateM σ) α) : Prop :=
  ∀ s e s', P s → m s = (.error e, s') → s' = s

section Atomic

variable {P : σ → Prop} {m : ExceptT ε (StateM σ) α} {f : α → ExceptT ε (StateM σ) β}

theorem Total.pure (a : α) : Total P (pure a : ExceptT ε (StateM σ) α) := fun s _ => ⟨a, s, rfl⟩

theorem Total.bind (hm : Total P m) (keeps : Keeps P m) (hf : ∀ a, Total P (f a)) :
    Total P (m >>= f) := by
  intro s hs
  have ht : P (m s).2 := keeps s hs
  obtain ⟨a, t, ha⟩ := hm s hs
  rw [ha] at ht
  rw [run_bind, ha]
  exact hf a t ht

theorem Total.atomic (h : Total P m) : Atomic P m := by
  intro s e s' hs hm
  obtain ⟨a, t, ha⟩ := h s hs
  rw [ha] at hm
  cases hm

theorem Looks.atomic (h : Looks m) : Atomic P m := by
  intro s e s' _ hm
  simpa [hm] using h s

theorem Atomic.throw (e : ε) : Atomic P (throw e : ExceptT ε (StateM σ) α) :=
  Looks.atomic fun _ => rfl

/-- What follows a success has to answer for the state before it. -/
theorem Atomic.bind (hm : Atomic P m)
    (hf : ∀ s a t, P s → m s = (.ok a, t) → ∀ e s', f a t = (.error e, s') → s' = s) :
    Atomic P (m >>= f) := by
  intro s e s' hs h
  rcases bind_error h with h | ⟨a, t, ha, hb⟩
  · exact hm s e s' hs h
  · exact hf s a t hs ha e s' hb

/-- Looking first does no harm. -/
theorem Looks.bind_atomic (hm : Looks m) (hf : ∀ a, Atomic P (f a)) : Atomic P (m >>= f) := by
  refine hm.atomic.bind fun s a t hs ha e s' hb => ?_
  have ht : t = s := by simpa [ha] using hm s
  subst ht
  exact hf a t e s' hs hb

/-- What cannot fail may come last. -/
theorem Atomic.bind_total (hm : Atomic P m) (hf : ∀ a, Total (fun _ => True) (f a)) :
    Atomic P (m >>= f) := by
  refine hm.bind fun s a t _ _ e s' hb => ?_
  obtain ⟨b, t', ht⟩ := hf a t trivial
  rw [ht] at hb
  cases hb

end Atomic

end SessionBroker.Effect
