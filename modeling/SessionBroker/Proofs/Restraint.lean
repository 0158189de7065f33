import SessionBroker.Restraint

/-!
# How long a restraint lasts

The errors that restrain a pool leave its window one after the other, the oldest first. The pool stays restrained
as long as the error that stands `threshold` places from the newest is in the window, since then all that are
newer are in it as well, and no longer, since then too few are left. The time that `remaining` tells is the time
until that error leaves.
-/

namespace SessionBroker

/-! ## Windows -/

/-- The instant lies in the window that ends now. -/
def withinWindow (window : Duration) (now instant : Instant) : Bool :=
  now.ms - window.ms < instant.ms && instant.ms ≤ now.ms

theorem Duration.eq_zero_iff (d : Duration) : d = .zero ↔ d.ms = 0 := by
  cases d
  simp [zero]

namespace Instant

/-- The range of instants reaches back to the start of the window. -/
def Reaches (now : Instant) (window : Duration) : Prop := (now.before window).ms = now.ms - window.ms

instance (now : Instant) (window : Duration) : Decidable (now.Reaches window) :=
  inferInstanceAs (Decidable (_ = _))

/-- The range of instants reaches on to the end of a window that starts here. -/
def ReachesOn (start : Instant) (window : Duration) : Prop := (start.after window).ms = start.ms + window.ms

instance (start : Instant) (window : Duration) : Decidable (start.ReachesOn window) :=
  inferInstanceAs (Decidable (_ = _))

theorem Reaches.later {now later : Instant} {window : Duration} (h : now.Reaches window) (hlater : now ≤ later) :
    later.Reaches window := by
  have hgreatest := later.le_greatest
  unfold Reaches at h ⊢
  rw [before_ms] at h ⊢
  rw [le_def] at hlater
  omega

/-- A window that ends later starts no earlier. -/
theorem before_le_before {now later : Instant} (h : now ≤ later) (window : Duration) :
    now.before window ≤ later.before window := by
  rw [le_def] at h ⊢
  rw [before_ms, before_ms]
  omega

end Instant

namespace RestraintPolicy

variable {p : RestraintPolicy} {errors : List Instant} {now : Instant}

theorem inWindow_eq (h : now.Reaches p.window) (instant : Instant) :
    p.inWindow now instant = withinWindow p.window now instant := by
  have hstart : (now.before p.window < instant) ↔ now.ms - p.window.ms < instant.ms := by
    rw [Instant.lt_def, h]
  unfold inWindow withinWindow
  simp only [hstart, Instant.le_def]

/-! ## The errors in the window -/

theorem qualifying_perm (p : RestraintPolicy) (errors : List Instant) (now : Instant) :
    (p.qualifying errors now).Perm (errors.filter (p.inWindow now)) :=
  List.mergeSort_perm ..

theorem qualifying_sorted (p : RestraintPolicy) (errors : List Instant) (now : Instant) :
    (p.qualifying errors now).Pairwise (· ≤ ·) := by
  have hsorted : (p.qualifying errors now).Pairwise fun a b => decide (a ≤ b) = true := by
    refine List.pairwise_mergeSort (fun a b c hab hbc => ?_) (fun a b => ?_) _
    · exact decide_eq_true (Int.le_trans (of_decide_eq_true hab) (of_decide_eq_true hbc))
    · simpa [Instant.le_def] using Int.le_total a.ms b.ms
  exact hsorted.imp of_decide_eq_true

/-- The errors in the window can be put in order in one way only. -/
theorem qualifying_eq {sorted : List Instant} (hsorted : sorted.Pairwise (· ≤ ·))
    (h : sorted.Perm (errors.filter (p.inWindow now))) : p.qualifying errors now = sorted := by
  have hperm : (p.qualifying errors now).Perm sorted := (p.qualifying_perm errors now).trans h.symm
  refine hperm.eq_of_pairwise (fun a b _ _ hab hba => ?_) (p.qualifying_sorted _ _) hsorted
  cases a
  cases b
  simpa using Int.le_antisymm hab hba

/-- Two lists of the same errors have the same errors in the window, oldest first. -/
theorem qualifying_eq_of_perm {errors' : List Instant} (h : errors'.Perm errors) :
    p.qualifying errors' now = p.qualifying errors now :=
  qualifying_eq (p.qualifying_sorted errors now) ((p.qualifying_perm errors now).trans (h.filter _).symm)

/-- The errors in a window that ends later are those of the earlier window that lie behind its start, provided that
there is no error in between. -/
theorem length_qualifying_later (hpast : ∀ e ∈ errors, e ≤ now) {later : Instant} (hlater : now ≤ later) :
    (p.qualifying errors later).length = (p.qualifying errors now).countP (later.before p.window < ·) := by
  rw [(p.qualifying_perm errors later).length_eq, (p.qualifying_perm errors now).countP_eq,
    ← List.countP_eq_length_filter, List.countP_filter]
  refine List.countP_congr fun e he => ?_
  have hpast := hpast e he
  have hstart := Instant.before_le_before hlater p.window
  simp only [inWindow, Bool.and_eq_true, decide_eq_true_eq, Instant.lt_def, Instant.le_def] at hpast hlater hstart ⊢
  omega

/-! ## The error that decides -/

/-- At least `k` errors of a sorted list lie behind an instant exactly if the one that stands `k` places from the
newest does. -/
theorem le_countP_iff {recent : List Instant} (hsorted : recent.Pairwise (· ≤ ·)) {k : Nat} (hk : 0 < k)
    (hlength : k ≤ recent.length) (start : Instant) :
    k ≤ recent.countP (start < ·) ↔ start < recent[recent.length - k] := by
  induction recent with
  | nil => exact absurd hlength (Nat.not_le.mpr hk)
  | cons oldest newer ih =>
    obtain ⟨holdest, hnewer⟩ := List.pairwise_cons.mp hsorted
    have hcount : newer.countP (start < ·) ≤ newer.length := List.countP_le_length
    rw [List.length_cons] at hlength
    by_cases hall : k = newer.length + 1
    · -- all of them have to lie behind the instant, and they do if the oldest does
      subst hall
      simp only [List.length_cons, Nat.sub_self, List.getElem_cons_zero, List.countP_cons, decide_eq_true_eq]
      by_cases hstart : start < oldest
      · have hbehind : newer.countP (start < ·) = newer.length :=
          List.countP_eq_length.mpr fun e he => decide_eq_true (Int.lt_of_lt_of_le hstart (holdest e he))
        simp [hstart, hbehind]
      · simp only [hstart, if_false, iff_false]
        omega
    · have hplace : newer.length + 1 - k = newer.length - k + 1 := by omega
      have hrest := ih hnewer (by omega)
      simp only [List.length_cons, hplace, List.getElem_cons_succ, List.countP_cons, decide_eq_true_eq]
      rw [← hrest]
      by_cases hstart : start < oldest
      · have hbehind : newer.countP (start < ·) = newer.length :=
          List.countP_eq_length.mpr fun e he => decide_eq_true (Int.lt_of_lt_of_le hstart (holdest e he))
        simp only [hstart, if_true, hbehind]
        omega
      · simp [hstart]

/-- The error that stands `threshold` places from the newest in the window, if there are so many. -/
def decisive (p : RestraintPolicy) (errors : List Instant) (now : Instant) : Option Instant :=
  if p.isEnabled && p.threshold ≤ (p.qualifying errors now).length then
    (p.qualifying errors now)[(p.qualifying errors now).length - p.threshold]?
  else none

theorem remaining_eq (p : RestraintPolicy) (errors : List Instant) (now : Instant) :
    p.remaining errors now = match p.decisive errors now with
      | some e => now.timeUntil (e.after p.window)
      | none => .zero := by
  unfold remaining decisive
  cases p.isEnabled with
  | false => rfl
  | true =>
    by_cases hfew : (p.qualifying errors now).length < p.threshold
    · simp [hfew, Nat.not_le.mpr hfew]
    · have hmany : (true && decide (p.threshold ≤ (p.qualifying errors now).length)) = true :=
        decide_eq_true (Nat.not_lt.mp hfew)
      rw [if_pos hmany, if_pos rfl]
      exact if_neg hfew

theorem mem_of_decisive {e : Instant} (h : p.decisive errors now = some e) :
    e ∈ errors ∧ p.inWindow now e = true := by
  unfold decisive at h
  split at h
  · have hmem := (p.qualifying_perm errors now).mem_iff.mp (List.mem_of_getElem? h)
    exact List.mem_filter.mp hmem
  · cases h

/-- A pool is restrained later on as long as the error that decides has not left the window. -/
theorem isRestrained_later (hpast : ∀ e ∈ errors, e ≤ now) {later : Instant} (hlater : now ≤ later) :
    p.isRestrained errors later = (p.decisive errors now).any (later.before p.window < ·) := by
  unfold isRestrained decisive
  rw [length_qualifying_later hpast hlater]
  cases henabled : p.isEnabled with
  | false => rfl
  | true =>
    have hthreshold : 0 < p.threshold := by
      simp only [isEnabled, Bool.and_eq_true, decide_eq_true_eq] at henabled
      exact henabled.2
    by_cases hfew : (p.qualifying errors now).length < p.threshold
    · have hcount : (p.qualifying errors now).countP (later.before p.window < ·) ≤ (p.qualifying errors now).length :=
        List.countP_le_length
      simp [Nat.not_le.mpr hfew, Nat.not_le.mpr (Nat.lt_of_le_of_lt hcount hfew)]
    · have hlength := Nat.not_lt.mp hfew
      simp only [hlength, le_countP_iff (p.qualifying_sorted errors now) hthreshold hlength, decide_true,
        Bool.and_self, Bool.true_and, if_true]
      rw [List.getElem?_eq_getElem (by omega), Option.any_some]

/-- For errors that have all happened and a window that lies within the range of instants, `remaining` is the
time that the restraint lasts: the pool is restrained now exactly if there is time left, and from now on exactly up
to the end of that time. In which order the errors are given does not matter. -/
theorem remaining_exact (p : RestraintPolicy) {errors : List Instant} {now : Instant}
    (hpast : ∀ e ∈ errors, e ≤ now) (hstart : now.Reaches p.window) (hend : ∀ e ∈ errors, e.ReachesOn p.window) :
    (p.isRestrained errors now = true ↔ p.remaining errors now ≠ .zero) ∧
    (∀ t, now ≤ t → (p.isRestrained errors t = true ↔ t.ms < now.ms + (p.remaining errors now).ms)) ∧
    ∀ errors', errors'.Perm errors → ∀ t,
      p.isRestrained errors' t = p.isRestrained errors t ∧ p.remaining errors' t = p.remaining errors t := by
  have lasts : ∀ t, now ≤ t → (p.isRestrained errors t = true ↔ t.ms < now.ms + (p.remaining errors now).ms) := by
    intro t ht
    rw [isRestrained_later hpast ht, remaining_eq]
    cases hdecisive : p.decisive errors now with
    | none =>
      rw [Instant.le_def] at ht
      simp only [Option.any_none, Bool.false_eq_true, false_iff, Duration.zero]
      omega
    | some e =>
      obtain ⟨hmem, hwindow⟩ := mem_of_decisive hdecisive
      have hinside : now.ms - p.window.ms < e.ms := by
        simp only [inWindow, Bool.and_eq_true, decide_eq_true_eq] at hwindow
        exact hstart ▸ hwindow.1
      have hleft : ((now.timeUntil (e.after p.window)).ms : Int) = e.ms + p.window.ms - now.ms := by
        have hleaves := hend e hmem
        have hgone : e.ms ≤ now.ms := hpast e hmem
        have hlast := (e.after p.window).le_greatest
        have hfirst := (now.before p.window).least_le
        unfold Instant.ReachesOn at hleaves
        unfold Instant.Reaches at hstart
        rw [hleaves] at hlast
        rw [hstart] at hfirst
        rw [Instant.timeUntil_ms, hleaves] <;> omega
      have hbehind : t.before p.window < e ↔ t.ms - p.window.ms < e.ms := by
        rw [Instant.lt_def, hstart.later ht]
      simp only [Option.any_some, decide_eq_true_eq, hbehind, hleft]
      omega
  refine ⟨?_, lasts, fun errors' hperm t => ?_⟩
  · rw [lasts now (Int.le_refl _), Ne, Duration.eq_zero_iff]
    omega
  · unfold isRestrained remaining
    rw [qualifying_eq_of_perm hperm]
    exact ⟨rfl, rfl⟩

/-- Three errors within twenty minutes restrain the pool until the oldest of them is twenty minutes old, in whatever
order they are given. -/
theorem remaining_exact_three :
    let p : RestraintPolicy := ⟨.ofSeconds 1200, 3⟩
    let errors := [Instant.ofSeconds 300, .ofSeconds 100, .ofSeconds 200]
    let now := Instant.ofSeconds 300
    (∀ e ∈ errors, e ≤ now) ∧ now.Reaches p.window ∧ (∀ e ∈ errors, e.ReachesOn p.window) ∧
      p.remaining errors now = .ofSeconds 1000 ∧ p.isRestrained errors (.ofSeconds 1299) = true ∧
      p.isRestrained errors (.ofSeconds 1300) = false ∧ p.remaining errors.reverse now = .ofSeconds 1000 := by
  intro p errors now
  have hpast : ∀ e ∈ errors, e ≤ now := by decide
  have hstart : now.Reaches p.window := by decide
  have hend : ∀ e ∈ errors, e.ReachesOn p.window := by decide
  have hrecent : p.qualifying errors now = [.ofSeconds 100, .ofSeconds 200, .ofSeconds 300] :=
    qualifying_eq (by decide) (by decide)
  have hleft : p.remaining errors now = .ofSeconds 1000 := by
    unfold remaining
    rw [hrecent]
    decide
  obtain ⟨-, lasts, unordered⟩ := remaining_exact p hpast hstart hend
  rw [hleft] at lasts
  refine ⟨hpast, hstart, hend, hleft, (lasts _ (by decide)).mpr (by decide), ?_, ?_⟩
  · exact Bool.eq_false_iff.mpr fun h => absurd ((lasts _ (by decide)).mp h) (by decide)
  · rw [(unordered errors.reverse (List.reverse_perm errors) now).2, hleft]

end RestraintPolicy

end SessionBroker
