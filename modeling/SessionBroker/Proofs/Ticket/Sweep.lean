import SessionBroker.Proofs.Ticket.Final

/-!
# Sweeps

A sweep drops a ticket some time after it has expired, and any ticket that has grown too old. Both limits are
compared with the one that reads go by: a ticket that is valid for no longer than tickets are kept at all is not
too old before it has expired, also where the range of instants ends on the way. Both limits only move on with
time, so a sweep makes no difference to a later one.
-/

namespace SessionBroker.Ticket

variable {cipher : Cipher} {config : TicketConfig} {t : TicketTable} {record : TicketRecord} {id : String}
  {now first second : Instant}

/-! ## One record -/

theorem outlives_iff : outlives config now record = true ↔
    now ≤ record.expires.after config.grace ∧ now.before config.maxValidity ≤ record.stamp := by
  simp [outlives]

/-- A ticket that can still be read is not too old, if it was not made to last longer than tickets are kept. -/
theorem outlives_of_not_expired (hvalidity : record.validity.ms ≤ config.maxValidity.ms)
    (h : ¬ record.expires < now) : outlives config now record = true := by
  have hleast := record.stamp.least_le
  have hgreatest := now.le_greatest
  rw [Instant.lt_def, expires_ms] at h
  rw [outlives_iff, Instant.le_def, Instant.le_def, Instant.after_ms, Instant.before_ms, expires_ms]
  omega

/-- What outlives a sweep outlives all sweeps before it. -/
theorem outlives_mono (h : first ≤ second) (hr : outlives config second record = true) :
    outlives config first record = true := by
  rw [outlives_iff] at hr ⊢
  rw [Instant.le_def, Instant.le_def, Instant.before_ms] at hr ⊢
  rw [Instant.le_def] at h
  omega

/-! ## The tickets -/

/-- The tickets that a sweep leaves. -/
def swept (config : TicketConfig) (now : Instant) (t : TicketTable) : TicketTable :=
  t.filter fun row => outlives config now row.2

theorem cleanup_eq (config : TicketConfig) (now : Instant) (t : TicketTable) :
    cleanup memoryRepository config now t = (.ok (t.length - (swept config now t).length), swept config now t) :=
  rfl

theorem swept_sublist (config : TicketConfig) (now : Instant) (t : TicketTable) :
    (swept config now t).Sublist t :=
  List.filter_sublist

theorem get?_swept (ht : Sound t) (config : TicketConfig) (now : Instant) (id : String) :
    (swept config now t).get? id = (t.get? id).filter (outlives config now) :=
  Table.get?_filter ht.keys _ id

/-- After a sweep at one instant a later one leaves what it would have left by itself. -/
theorem swept_swept (h : first ≤ second) : swept config second (swept config first t) = swept config second t := by
  unfold swept
  rw [List.filter_filter]
  refine List.filter_congr fun row _ => ?_
  rw [Bool.and_eq_left_iff_imp]
  exact outlives_mono h

/-- The records dropped by two sweeps one after the other are those that the second one drops alone. -/
theorem swept_count (h : first ≤ second) :
    t.length - (swept config first t).length +
        ((swept config first t).length - (swept config second (swept config first t)).length) =
      t.length - (swept config second t).length := by
  have hfirst := (swept_sublist config first t).length_le
  have hsecond := (swept_sublist config second (swept config first t)).length_le
  rw [swept_swept h] at hsecond ⊢
  omega

/-- Whether a ticket can be read does not depend on a sweep at that instant. -/
theorem fetch_swept (ht : Sound t)
    (hvalidity : ∀ record, t.get? id = some record → record.validity.ms ≤ config.maxValidity.ms)
    (invalidate : Bool) (owner : Option String) (secure : Bool) (payload : Json) :
    (fetch memoryRepository cipher id invalidate owner secure now (swept config now t)).1 = .ok payload ↔
      (fetch memoryRepository cipher id invalidate owner secure now t).1 = .ok payload := by
  simp only [fetch_ok_iff, read_ok_iff, get?_swept ht, Option.filter_eq_some_iff]
  refine exists_congr fun record => ?_
  constructor
  · rintro ⟨⟨found, -⟩, hread⟩
    exact ⟨found, hread⟩
  · rintro ⟨found, hread⟩
    exact ⟨⟨found, outlives_of_not_expired (hvalidity record found) hread.2.1⟩, hread⟩

/-- A sweep says how many records it drops and leaves the others as they are. It spares every ticket that has not
expired and is valid for no longer than tickets are kept at all, so that reads at its instant cannot tell whether
there was a sweep. And it makes no difference to the sweeps after it: they leave the same tickets, and together
they drop as many. -/
theorem sweeps_safe (config : TicketConfig) (ht : Sound t) :
    (∀ now, ∃ removed after, cleanup memoryRepository config now t = (.ok removed, after) ∧
      removed + after.length = t.length ∧ after.Sublist t ∧
      (∀ id record, after.get? id = some record → t.get? id = some record) ∧
      (∀ id record, t.get? id = some record → record.validity.ms ≤ config.maxValidity.ms →
        ¬ record.expires < now → after.get? id = some record) ∧
      ∀ cipher id, (∀ record, t.get? id = some record → record.validity.ms ≤ config.maxValidity.ms) →
        ∀ invalidate owner secure payload,
          (fetch memoryRepository cipher id invalidate owner secure now after).1 = .ok payload ↔
            (fetch memoryRepository cipher id invalidate owner secure now t).1 = .ok payload) ∧
    ∀ first second, first ≤ second → ∃ removed removed' between after,
      cleanup memoryRepository config first t = (.ok removed, between) ∧
      cleanup memoryRepository config second between = (.ok removed', after) ∧
      cleanup memoryRepository config second t = (.ok (removed + removed'), after) := by
  refine ⟨fun now => ⟨_, _, cleanup_eq config now t, ?count, ?kept, ?untouched, ?spared, ?reads⟩,
    fun first second h => ⟨_, _, _, _, cleanup_eq config first t, cleanup_eq config second _, ?twice⟩⟩
  case count => exact Nat.sub_add_cancel (swept_sublist config now t).length_le
  case kept => exact swept_sublist config now t
  case untouched =>
    intro id record found
    rw [get?_swept ht] at found
    exact Option.eq_some_of_filter_eq_some found
  case spared =>
    intro id record found hvalidity hvalid
    rw [get?_swept ht, found]
    exact Option.filter_some_pos (outlives_of_not_expired hvalidity hvalid)
  case reads => exact fun cipher id hvalidity => fetch_swept ht hvalidity
  case twice => rw [cleanup_eq, swept_count h, swept_swept h]

/-- A ticket that is never too old is spared at the last instant there is. One that was used up at the epoch, with its
stamp moved to the other end of the range, is gone. -/
theorem sweeps_safe_endless :
    let endless : Duration := .ofSeconds 18446744073709551615
    let config : TicketConfig := { TicketConfig.standard with maxValidity := endless }
    let kept : TicketRecord := ⟨"a", none, .epoch, endless, [], none⟩
    let used : TicketRecord := invalidated ⟨"b", none, .epoch, endless, [], none⟩ .epoch
    let t : TicketTable := [("a", kept), ("b", used)]
    let last : Instant := .ofMs Instant.greatest
    Sound t ∧ ¬ kept.expires < last ∧ Instant.epoch ≤ last ∧ ∃ removed removed' between after,
      cleanup memoryRepository config .epoch t = (.ok removed, between) ∧
      cleanup memoryRepository config last between = (.ok removed', after) ∧
      cleanup memoryRepository config last t = (.ok (removed + removed'), after) ∧
      after.get? "a" = some kept ∧ removed = 1 := by
  intro endless config kept used t last
  have ht : Sound t := (Sound.empty.put kept).put used
  have hvalid : ¬ kept.expires < last := by decide
  have hlast : Instant.epoch ≤ last := by decide
  obtain ⟨once, twice⟩ := sweeps_safe config ht
  obtain ⟨_, _, hsweep, -, -, -, hspared, -⟩ := once last
  obtain ⟨removed, removed', between, _, hfirst, hsecond, hboth⟩ := twice .epoch last hlast
  cases hsweep.symm.trans hboth
  have hremoved : removed = 1 := Except.ok.inj (Prod.mk.inj hfirst).1.symm
  exact ⟨ht, hvalid, hlast, removed, removed', between, _, hfirst, hsecond, hboth,
    hspared "a" kept rfl (Nat.le_refl _) hvalid, hremoved⟩

end SessionBroker.Ticket
