import SessionBroker.Proofs.Effect
import SessionBroker.Ticket.Store

/-!
# Reading tickets is atomic

A ticket is only written once it has been read, so that a read that fails leaves the tickets as they are.
-/

namespace SessionBroker.Ticket

open Effect (Atomic Looks Total)

variable {σ α : Type} {P : σ → Prop} {m : StoreM σ α}

theorem ask_looks (h : Looks m) : Looks (ask m) := h

theorem ask_total (h : Total P m) : Total P (ask m) := by
  intro s hs
  obtain ⟨a, t, ha⟩ := h s hs
  refine ⟨a, t, ?_⟩
  unfold ask
  rw [ha]
  rfl

theorem lift_looks (result : Except TicketError α) : Looks (liftM result : TicketM σ α) := by
  intro s
  cases result <;> rfl

theorem fetch_atomic (cipher : Cipher) (id : String) (invalidate : Bool) (owner : Option String)
    (secure : Bool) (now : Instant) :
    Atomic (fun _ => True) (fetch memoryRepository cipher id invalidate owner secure now) := by
  have find : Looks (ask (memoryRepository.find id)) := ask_looks fun _ => rfl
  have save (record : TicketRecord) : Total (fun _ => True) (ask (memoryRepository.save record)) :=
    ask_total fun t _ => ⟨(), t.put record.id record, rfl⟩
  unfold fetch
  cases secure && owner.isNone with
  | true => exact .throw _
  | false =>
    refine find.bind_atomic fun found => (lift_looks _).bind_atomic fun payload => ?_
    cases invalidate with
    | false => exact Total.atomic (.pure payload.2)
    | true => exact .bind_total (save _).atomic fun _ => .pure payload.2

end SessionBroker.Ticket
