import MobileMoney.Callback.Payload
import MobileMoney.Proofs.Except

/-!
# Completing notices

The amount of a notification is read last.  It completes the event of a notice and changes nothing
else in it, so whatever is done to the rest of the event may as well be done before.
-/

namespace MobileMoney

/-- A complaint about an amount is no complaint about something else. -/
theorem Payload.readAmount_ne_error {provider : Provider} {currency complaint : String}
    (h : complaint.toList.head? ≠ some 'i') (text : Option String) :
    readAmount provider currency text ≠ .error (.callback provider complaint) := by
  intro herror
  cases text with
  | none => simp [readAmount] at herror
  | some text =>
    cases hmoney : Money.ofMajorText text currency with
    | ok money => simp [readAmount, amountOf, hmoney] at herror
    | error error =>
      simp only [readAmount, amountOf, hmoney, Except.error.injEq, PaymentError.callback.injEq,
        true_and] at herror
      apply h
      rw [← herror, String.toList_append]
      rfl

namespace Notice

variable {notice : Notice} {currency : String} {event : CallbackEvent} {error : PaymentError}

theorem complete_eq_ok :
    notice.complete currency = .ok event ↔ ∃ amount,
      Payload.readAmount notice.event.provider currency notice.amount = .ok amount ∧
        notice.event.withAmount amount = event := by
  simp only [complete, completeWith, bind_eq_ok, pure_eq_ok]

theorem complete_eq_error :
    notice.complete currency = .error error ↔
      Payload.readAmount notice.event.provider currency notice.amount = .error error := by
  simp only [complete, completeWith, bind_eq_error, pure_ne_error, and_false, exists_false,
    or_false]

theorem complete_ne_error {complaint : String} (h : complaint.toList.head? ≠ some 'i') :
    notice.complete currency ≠ .error (.callback notice.event.provider complaint) :=
  fun herror ↦ Payload.readAmount_ne_error h _ (complete_eq_error.mp herror)

/-! ## Changes of the event -/

def mapEvent (change : CallbackEvent → CallbackEvent) (notice : Notice) : Notice :=
  { notice with event := change notice.event }

variable {change : CallbackEvent → CallbackEvent} {step changed : Except PaymentError Notice}

theorem complete_mapEvent (hprovider : (change notice.event).provider = notice.event.provider)
    (hamount : ∀ amount,
      (change notice.event).withAmount amount = change (notice.event.withAmount amount)) :
    (notice.mapEvent change).complete currency = (notice.complete currency).map change := by
  simp only [complete, completeWith, mapEvent, hprovider, hamount, map_bind, map_pure]

/-- A change that leaves the provider and the amount alone passes from notices to their events. -/
theorem complete_of_mapEvent (h : changed = step.map (mapEvent change))
    (hprovider : ∀ event, (change event).provider = event.provider)
    (hamount : ∀ event amount,
      (change event).withAmount amount = change (event.withAmount amount)) :
    (changed >>= fun notice ↦ notice.complete currency) =
      (step >>= fun notice ↦ notice.complete currency).map change := by
  subst h
  cases step with
  | error error => rfl
  | ok notice => exact complete_mapEvent (hprovider notice.event) (hamount notice.event)

end Notice

end MobileMoney
