import MobileMoney.Proofs.Except
import MobileMoney.Proofs.Json.Slot
import MobileMoney.Proofs.Money.Canonical
import MobileMoney.Record.Payment
import MobileMoney.Record.Reconciliation

/-!
# Amounts in records

Every record that holds an amount of money reads it in one way: from the document in its place,
which states a number of minor units and a text for the currency.
-/

namespace MobileMoney

open Json

/-- A document that states a number of minor units next to a text for the currency. -/
def Json.StatesAmount (document : Json) (amount : Nat) (currency : String) : Prop :=
  document.field? "amount_minor_units" 0 = some (.nat amount) ∧
    document.field? "currency" 1 = some (.text currency)

theorem Money.exists_of_ofJson? {document : Json} {money : Money}
    (h : ofJson? document = some money) :
    ∃ amount currency, document.StatesAmount amount currency ∧
      ofMinor amount currency = .ok money := by
  simp only [ofJson?, Option.bind_eq_bind, Option.bind_eq_some_iff] at h
  obtain ⟨slots, hslots, h⟩ := h
  split at h
  · next amountSlot currencySlot =>
    simp only [Option.bind_eq_some_iff, Slot.required?_eq_some_iff, nat?_eq_some_iff,
      text?_eq_some_iff] at h
    obtain ⟨amount, ⟨_, rfl, rfl⟩, currency, ⟨_, rfl, rfl⟩, hmoney⟩ := h
    exact ⟨amount, currency, ⟨field?_of_slots? hslots rfl rfl, field?_of_slots? hslots rfl rfl⟩,
      toOption_eq_some_iff.mp hmoney⟩
  · simp at h

/-- The records that hold an amount of money. -/
inductive AmountRecord where
  | money
  | collection
  | disbursement
  | event
  | payment
  | invoice
  | paired
  | reported

namespace AmountRecord

/-- The amount in the record that is read from a document. -/
def amount? : AmountRecord → Json → Option Money
  | money, document => Money.ofJson? document
  | collection, document => (CollectionRequest.ofJson? document).map (·.amount)
  | disbursement, document => (DisbursementRequest.ofJson? document).map (·.amount)
  | event, document => (CallbackEvent.ofJson? document).bind (·.amount)
  | payment, document => (PaymentRecord.ofJson? document).map (·.amount)
  | invoice, document => (InvoiceRecord.ofJson? document).map (·.due)
  | paired, document => (Reconciliation.Match.ofJson? document).map (·.amount)
  | reported, document => (Reconciliation.ReportException.ofJson? document).map (·.amount)

/-- The document that the amount is read from. -/
def part? : AmountRecord → Json → Option Json
  | money => some
  | collection | disbursement => field? "amount" 0
  | event => field? "amount" 5
  | payment => field? "amount" 1
  | invoice => field? "amount_due" 1
  | paired | reported => field? "amount" 2

theorem exists_part?_of_amount? {record : AmountRecord} {document : Json} {money : Money}
    (h : record.amount? document = some money) :
    ∃ part, record.part? document = some part ∧ Money.ofJson? part = some money := by
  cases record with
  | money => exact ⟨document, rfl, h⟩
  | collection =>
    obtain ⟨_, hread, rfl⟩ := Option.map_eq_some_iff.mp h
    unfold CollectionRequest.ofJson? at hread
    obtain ⟨slots, hslots, hread⟩ := Option.bind_eq_some_iff.mp hread
    split at hread
    · simp only [Option.bind_eq_bind, Option.bind_eq_some_iff, Slot.required?_eq_some_iff] at hread
      obtain ⟨amount, ⟨part, rfl, hmoney⟩, _, -, _, -, _, -, ⟨⟩⟩ := hread
      exact ⟨part, field?_of_slots? hslots rfl rfl, hmoney⟩
    · cases hread
  | disbursement =>
    obtain ⟨_, hread, rfl⟩ := Option.map_eq_some_iff.mp h
    unfold DisbursementRequest.ofJson? at hread
    obtain ⟨slots, hslots, hread⟩ := Option.bind_eq_some_iff.mp hread
    split at hread
    · simp only [Option.bind_eq_bind, Option.bind_eq_some_iff, Slot.required?_eq_some_iff] at hread
      obtain ⟨amount, ⟨part, rfl, hmoney⟩, _, -, _, -, _, -, _, -, _, -, _, -, _, -, ⟨⟩⟩ := hread
      exact ⟨part, field?_of_slots? hslots rfl rfl, hmoney⟩
    · cases hread
  | event =>
    obtain ⟨_, hread, hamount⟩ := Option.bind_eq_some_iff.mp h
    unfold CallbackEvent.ofJson? at hread
    obtain ⟨slots, hslots, hread⟩ := Option.bind_eq_some_iff.mp hread
    split at hread
    · -- the amount is the sixth of thirteen fields
      iterate 5 obtain ⟨_, -, hread⟩ := Option.bind_eq_some_iff.mp hread
      obtain ⟨amount, hfield, hread⟩ := Option.bind_eq_some_iff.mp hread
      iterate 7 obtain ⟨_, -, hread⟩ := Option.bind_eq_some_iff.mp hread
      obtain rfl := Option.some.inj hread
      obtain rfl := hamount
      obtain ⟨part, rfl, hmoney⟩ := Slot.given_of_optional? hfield
      exact ⟨part, field?_of_slots? hslots rfl rfl, hmoney⟩
    · cases hread
  | payment =>
    obtain ⟨_, hread, rfl⟩ := Option.map_eq_some_iff.mp h
    unfold PaymentRecord.ofJson? at hread
    obtain ⟨slots, hslots, hread⟩ := Option.bind_eq_some_iff.mp hread
    split at hread
    · simp only [Option.bind_eq_bind, Option.bind_eq_some_iff, Slot.required?_eq_some_iff] at hread
      obtain ⟨_, -, amount, ⟨part, rfl, hmoney⟩, _, -, _, -, _, -, _, -, ⟨⟩⟩ := hread
      exact ⟨part, field?_of_slots? hslots rfl rfl, hmoney⟩
    · cases hread
  | invoice =>
    obtain ⟨_, hread, rfl⟩ := Option.map_eq_some_iff.mp h
    unfold InvoiceRecord.ofJson? at hread
    obtain ⟨slots, hslots, hread⟩ := Option.bind_eq_some_iff.mp hread
    split at hread
    · simp only [Option.bind_eq_bind, Option.bind_eq_some_iff, Slot.required?_eq_some_iff] at hread
      obtain ⟨_, -, amount, ⟨part, rfl, hmoney⟩, _, -, _, -, ⟨⟩⟩ := hread
      exact ⟨part, field?_of_slots? hslots rfl rfl, hmoney⟩
    · cases hread
  | paired =>
    obtain ⟨_, hread, rfl⟩ := Option.map_eq_some_iff.mp h
    unfold Reconciliation.Match.ofJson? at hread
    obtain ⟨slots, hslots, hread⟩ := Option.bind_eq_some_iff.mp hread
    split at hread
    · simp only [Option.bind_eq_bind, Option.bind_eq_some_iff, Slot.required?_eq_some_iff] at hread
      obtain ⟨_, -, _, -, amount, ⟨part, rfl, hmoney⟩, _, -, ⟨⟩⟩ := hread
      exact ⟨part, field?_of_slots? hslots rfl rfl, hmoney⟩
    · cases hread
  | reported =>
    obtain ⟨_, hread, rfl⟩ := Option.map_eq_some_iff.mp h
    unfold Reconciliation.ReportException.ofJson? at hread
    obtain ⟨slots, hslots, hread⟩ := Option.bind_eq_some_iff.mp hread
    split at hread
    · simp only [Option.bind_eq_bind, Option.bind_eq_some_iff, Slot.required?_eq_some_iff] at hread
      obtain ⟨_, -, _, -, amount, ⟨part, rfl, hmoney⟩, _, -, ⟨⟩⟩ := hread
      exact ⟨part, field?_of_slots? hslots rfl rfl, hmoney⟩
    · cases hread

end AmountRecord

end MobileMoney
