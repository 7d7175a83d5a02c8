import MobileMoney.Proofs.Retry.Timeline
import MobileMoney.Proofs.Session.Initiation

/-!
# Repeated questions

An attempt at a question gets a token where it needs one, asks once, and makes its outcome out of
the answer alone.  `Asks` says so of one attempt, and the rules build it from a request and the
steps around it.  Over all attempts, a value is what the last answer gives, and an answer that
allows no other attempt is the last one.
-/

namespace MobileMoney

open Call

variable {α β : Type} {isQuestion : Request → Bool} {answer : Nat → String → Except PaymentError α}
  {sent : List Exchange} {outcome : Outcome α}

/-! ## Results as outcomes -/

def Outcome.ofExcept : Except PaymentError α → Outcome α
  | .ok value => .done value
  | .error error => .failed error

theorem Outcome.ofExcept_eq_done {result : Except PaymentError α} {value : α} :
    ofExcept result = .done value ↔ result = .ok value := by
  cases result <;> simp [ofExcept]

theorem Outcome.ofExcept_eq_failed {result : Except PaymentError α} {error : PaymentError} :
    ofExcept result = .failed error ↔ result = .error error := by
  cases result <;> simp [ofExcept]

theorem Outcome.ofExcept_ne_aborted (result : Except PaymentError α) :
    ofExcept result ≠ .aborted := by
  cases result <;> simp [ofExcept]

theorem Call.ofExcept_runs (result : Except PaymentError α) :
    (ofExcept result).Sends fun sent outcome ↦ sent = [] ∧ outcome = .ofExcept result := by
  cases result <;> exact fun _ _ ↦ ⟨[], (List.append_nil _).symm, rfl, rfl⟩

/-! ## One attempt -/

/-- Anything but a question that has been answered. -/
def IsUnanswered (isQuestion : Request → Bool) (e : Exchange) : Prop :=
  isQuestion e.request = true → ∀ status body, e.delivery ≠ .answered status body

/-- An attempt ends without a value before there is an answer, or as the answer says. -/
inductive Asks (isQuestion : Request → Bool) (answer : Nat → String → Except PaymentError α) :
    List Exchange → Outcome α → Prop
  | stopped {sent : List Exchange} {outcome : Outcome α}
      (unanswered : ∀ e ∈ sent, IsUnanswered isQuestion e)
      (fruitless : ∀ value, outcome ≠ .done value) : Asks isQuestion answer sent outcome
  | answered {sent : List Exchange} {request : Request} {status : Nat} {body : String}
      {outcome : Outcome α} (unanswered : ∀ e ∈ sent, IsUnanswered isQuestion e)
      (question : isQuestion request = true) (result : outcome = .ofExcept (answer status body)) :
      Asks isQuestion answer (sent ++ [⟨request, .answered status body⟩]) outcome

theorem sendAuthorized_asks (key : TokenKey) {request : Request}
    (hquestion : isQuestion request = true) :
    (sendAuthorized key request).Sends
      (Asks isQuestion fun status body ↦ .ok ⟨key.provider, status, body⟩) := by
  apply (sendAuthorized_sends key request).mono
  intro sent outcome h
  cases h with
  | withheld error => exact .stopped (List.forall_mem_nil _) (by simp)
  | delivered delivery =>
    have hunanswered {lost : Delivery} (hlost : ∀ status body, lost ≠ .answered status body) :
        ∀ e ∈ [(⟨request, lost⟩ : Exchange)], IsUnanswered isQuestion e :=
      List.forall_mem_singleton.mpr fun _ ↦ hlost
    cases delivery with
    | answered status body =>
      have hnone : ∀ e ∈ [], IsUnanswered isQuestion e := List.forall_mem_nil _
      exact .answered hnone hquestion rfl
    | unreachable => exact .stopped (hunanswered (by simp)) (by simp [reply])
    | dropped => exact .stopped (hunanswered (by simp)) (by simp [reply])
    | cutShort => exact .stopped (hunanswered (by simp)) (by simp [reply])

/-- Steps before the question that ask nothing. -/
theorem asks_after {call : Call β} {next : β → Call α}
    (hcall : call.Sends fun sent _ ↦ ∀ e ∈ sent, isQuestion e.request = false)
    (hnext : ∀ value, (next value).Sends (Asks isQuestion answer)) :
    (call >>= next).Sends (Asks isQuestion answer) := by
  have hnone {sent : List Exchange} (h : ∀ e ∈ sent, isQuestion e.request = false) :
      ∀ e ∈ sent, IsUnanswered isQuestion e := by
    intro e he hquestion
    rw [h e he] at hquestion
    contradiction
  apply hcall.bind
  · intro sent value hsent
    apply (hnext value).mono
    intro rest outcome hrest
    cases hrest with
    | stopped hunanswered hfruitless =>
      exact .stopped (List.forall_mem_append.mpr ⟨hnone hsent, hunanswered⟩) hfruitless
    | answered hunanswered hquestion hresult =>
      rw [← List.append_assoc]
      exact .answered (List.forall_mem_append.mpr ⟨hnone hsent, hunanswered⟩) hquestion hresult
  · exact fun sent error hsent ↦ .stopped (hnone hsent) (by simp)
  · exact fun sent hsent ↦ .stopped (hnone hsent) (by simp)

/-- A token for the question. -/
theorem accessToken_bind_asks (policy : RetryPolicy) (key : TokenKey) {exchange : Request}
    {next : String → Call α} (hexchange : isQuestion exchange = false)
    (hnext : ∀ token, (next token).Sends (Asks isQuestion answer)) :
    (accessToken policy key exchange >>= next).Sends (Asks isQuestion answer) := by
  refine asks_after ((accessToken_sends policy key exchange).mono ?_) hnext
  intro sent _ hsent e he
  rw [hsent.same e he, hexchange]

/-- A look at the value. -/
theorem asks_checked {call : Call α} (hcall : call.Sends (Asks isQuestion answer))
    (check : α → Except PaymentError β) :
    (call >>= fun value ↦ Call.ofExcept (check value)).Sends
      (Asks isQuestion fun status body ↦ answer status body >>= check) := by
  apply hcall.bind
  · intro sent value hsent
    refine (Call.ofExcept_runs (check value)).mono fun rest outcome hrest ↦ ?_
    rw [hrest.1, List.append_nil]
    cases hsent with
    | stopped _ hfruitless => exact absurd rfl (hfruitless value)
    | answered hunanswered hquestion hresult =>
      refine .answered hunanswered hquestion ?_
      rw [Outcome.ofExcept_eq_done.mp hresult.symm]
      exact hrest.2
  · intro sent error hsent
    cases hsent with
    | stopped hunanswered _ => exact .stopped hunanswered (by simp)
    | answered hunanswered hquestion hresult =>
      refine .answered hunanswered hquestion ?_
      rw [Outcome.ofExcept_eq_failed.mp hresult.symm]
      rfl
  · intro sent hsent
    cases hsent with
    | stopped hunanswered _ => exact .stopped hunanswered (by simp)
    | answered _ _ hresult => exact absurd hresult.symm (Outcome.ofExcept_ne_aborted _)

/-! ## All attempts -/

/-- A value comes from the last answer, and an answer that allows no other attempt is the last. -/
structure RestsOn (isQuestion : Request → Bool) (answer : Nat → String → Except PaymentError α)
    (sent : List Exchange) (outcome : Outcome α) : Prop where
  done : ∀ value, outcome = .done value → ∃ earlier request status body,
    sent = earlier ++ [⟨request, .answered status body⟩] ∧ isQuestion request = true ∧
      answer status body = .ok value
  final : ∀ earlier request status body later,
    sent = earlier ++ ⟨request, .answered status body⟩ :: later → isQuestion request = true →
      IsFinal (answer status body) → later = [] ∧ outcome = .ofExcept (answer status body)

/-- Where nothing is asked there is no value. -/
theorem RestsOn.of_unanswered (h : ∀ e ∈ sent, IsUnanswered isQuestion e)
    (hfruitless : ∀ value, outcome ≠ .done value) : RestsOn isQuestion answer sent outcome where
  done value hdone := absurd hdone (hfruitless value)
  final earlier request status body later hsent hquestion _ := by
    subst hsent
    exact absurd rfl (h _ (List.mem_append_right _ List.mem_cons_self) hquestion status body)

theorem Asks.restsOn (h : Asks isQuestion answer sent outcome) :
    RestsOn isQuestion answer sent outcome := by
  cases h with
  | stopped hunanswered hfruitless => exact .of_unanswered hunanswered hfruitless
  | @answered exchanges asked code text _ hunanswered hquestion hresult =>
    constructor
    case done =>
      intro value hdone
      exact ⟨exchanges, asked, code, text, rfl, hquestion,
        Outcome.ofExcept_eq_done.mp (hresult.symm.trans hdone)⟩
    case final =>
      intro earlier request status body later hsent hasked _
      obtain rfl | ⟨init, last, rfl⟩ := List.eq_nil_or_concat later
      · have hlast := (List.append_inj' hsent rfl).2
        cases hlast
        exact ⟨rfl, hresult⟩
      · rw [List.concat_eq_append, ← List.cons_append, ← List.append_assoc] at hsent
        obtain ⟨rfl, -⟩ := List.append_inj' hsent rfl
        exact absurd rfl
          (hunanswered _ (List.mem_append_right _ List.mem_cons_self) hasked status body)

theorem Call.Repeated.restsOn {spare : Nat}
    (h : Repeated (Asks isQuestion answer) spare sent outcome) :
    RestsOn isQuestion answer sent outcome := by
  induction h with
  | last attempt => exact attempt.restsOn
  | @again _ sent rest error outcome attempt retryable others ih =>
    constructor
    case done =>
      intro value hdone
      obtain ⟨earlier, request, status, body, rfl, hlast⟩ := ih.done value hdone
      exact ⟨sent ++ earlier, request, status, body, (List.append_assoc ..).symm, hlast⟩
    case final =>
      intro earlier request status body later hsent hasked hfinal
      obtain ⟨between, rfl, hrest⟩ | ⟨between, rfl, hlater⟩ := List.append_eq_append_iff.mp hsent
      · exact ih.final between request status body later hrest hasked hfinal
      · cases between with
        | nil => exact ih.final [] request status body later hlater.symm hasked hfinal
        | cons e between =>
          obtain ⟨rfl, rfl⟩ := List.cons.inj hlater
          -- The answer would have ended the attempt, which was repeated instead.
          have hfailed := (attempt.restsOn.final earlier request status body between rfl hasked
            hfinal).2
          have hretryable := hfinal error (Outcome.ofExcept_eq_failed.mp hfailed.symm)
          rw [retryable] at hretryable
          contradiction

/-- A repeated question. -/
theorem Call.retried_restsOn (policy : RetryPolicy) {call : Call α}
    (hcall : call.Sends (Asks isQuestion answer)) :
    (retried policy call).Sends (RestsOn isQuestion answer) :=
  (retried_sends policy hcall).mono fun _ _ ↦ Repeated.restsOn

/-- A question that is refused before anything is sent. -/
theorem Call.throw_restsOn (error : PaymentError) :
    (throw error : Call α).Sends (RestsOn isQuestion answer) :=
  fun _ _ ↦ ⟨[], (List.append_nil _).symm,
    .of_unanswered (List.forall_mem_nil _) fun _ hdone ↦ by cases hdone⟩

end MobileMoney
