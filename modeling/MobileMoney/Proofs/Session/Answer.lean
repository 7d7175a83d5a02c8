import MobileMoney.Proofs.Session.Initiation

/-!
# Values that come from an answer

`AnsweredWith` says of a call that its value comes from the last request it sent, which has been
answered.  The rules put such a call together from one request and steps before and after it.
-/

namespace MobileMoney

open Call

variable {α β : Type} {fits : Request → String → α → Prop}
  {fits' : Request → String → β → Prop}

def AnsweredWith (fits : Request → String → α → Prop) (sent : List Exchange)
    (outcome : Outcome α) : Prop :=
  ∀ value, outcome = .done value → ∃ earlier request status body,
    sent = earlier ++ [⟨request, .answered status body⟩] ∧ fits request body value

theorem AnsweredWith.mono {weaker : Request → String → α → Prop} {sent : List Exchange}
    {outcome : Outcome α} (h : AnsweredWith fits sent outcome)
    (hfits : ∀ request body value, fits request body value → weaker request body value) :
    AnsweredWith weaker sent outcome := by
  intro value hdone
  obtain ⟨earlier, request, status, body, hsent, hvalue⟩ := h value hdone
  exact ⟨earlier, request, status, body, hsent, hfits _ _ _ hvalue⟩

theorem answeredWith_submit {call : Call Reply} {provider : Provider} {request : Request}
    (hcall : call.Sends (Submits provider request)) :
    call.Sends (AnsweredWith fun asked body reply ↦ asked = request ∧ reply.body = body) := by
  apply hcall.mono
  intro sent outcome h
  cases h with
  | withheld error => exact fun value h ↦ nomatch h
  | delivered delivery =>
    intro answer hdone
    cases delivery with
    | answered status body =>
      obtain rfl := Outcome.done.inj hdone
      exact ⟨[], request, status, body, rfl, rfl, rfl⟩
    | unreachable => nomatch hdone
    | dropped => nomatch hdone
    | cutShort => nomatch hdone

/-- Steps before the request. -/
theorem answeredWith_after {call : Call β} {next : β → Call α}
    {first : List Exchange → Outcome β → Prop} (hcall : call.Sends first)
    (hnext : ∀ value, (next value).Sends (AnsweredWith fits)) :
    (call >>= next).Sends (AnsweredWith fits) := by
  apply hcall.bind
  · intro sent value _
    apply (hnext value).mono
    intro rest outcome hrest found hdone
    obtain ⟨earlier, request, status, body, hsent, hfits⟩ := hrest found hdone
    refine ⟨sent ++ earlier, request, status, body, ?_, hfits⟩
    rw [hsent, List.append_assoc]
  · exact fun _ _ _ _ h ↦ nomatch h
  · exact fun _ _ _ h ↦ nomatch h

/-- A check before the request, which has been passed when there is a value. -/
theorem answeredWith_ofExcept {result : Except PaymentError β} {next : β → Call α}
    (hnext : ∀ value, result = .ok value → (next value).Sends (AnsweredWith fits)) :
    (Call.ofExcept result >>= next).Sends (AnsweredWith fits) := by
  cases result with
  | ok value => exact hnext value rfl
  | error error => exact fun _ _ ↦ ⟨[], (List.append_nil _).symm, fun _ h ↦ nomatch h⟩

/-- A look at the value. -/
theorem answeredWith_checked {call : Call α} {check : α → Except PaymentError β}
    (hcall : call.Sends (AnsweredWith fits))
    (hcheck : ∀ request body value found, fits request body value → check value = .ok found →
      fits' request body found) :
    (call >>= fun value ↦ Call.ofExcept (check value)).Sends (AnsweredWith fits') := by
  apply hcall.bind
  · intro sent value hsent
    apply (ofExcept_sends (check value)).mono
    intro rest outcome hrest found hdone
    obtain ⟨rfl, houtcome⟩ := hrest
    obtain ⟨earlier, request, status, body, hlast, hfits⟩ := hsent value rfl
    refine ⟨earlier, request, status, body, ?_, ?_⟩
    · rw [List.append_nil, hlast]
    · exact hcheck _ _ _ _ hfits ((houtcome found).mp hdone)
  · exact fun _ _ _ _ h ↦ nomatch h
  · exact fun _ _ _ h ↦ nomatch h

end MobileMoney
