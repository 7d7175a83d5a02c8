import Mathlib.Data.List.Induction
import MobileMoney.Token.Grant

/-!
# Histories of tokens

What a client has sent is a list of token exchanges and of requests that bear a token.  Such a list
says which credential the client should hold: the last one it got, unless a request with a token was
answered 401 after that.  An orderly history uses that credential and no other, and exchanges only
when it holds none that is usable; everything that is promised about tokens follows from this.
-/

namespace MobileMoney

def Request.Bears (request : Request) (token : String) : Prop :=
  request.header? "authorization" = some (bearer token).2

/-- A client of a rail that knows tokens.  Its exchange request bears none. -/
structure TokenClient where
  key : TokenKey
  exchangeRequest : Request
  bearsNone : ∀ token, ¬ exchangeRequest.Bears token

/-- The grant in the answer to an exchange.  A broken connection gives none, whatever came first. -/
def TokenClient.grant? (client : TokenClient) : Delivery → Option TokenGrant
  | .answered status body => (TokenGrant.ofReply ⟨client.key.provider, status, body⟩).toOption
  | _ => none

/-- A token exchange with the credential that came of it, or a request that bears a token. -/
inductive TokenEvent where
  | exchange (delivery : Delivery) (issued : Option Credential)
  | authorized (request : Request) (token : String) (delivery : Delivery)

namespace TokenEvent

def entry (client : TokenClient) : TokenEvent → Exchange
  | exchange delivery _ => ⟨client.exchangeRequest, delivery⟩
  | authorized request _ delivery => ⟨request, delivery⟩

/-- The credential of a successful exchange. -/
def issued? : TokenEvent → Option Credential
  | exchange _ issued => issued
  | authorized _ _ _ => none

def isSuccessful (event : TokenEvent) : Bool :=
  event.issued?.isSome

/-- Whether a request with a token was answered 401.  A reply that breaks off is not an answer. -/
def isRejected : TokenEvent → Bool
  | authorized _ _ (.answered status _) => status = 401
  | _ => false

/-- The event tells what happened: a credential was issued for a grant, at a reading of the clock,
and to nothing else; a request bears the token that it is said to bear. -/
def IsAccurate (client : TokenClient) (world : World) (readings : Nat) : TokenEvent → Prop
  | exchange delivery issued =>
    match client.grant? delivery with
    | some grant => ∃ reading < readings, issued = Credential.issue? grant (world.clock reading)
    | none => issued = none
  | authorized request token _ => request.Bears token

/-- The credential that a client holds after an event. -/
def heldAfter (held : Option Credential) (event : TokenEvent) : Option Credential :=
  if event.isRejected then none else event.issued?.or held

/-- Whether a client that holds a credential acts as it should. -/
def IsAllowed (world : World) (margin : Duration) (readings : Nat) (held : Option Credential) :
    TokenEvent → Prop
  | exchange _ _ => ∀ credential, held = some credential →
      ∃ reading < readings, credential.isUsable? (world.clock reading) margin = some false
  | authorized _ token _ => ∃ credential, held = some credential ∧ credential.token = token

end TokenEvent

open TokenEvent

/-- The credential that is held after some events. -/
def held (events : List TokenEvent) : Option Credential :=
  events.foldl heldAfter none

/-- Events that tell what happened, each of which was allowed after those before it. -/
inductive IsOrderly (client : TokenClient) (world : World) (margin : Duration) (readings : Nat) :
    List TokenEvent → Prop
  | start : IsOrderly client world margin readings []
  | next {events : List TokenEvent} {event : TokenEvent}
      (before : IsOrderly client world margin readings events)
      (accurate : event.IsAccurate client world readings)
      (allowed : event.IsAllowed world margin readings (held events)) :
      IsOrderly client world margin readings (events ++ [event])

/-- Tokens are used as they should be: each request bears the token of the newest successful
exchange before it, and after a rejected token there is a new exchange before the next request. -/
structure IsDisciplined (events : List TokenEvent) : Prop where
  newest : ∀ before request token delivery after,
    events = before ++ authorized request token delivery :: after →
      ∃ credential, (before.filterMap issued?).getLast? = some credential ∧
        credential.token = token
  renewed : ∀ before rejected between request token delivery after, rejected.isRejected = true →
    events = before ++ rejected :: (between ++ authorized request token delivery :: after) →
      ∃ event ∈ between, event.isSuccessful = true

/-- Credentials that were usable at every reading of the clock. -/
def IsLasting (world : World) (margin : Duration) (readings : Nat) (events : List TokenEvent) :
    Prop :=
  ∀ event ∈ events, ∀ credential, event.issued? = some credential → ∀ reading < readings,
    credential.isUsable? (world.clock reading) margin = some true

/-! ## The credential that is held -/

theorem held_concat (events : List TokenEvent) (event : TokenEvent) :
    held (events ++ [event]) = heldAfter (held events) event := by
  rw [held, List.foldl_append]
  rfl

/-- Nothing that was held before a rejected token is held after it. -/
theorem held_append_rejected {rejected : TokenEvent} (h : rejected.isRejected = true)
    (before between : List TokenEvent) :
    held (before ++ rejected :: between) = held between := by
  rw [held, List.foldl_append, List.foldl_cons, heldAfter, if_pos h]
  rfl

theorem getLast?_of_held {events : List TokenEvent} {credential : Credential}
    (h : held events = some credential) :
    (events.filterMap issued?).getLast? = some credential := by
  -- The newest event decides: it drops the credential, issues it, or leaves it as it was.
  induction events using List.reverseRecOn with
  | nil => nomatch h
  | append_singleton events event ih =>
    rw [held_concat, heldAfter] at h
    by_cases hrejected : event.isRejected = true
    · rw [if_pos hrejected] at h
      contradiction
    · rw [if_neg hrejected] at h
      cases hissued : event.issued? with
      | none =>
        rw [hissued, Option.none_or] at h
        simpa [hissued] using ih h
      | some issued =>
        rw [hissued, Option.some_or] at h
        simpa [hissued] using h

theorem exists_issued_of_held {events : List TokenEvent} {credential : Credential}
    (h : held events = some credential) : ∃ event ∈ events, event.issued? = some credential :=
  List.mem_filterMap.mp (List.mem_of_getLast? (getLast?_of_held h))

/-! ## Orderly histories -/

section

variable {client : TokenClient} {world : World} {margin : Duration} {readings more : Nat}
  {events : List TokenEvent}

theorem TokenEvent.IsAccurate.mono {event : TokenEvent} (h : event.IsAccurate client world readings)
    (hmore : readings ≤ more) : event.IsAccurate client world more := by
  cases event with
  | authorized request token delivery => exact h
  | exchange delivery issued =>
    cases hgrant : client.grant? delivery with
    | none => simpa only [IsAccurate, hgrant] using h
    | some grant =>
      simp only [IsAccurate, hgrant] at h ⊢
      obtain ⟨reading, hreading, hissued⟩ := h
      exact ⟨reading, Nat.lt_of_lt_of_le hreading hmore, hissued⟩

theorem TokenEvent.IsAllowed.mono {event : TokenEvent} {held : Option Credential}
    (h : event.IsAllowed world margin readings held) (hmore : readings ≤ more) :
    event.IsAllowed world margin more held := by
  cases event with
  | authorized request token delivery => exact h
  | exchange delivery issued =>
    intro credential hheld
    obtain ⟨reading, hreading, hunusable⟩ := h credential hheld
    exact ⟨reading, Nat.lt_of_lt_of_le hreading hmore, hunusable⟩

theorem IsOrderly.mono (h : IsOrderly client world margin readings events)
    (hmore : readings ≤ more) : IsOrderly client world margin more events := by
  induction h with
  | start => exact .start
  | next before accurate allowed ih =>
    exact .next ih (accurate.mono hmore) (allowed.mono hmore)

theorem IsOrderly.isAccurate (h : IsOrderly client world margin readings events) :
    ∀ event ∈ events, event.IsAccurate client world readings := by
  induction h with
  | start => exact List.forall_mem_nil _
  | next before accurate allowed ih =>
    rw [List.forall_mem_append]
    exact ⟨ih, List.forall_mem_singleton.mpr accurate⟩

theorem IsOrderly.isAllowed {before after : List TokenEvent} {event : TokenEvent}
    (h : IsOrderly client world margin readings (before ++ event :: after)) :
    event.IsAllowed world margin readings (held before) := by
  generalize hall : before ++ event :: after = events at h
  -- Either the event is the last one, or the last one can be taken off what follows it.
  induction h generalizing after with
  | start => exact absurd hall (by simp)
  | @next earlier last _ _ allowed ih =>
    obtain rfl | ⟨init, final, rfl⟩ := List.eq_nil_or_concat after
    · obtain ⟨rfl, hlast⟩ := List.append_inj' hall rfl
      obtain rfl := List.singleton_inj.mp hlast
      exact allowed
    · rw [List.concat_eq_append, ← List.cons_append, ← List.append_assoc] at hall
      exact ih (List.append_inj' hall rfl).1

theorem IsOrderly.isDisciplined (h : IsOrderly client world margin readings events) :
    IsDisciplined events where
  newest := by
    intro before request token delivery after hevents
    subst hevents
    obtain ⟨credential, hheld, htoken⟩ := h.isAllowed
    exact ⟨credential, getLast?_of_held hheld, htoken⟩
  renewed := by
    intro before rejected between request token delivery after hrejected hevents
    subst hevents
    rw [← List.cons_append, ← List.append_assoc] at h
    obtain ⟨credential, hheld, -⟩ := h.isAllowed
    rw [held_append_rejected hrejected] at hheld
    obtain ⟨event, hmem, hissued⟩ := exists_issued_of_held hheld
    exact ⟨event, hmem, Option.isSome_iff_exists.mpr ⟨credential, hissued⟩⟩

/-! ## Counting exchanges -/

theorem TokenEvent.isRejected_eq_false_of_issued? {event : TokenEvent} {credential : Credential}
    (h : event.issued? = some credential) : event.isRejected = false := by
  cases event with
  | exchange delivery issued => rfl
  | authorized request token delivery => nomatch h

/-- A usable credential is not exchanged, so each successful exchange but the one whose credential
is held has its rejection. -/
theorem IsOrderly.countP_isSuccessful_le (h : IsOrderly client world margin readings events)
    (hlasting : IsLasting world margin readings events) :
    events.countP isSuccessful ≤
      events.countP isRejected + (if (held events).isSome then 1 else 0) := by
  induction h with
  | start => exact Nat.zero_le _
  | @next events event _ _ allowed ih =>
    have hbefore : IsLasting world margin readings events :=
      fun e he ↦ hlasting e (List.mem_append_left _ he)
    have hcount := ih hbefore
    rw [List.countP_append, List.countP_append, List.countP_singleton, List.countP_singleton,
      held_concat, heldAfter]
    cases hissued : event.issued? with
    | none =>
      have hfailed : event.isSuccessful = false := by simp [isSuccessful, hissued]
      rw [hfailed, Option.none_or]
      cases event.isRejected with
      | true =>
        have hheld : (if (held events).isSome then 1 else 0) ≤ 1 := by split <;> omega
        simp only [Bool.false_eq_true, if_true, if_false, Option.isSome_none]
        omega
      | false => simpa using hcount
    | some credential =>
      have hsuccessful : event.isSuccessful = true := by simp [isSuccessful, hissued]
      have hnone : held events = none := by
        cases event with
        | authorized request token delivery => nomatch hissued
        | exchange delivery issued =>
          -- An exchange is allowed when nothing usable is held, and all that was issued is usable.
          apply Option.eq_none_iff_forall_ne_some.mpr
          intro kept hkept
          obtain ⟨reading, hreading, hunusable⟩ := allowed kept hkept
          obtain ⟨e, he, hkept'⟩ := exists_issued_of_held hkept
          have husable := hbefore e he kept hkept' reading hreading
          rw [hunusable] at husable
          contradiction
      rw [hnone] at hcount
      simpa [hsuccessful, isRejected_eq_false_of_issued? hissued] using hcount

end

end MobileMoney
