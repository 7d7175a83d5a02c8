import MobileMoney.Proofs.Session.Invariant
import MobileMoney.Proofs.Token.History

/-!
# Sessions and their histories of tokens

A session is tracked by an orderly history when the history is its log and the cache holds the
credential that is held after the history.  Requests for a token and requests that bear one keep a
session tracked: a step adds nothing to the history, an exchange, or a request with the token that
is held.
-/

namespace MobileMoney

namespace TokenCache

theorem lookup_filter_ne (key : TokenKey) (entries : List (TokenKey × Credential)) :
    (entries.filter (·.1 ≠ key)).lookup key = none := by
  apply List.lookup_eq_none_iff.mpr
  intro entry hentry
  have hne : entry.1 ≠ key := of_decide_eq_true (List.mem_filter.mp hentry).2
  exact bne_iff_ne.mpr hne.symm

theorem find?_store (cache : TokenCache) (key : TokenKey) (credential : Credential) :
    (cache.store key credential).find? key = some credential := by
  simp [find?, store]

theorem find?_invalidate (cache : TokenCache) (key : TokenKey) :
    (cache.invalidate key).find? key = none :=
  lookup_filter_ne key cache.entries

end TokenCache

namespace Session

/-- The session after a reading of the clock. -/
def later (session : Session) : Session :=
  { session with readings := session.readings + 1 }

def sent (session : Session) (request : Request) (delivery : Delivery) : Session :=
  { session with log := session.log ++ [⟨request, delivery⟩] }

end Session

namespace Call

/-- How a token is looked up: there is none, it is usable, it is not, or its time has left the
calendar. -/
inductive LooksUp (key : TokenKey) (world : World) (session : Session) :
    Outcome (Option String) × Session → Prop
  | missing (h : session.tokens.find? key = none) :
      LooksUp key world session (.done none, session)
  | usable (credential : Credential) (h : session.tokens.find? key = some credential) :
      LooksUp key world session (.done (some credential.token), session.later)
  | unusable (credential : Credential) (h : session.tokens.find? key = some credential)
      (unusable : credential.isUsable? (world.clock session.readings) session.tokens.margin =
        some false) : LooksUp key world session (.done none, session.later)
  | aborted : LooksUp key world session (.aborted, session.later)

theorem usableToken?_looksUp (key : TokenKey) (world : World) (session : Session) :
    LooksUp key world session (usableToken? key world session) := by
  have hrun : usableToken? key world session =
      (if (session.tokens.find? key).isNone then (pure none : Call (Option String)) else
        readClock >>= fun now ↦ ofCalendar (session.tokens.usableToken? key now)) world session :=
    rfl
  cases hfind : session.tokens.find? key with
  | none =>
    rw [hrun, hfind]
    exact .missing hfind
  | some credential =>
    have hread : usableToken? key world session =
        ofCalendar ((credential.isUsable? (world.clock session.readings) session.tokens.margin).map
          fun usable ↦ if usable then some credential.token else none) world session.later := by
      rw [hrun, hfind]
      simp only [Option.isNone_some, Bool.false_eq_true, if_false, TokenCache.usableToken?, hfind]
      rfl
    rw [hread]
    cases husable : credential.isUsable? (world.clock session.readings) session.tokens.margin with
    | none => exact .aborted
    | some usable =>
      cases usable with
      | true => exact .usable credential hfind
      | false => exact .unusable credential hfind husable

/-- What a request comes to: it cannot be written, or it is delivered somehow. -/
theorem send_cases (provider : Provider) (request : Request) (world : World) (session : Session) :
    (∃ error, send provider request world session = (.failed error, session)) ∨
      ∃ delivery, send provider request world session =
        (reply provider delivery, session.sent request delivery) := by
  by_cases hsendable : request.isSendable
  · exact .inr ⟨_, by rw [send, if_pos hsendable]; rfl⟩
  · exact .inl ⟨_, by rw [send, if_neg hsendable]⟩

/-- How a token is exchanged: the request is not sent, its answer has no grant, or a credential is
issued for the grant now, if its time stays within the calendar. -/
inductive Exchanges (client : TokenClient) (world : World) (session : Session) :
    Outcome Credential × Session → Prop
  | withheld (error : PaymentError) :
      Exchanges client world session (.failed error, session)
  | refused (delivery : Delivery) (error : PaymentError) (h : client.grant? delivery = none) :
      Exchanges client world session
        (.failed error, session.sent client.exchangeRequest delivery)
  | aborted (delivery : Delivery) (grant : TokenGrant) (h : client.grant? delivery = some grant)
      (late : Credential.issue? grant (world.clock session.readings) = none) :
      Exchanges client world session
        (.aborted, (session.sent client.exchangeRequest delivery).later)
  | issued (delivery : Delivery) (grant : TokenGrant) (credential : Credential)
      (h : client.grant? delivery = some grant)
      (issued : Credential.issue? grant (world.clock session.readings) = some credential) :
      Exchanges client world session
        (.done credential, (session.sent client.exchangeRequest delivery).later)

/-- A broken connection fails, and has no grant. -/
theorem reply_cases (client : TokenClient) (delivery : Delivery) :
    (∃ error, reply client.key.provider delivery = .failed error ∧
        client.grant? delivery = none) ∨
      ∃ answer, reply client.key.provider delivery = .done answer ∧
        client.grant? delivery = (TokenGrant.ofReply answer).toOption := by
  cases delivery with
  | answered status body => exact .inr ⟨_, rfl, rfl⟩
  | unreachable => exact .inl ⟨_, rfl, rfl⟩
  | dropped => exact .inl ⟨_, rfl, rfl⟩
  | cutShort => exact .inl ⟨_, rfl, rfl⟩

theorem exchange_exchanges (client : TokenClient) (world : World) (session : Session) :
    Exchanges client world session
      (exchange client.key.provider client.exchangeRequest world session) := by
  unfold exchange
  obtain ⟨error, hsend⟩ | ⟨delivery, hsend⟩ :=
    send_cases client.key.provider client.exchangeRequest world session
  · rw [bind_failed hsend]
    exact .withheld error
  obtain ⟨error, hreply, hgrant⟩ | ⟨answer, hreply, hgrant⟩ := reply_cases client delivery
  · rw [hreply] at hsend
    rw [bind_failed hsend]
    exact .refused delivery error hgrant
  rw [hreply] at hsend
  rw [bind_done hsend]
  cases hread : TokenGrant.ofReply answer with
  | error error => exact .refused delivery error (by rw [hgrant, hread]; rfl)
  | ok grant =>
    have hsome : client.grant? delivery = some grant := by rw [hgrant, hread]; rfl
    have hrun : (ofExcept (.ok grant) >>= fun grant ↦
          readClock >>= fun now ↦ ofCalendar (Credential.issue? grant now)) world
            (session.sent client.exchangeRequest delivery) =
        ofCalendar (Credential.issue? grant (world.clock session.readings)) world
          (session.sent client.exchangeRequest delivery).later := rfl
    rw [hrun]
    cases hissue : Credential.issue? grant (world.clock session.readings) with
    | none => exact .aborted delivery grant hsome hissue
    | some credential => exact .issued delivery grant credential hsome hissue

end Call

/-- An orderly history that is the log of a session and that its cache agrees with. -/
structure Tracks (client : TokenClient) (world : World) (margin : Duration) (session : Session)
    (events : List TokenEvent) : Prop where
  log : session.log = events.map (TokenEvent.entry client)
  orderly : IsOrderly client world margin session.readings events
  margin : session.tokens.margin = margin
  cache : session.tokens.find? client.key = held events

def IsTracked (client : TokenClient) (world : World) (margin : Duration) (session : Session) :
    Prop :=
  ∃ events, Tracks client world margin session events

/-- A token that the cache of a session holds. -/
def HoldsToken (client : TokenClient) (token : String) (session : Session) : Prop :=
  ∃ credential, session.tokens.find? client.key = some credential ∧ credential.token = token

/-- What a request for a token leaves behind: the token that it gives is the one that is held. -/
structure GivesToken (client : TokenClient) (world : World) (margin : Duration)
    (outcome : Outcome String) (session : Session) : Prop where
  tracked : IsTracked client world margin session
  held : ∀ token, outcome = .done token → HoldsToken client token session

section

variable {client : TokenClient} {world : World} {margin : Duration} {session : Session}
  {events : List TokenEvent}

theorem isTracked_start : IsTracked client world margin (.start margin) :=
  ⟨[], rfl, .start, rfl, rfl⟩

/-! ## Steps of a history -/

theorem Tracks.later (h : Tracks client world margin session events) :
    Tracks client world margin session.later events where
  log := h.log
  orderly := h.orderly.mono (Nat.le_succ _)
  margin := h.margin
  cache := h.cache

/-- One more event, and what it does to the cache. -/
theorem Tracks.next (h : Tracks client world margin session events) (event : TokenEvent)
    {session' : Session} (hlog : session'.log = session.log ++ [event.entry client])
    (hreadings : session.readings ≤ session'.readings)
    (haccurate : event.IsAccurate client world session'.readings)
    (hallowed : event.IsAllowed world margin session'.readings (held events))
    (hmargin : session'.tokens.margin = session.tokens.margin)
    (hcache : session'.tokens.find? client.key =
      TokenEvent.heldAfter (session.tokens.find? client.key) event) :
    Tracks client world margin session' (events ++ [event]) where
  log := by rw [hlog, h.log, List.map_append, List.map_singleton]
  orderly := .next (h.orderly.mono hreadings) haccurate hallowed
  margin := hmargin.trans h.margin
  cache := by rw [hcache, h.cache, held_concat]

/-- An exchange by a client that holds no usable credential. -/
theorem Tracks.exchanged (h : Tracks client world margin session events)
    (hunusable : ∀ credential, session.tokens.find? client.key = some credential →
      ∃ reading < session.readings,
        credential.isUsable? (world.clock reading) margin = some false)
    (delivery : Delivery) (issued : Option Credential) {session' : Session}
    (hlog : session'.log = session.log ++ [⟨client.exchangeRequest, delivery⟩])
    (hreadings : session.readings ≤ session'.readings)
    (haccurate : (TokenEvent.exchange delivery issued).IsAccurate client world session'.readings)
    (hmargin : session'.tokens.margin = session.tokens.margin)
    (hcache : session'.tokens.find? client.key = issued.or (session.tokens.find? client.key)) :
    IsTracked client world margin session' := by
  refine ⟨_, h.next (.exchange delivery issued) hlog hreadings haccurate ?_ hmargin hcache⟩
  intro credential hheld
  rw [← h.cache] at hheld
  obtain ⟨reading, hreading, hfalse⟩ := hunusable credential hheld
  exact ⟨reading, Nat.lt_of_lt_of_le hreading hreadings, hfalse⟩

namespace Call

/-! ## Steps that only read -/

theorem keeps_readClock (client : TokenClient) (world : World) (margin : Duration) :
    readClock.Keeps world (IsTracked client world margin) := by
  rintro session ⟨events, h⟩
  exact ⟨events, h.later⟩

theorem keeps_drawIdentifier (client : TokenClient) (world : World) (margin : Duration) :
    drawIdentifier.Keeps world (IsTracked client world margin) := by
  rintro session ⟨events, h⟩
  exact ⟨events, h.log, h.orderly, h.margin, h.cache⟩

/-! ## Requests for a token -/

/-- The second half of a request for a token. -/
theorem renew_givesToken (h : Tracks client world margin session events)
    (hunusable : ∀ credential, session.tokens.find? client.key = some credential →
      ∃ reading < session.readings,
        credential.isUsable? (world.clock reading) margin = some false) :
    let run := (exchange client.key.provider client.exchangeRequest >>= fun credential ↦
      updateTokens (·.store client.key credential) >>= fun _ ↦ pure credential.token) world session
    GivesToken client world margin run.1 run.2 := by
  have hexchange := exchange_exchanges client world session
  generalize hrun : exchange client.key.provider client.exchangeRequest world session = run
    at hexchange
  cases hexchange with
  | withheld error =>
    rw [bind_failed hrun]
    exact ⟨⟨events, h⟩, by simp⟩
  | refused delivery error hgrant =>
    rw [bind_failed hrun]
    refine ⟨h.exchanged hunusable delivery none rfl (Nat.le_refl _) ?_ rfl rfl, by simp⟩
    simp only [TokenEvent.IsAccurate, hgrant]
  | aborted delivery grant hgrant hover =>
    rw [bind_aborted hrun]
    refine ⟨h.exchanged hunusable delivery none rfl (Nat.le_succ _) ?_ rfl rfl, by simp⟩
    simp only [TokenEvent.IsAccurate, hgrant]
    exact ⟨session.readings, Nat.lt_succ_self _, hover.symm⟩
  | issued delivery grant credential hgrant hissued =>
    rw [bind_done hrun]
    have hstored := session.tokens.find?_store client.key credential
    refine ⟨h.exchanged hunusable delivery (some credential) rfl (Nat.le_succ _) ?_ rfl
      hstored, ?_⟩
    · simp only [TokenEvent.IsAccurate, hgrant]
      exact ⟨session.readings, Nat.lt_succ_self _, hissued.symm⟩
    · intro token hdone
      exact ⟨credential, hstored, Outcome.done.inj hdone⟩

theorem bearerToken_leaves :
    (bearerToken client.key (exchange client.key.provider client.exchangeRequest)).Leaves world
      (IsTracked client world margin) (GivesToken client world margin) := by
  rintro session ⟨events, h⟩
  unfold bearerToken
  have hlookup := usableToken?_looksUp client.key world session
  generalize hrun : usableToken? client.key world session = run at hlookup
  cases hlookup with
  | missing hnone =>
    rw [bind_done hrun]
    apply renew_givesToken h
    intro credential hfind
    rw [hnone] at hfind
    contradiction
  | usable credential hfind =>
    rw [bind_done hrun]
    refine ⟨⟨events, h.later⟩, fun token hdone ↦ ?_⟩
    exact ⟨credential, hfind, Outcome.done.inj hdone⟩
  | unusable credential hfind hfalse =>
    rw [bind_done hrun]
    apply renew_givesToken h.later
    intro kept hkept
    obtain rfl : credential = kept := Option.some.inj (hfind.symm.trans hkept)
    exact ⟨session.readings, Nat.lt_succ_self _, h.margin ▸ hfalse⟩
  | aborted =>
    rw [bind_aborted hrun]
    exact ⟨⟨events, h.later⟩, nofun⟩

variable (policy : RetryPolicy)

theorem accessToken_leaves :
    (accessToken policy client.key client.exchangeRequest).Leaves world
      (IsTracked client world margin) (GivesToken client world margin) :=
  bearerToken_leaves.retried (fun _ _ h ↦ h.tracked) policy

/-! ## Requests that bear a token -/

theorem sendAuthorized_tracked {request : Request} {token : String}
    (h : IsTracked client world margin session) (hbears : request.Bears token)
    (hholds : HoldsToken client token session) :
    IsTracked client world margin (sendAuthorized client.key request world session).2 := by
  obtain ⟨events, h⟩ := h
  obtain ⟨credential, hfind, htoken⟩ := hholds
  -- However the request is delivered it is the next event; only 401 touches the cache.
  have hnext (delivery : Delivery) {session' : Session}
      (hlog : session'.log = session.log ++ [⟨request, delivery⟩])
      (hreadings : session'.readings = session.readings)
      (hmargin : session'.tokens.margin = session.tokens.margin)
      (hcache : session'.tokens.find? client.key =
        TokenEvent.heldAfter (session.tokens.find? client.key)
          (.authorized request token delivery)) : IsTracked client world margin session' :=
    ⟨_, h.next (.authorized request token delivery) hlog (Nat.le_of_eq hreadings.symm) hbears
      ⟨credential, h.cache ▸ hfind, htoken⟩ hmargin hcache⟩
  unfold sendAuthorized
  obtain ⟨error, hsend⟩ | ⟨delivery, hsend⟩ :=
    send_cases client.key.provider request world session
  · rw [bind_failed hsend]
    exact ⟨events, h⟩
  cases delivery with
  | unreachable =>
    rw [bind_failed hsend]
    exact hnext .unreachable rfl rfl rfl rfl
  | dropped =>
    rw [bind_failed hsend]
    exact hnext .dropped rfl rfl rfl rfl
  | cutShort =>
    rw [bind_failed hsend]
    exact hnext .cutShort rfl rfl rfl rfl
  | answered status body =>
    rw [bind_done hsend]
    by_cases hstatus : status = 401
    · have hinvalidate := session.tokens.find?_invalidate client.key
      simp only [hstatus, if_true]
      exact hnext (.answered 401 body) rfl rfl rfl hinvalidate
    · have hsame : TokenEvent.heldAfter (session.tokens.find? client.key)
          (.authorized request token (.answered status body)) =
            session.tokens.find? client.key := by
        simp [TokenEvent.heldAfter, TokenEvent.isRejected, TokenEvent.issued?, hstatus]
      simp only [hstatus, if_false]
      exact hnext (.answered status body) rfl rfl rfl hsame.symm

/-- Something that is done with the token that is held. -/
theorem authorized_keeps {α : Type} {next : String → Call α}
    (hnext : ∀ token session, IsTracked client world margin session →
      HoldsToken client token session →
        IsTracked client world margin (next token world session).2) :
    (accessToken policy client.key client.exchangeRequest >>= next).Keeps world
      (IsTracked client world margin) :=
  (accessToken_leaves policy).bind (fun _ _ h ↦ h.tracked)
    fun token session h ↦ hnext token session h.tracked (h.held token rfl)

end Call

end

end MobileMoney
