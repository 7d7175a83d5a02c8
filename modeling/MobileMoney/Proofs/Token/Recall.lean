import MobileMoney.Proofs.Token.Tracking

/-!
# What a cache recalls

A cache is asked for tokens, told to forget a client or told to forget all.  What has become of it
is a list of events, and the list says which credential of a client is current: the one of the
newest successful exchange, unless it has been forgotten since.  The cache keeps the current
credentials and no others, and a request for a token is answered with the current one as long as it
is usable.
-/

namespace MobileMoney

/-- What a cache can be asked to do.  A request for a token comes with the time, and with what an
exchange would give. -/
inductive CacheRequest where
  | get (key : TokenKey) (now : Instant) (exchange : Option (Except PaymentError Credential))
  | invalidate (key : TokenKey)
  | clear

/-- What has become of a request. -/
inductive CacheEvent where
  | recalled (key : TokenKey)
  | exchanged (key : TokenKey) (outcome : Except PaymentError Credential)
  | aborted (key : TokenKey)
  | invalidated (key : TokenKey)
  | cleared

namespace TokenCache

/-- One request: what becomes of it, and the cache after it.  Nothing is kept of an aborted one. -/
def serve (cache : TokenCache) : CacheRequest → CacheEvent × TokenCache
  | .get key now exchange =>
    match cache.get? key now exchange, exchange with
    | some (⟨_, true⟩, after), some outcome => (.exchanged key outcome, after)
    | some (_, after), _ => (.recalled key, after)
    | none, _ => (.aborted key, cache)
  | .invalidate key => (.invalidated key, cache.invalidate key)
  | .clear => (.cleared, cache.clear)

def serveAll (cache : TokenCache) : List CacheRequest → List CacheEvent × TokenCache
  | [] => ([], cache)
  | request :: rest =>
    let (event, after) := cache.serve request
    let (events, last) := after.serveAll rest
    (event :: events, last)

end TokenCache

/-- Whether a credential of the key is not current any more after an event. -/
def CacheEvent.Displaces (key : TokenKey) : CacheEvent → Prop
  | exchanged other (.ok _) => other = key
  | invalidated other => other = key
  | cleared => True
  | _ => False

/-- Whether an event leaves all credentials as they were. -/
def CacheEvent.isIdle : CacheEvent → Bool
  | exchanged _ (.error _) => true
  | recalled _ => true
  | aborted _ => true
  | _ => false

theorem CacheEvent.not_displaces_of_isIdle {event : CacheEvent} (h : event.isIdle = true)
    (key : TokenKey) : ¬ event.Displaces key := by
  unfold isIdle at h
  split at h
  · exact id
  · exact id
  · exact id
  · contradiction

/-- The credential of the newest successful exchange for a key, which nothing has displaced. -/
def IsCurrent (events : List CacheEvent) (key : TokenKey) (credential : Credential) : Prop :=
  ∃ before after, events = before ++ .exchanged key (.ok credential) :: after ∧
    ∀ event ∈ after, ¬ event.Displaces key

theorem not_isCurrent_nil {key : TokenKey} {credential : Credential} :
    ¬ IsCurrent [] key credential := by
  rintro ⟨before, after, hevents, -⟩
  simp at hevents

/-- The newest event brings the current credential, or leaves the one that was current. -/
theorem isCurrent_concat {events : List CacheEvent} {event : CacheEvent} {key : TokenKey}
    {credential : Credential} :
    IsCurrent (events ++ [event]) key credential ↔
      event = .exchanged key (.ok credential) ∨
        IsCurrent events key credential ∧ ¬ event.Displaces key := by
  constructor
  · rintro ⟨before, after, hevents, hafter⟩
    obtain rfl | ⟨init, last, rfl⟩ := List.eq_nil_or_concat after
    · exact .inl (List.singleton_inj.mp (List.append_inj' hevents rfl).2)
    · rw [List.concat_eq_append, ← List.cons_append, ← List.append_assoc] at hevents
      obtain ⟨rfl, hlast⟩ := List.append_inj' hevents rfl
      obtain rfl := List.singleton_inj.mp hlast
      rw [List.concat_eq_append, List.forall_mem_append] at hafter
      exact .inr ⟨⟨before, init, rfl, hafter.1⟩, hafter.2 _ (List.mem_singleton_self _)⟩
  · rintro (rfl | ⟨⟨before, after, rfl, hafter⟩, hevent⟩)
    · exact ⟨events, [], rfl, List.forall_mem_nil _⟩
    · refine ⟨before, after ++ [event], by simp, ?_⟩
      rw [List.forall_mem_append]
      exact ⟨hafter, fun _ hmem ↦ List.eq_of_mem_singleton hmem ▸ hevent⟩

namespace TokenCache

/-! ## Entries -/

def keys (cache : TokenCache) : List TokenKey :=
  cache.entries.map Prod.fst

theorem lookup_filter_of_ne {key other : TokenKey} (hne : other ≠ key)
    (entries : List (TokenKey × Credential)) :
    (entries.filter (·.1 ≠ key)).lookup other = entries.lookup other := by
  induction entries with
  | nil => rfl
  | cons entry rest ih =>
    obtain ⟨found, credential⟩ := entry
    by_cases hfound : found = key
    · subst hfound
      have hother : (other == found) = false := beq_false_of_ne hne
      simpa [List.lookup_cons, hother] using ih
    · simp only [List.filter_cons, List.lookup_cons, ne_eq, hfound, not_false_eq_true,
        decide_true, if_true, ih]

theorem find?_store_of_ne {key other : TokenKey} (hne : other ≠ key) (cache : TokenCache)
    (credential : Credential) : (cache.store key credential).find? other = cache.find? other := by
  have hother : (other == key) = false := beq_false_of_ne hne
  rw [find?, store, List.lookup_cons, hother]
  exact lookup_filter_of_ne hne cache.entries

theorem find?_invalidate_of_ne {key other : TokenKey} (hne : other ≠ key) (cache : TokenCache) :
    (cache.invalidate key).find? other = cache.find? other :=
  lookup_filter_of_ne hne cache.entries

theorem mem_keys_iff {cache : TokenCache} {key : TokenKey} :
    key ∈ cache.keys ↔ ∃ credential, cache.find? key = some credential := by
  rw [← Option.ne_none_iff_exists', find?, ne_eq, List.lookup_eq_none_iff]
  simp [keys]

theorem keys_filter_ne (entries : List (TokenKey × Credential)) (key : TokenKey) :
    (entries.filter (·.1 ≠ key)).map Prod.fst = (entries.map Prod.fst).filter (· ≠ key) := by
  rw [List.filter_map]
  rfl

theorem nodup_keys_invalidate {cache : TokenCache} (h : cache.keys.Nodup) (key : TokenKey) :
    (cache.invalidate key).keys.Nodup := by
  rw [keys, invalidate, keys_filter_ne]
  exact h.filter _

theorem nodup_keys_store {cache : TokenCache} (h : cache.keys.Nodup) (key : TokenKey)
    (credential : Credential) : (cache.store key credential).keys.Nodup := by
  rw [keys, store, List.map_cons, keys_filter_ne, List.nodup_cons]
  exact ⟨fun hmem ↦ of_decide_eq_true (List.mem_filter.mp hmem).2 rfl, h.filter _⟩

/-! ## Requests for a token -/

/-- The cache after an exchange: a credential is stored, and a failure changes nothing. -/
def afterExchange (cache : TokenCache) (key : TokenKey) :
    Except PaymentError Credential → TokenCache
  | .ok credential => cache.store key credential
  | .error _ => cache

section

variable {cache : TokenCache} {key : TokenKey} {now : Instant}
  {exchange : Option (Except PaymentError Credential)}

theorem get?_of_usable {token : String} (h : cache.usableToken? key now = some (some token)) :
    cache.get? key now exchange = some (⟨.ok token, false⟩, cache) := by
  rw [get?, h]
  rfl

theorem get?_of_lost (h : cache.usableToken? key now = none) :
    cache.get? key now exchange = none := by
  rw [get?, h]
  rfl

theorem get?_of_unusable (h : cache.usableToken? key now = some none) :
    cache.get? key now exchange = exchange.map fun outcome ↦
      (⟨outcome.map Credential.token, true⟩, cache.afterExchange key outcome) := by
  rw [get?, h]
  obtain _ | (error | credential) := exchange <;> rfl

end

/-- How a request for a token is answered: with a usable token that is kept, with what an exchange
gives when there is none, or not at all when a time leaves the calendar. -/
inductive Gets (cache : TokenCache) (key : TokenKey) (now : Instant) :
    Option (Except PaymentError Credential) → Option (Answer × TokenCache) → Prop
  | recalled {exchange : Option (Except PaymentError Credential)} (credential : Credential)
      (found : cache.find? key = some credential)
      (usable : credential.isUsable? now cache.margin = some true) :
      Gets cache key now exchange (some (⟨.ok credential.token, false⟩, cache))
  | lost {exchange : Option (Except PaymentError Credential)} (credential : Credential)
      (found : cache.find? key = some credential)
      (lost : credential.isUsable? now cache.margin = none) : Gets cache key now exchange none
  | exchanged {exchange : Option (Except PaymentError Credential)}
      (unusable : ∀ credential, cache.find? key = some credential →
        credential.isUsable? now cache.margin = some false) :
      Gets cache key now exchange (exchange.map fun outcome ↦
        (⟨outcome.map Credential.token, true⟩, cache.afterExchange key outcome))

theorem get?_gets (cache : TokenCache) (key : TokenKey) (now : Instant)
    (exchange : Option (Except PaymentError Credential)) :
    Gets cache key now exchange (cache.get? key now exchange) := by
  cases hfound : cache.find? key with
  | none =>
    rw [get?_of_unusable (by rw [usableToken?, hfound])]
    exact .exchanged (by simp [hfound])
  | some credential =>
    have hlookup : cache.usableToken? key now =
        (credential.isUsable? now cache.margin).map fun usable ↦
          if usable then some credential.token else none := by
      rw [usableToken?, hfound]
    cases husable : credential.isUsable? now cache.margin with
    | none =>
      rw [husable] at hlookup
      rw [get?_of_lost hlookup]
      exact .lost credential hfound husable
    | some usable =>
      rw [husable] at hlookup
      cases usable with
      | true =>
        rw [get?_of_usable hlookup]
        exact .recalled credential hfound husable
      | false =>
        rw [get?_of_unusable hlookup]
        refine .exchanged fun found h ↦ ?_
        rwa [← Option.some.inj (hfound.symm.trans h)]

/-- What a request for a token does to the cache: nothing, or it stores what an exchange has
given. -/
theorem serve_get (cache : TokenCache) (key : TokenKey) (now : Instant)
    (exchange : Option (Except PaymentError Credential)) :
    (∃ event, event.isIdle = true ∧ cache.serve (.get key now exchange) = (event, cache)) ∨
      ∃ credential, cache.serve (.get key now exchange) =
        (.exchanged key (.ok credential), cache.store key credential) := by
  have hgets := cache.get?_gets key now exchange
  generalize hgot : cache.get? key now exchange = got at hgets
  cases hgets with
  | recalled credential found usable => exact .inl ⟨.recalled key, rfl, by simp only [serve, hgot]⟩
  | lost credential found lost => exact .inl ⟨.aborted key, rfl, by simp only [serve, hgot]⟩
  | exchanged unusable =>
    obtain _ | (error | credential) := exchange
    · exact .inl ⟨.aborted key, rfl, by simp only [serve, hgot, Option.map_none]⟩
    · exact .inl ⟨.exchanged key (.error error), rfl,
        by simp only [serve, hgot, Option.map_some, afterExchange]⟩
    · exact .inr ⟨credential, by simp only [serve, hgot, Option.map_some, afterExchange]⟩

end TokenCache

/-! ## Histories -/

/-- A cache that keeps the credentials that are current after some events, each under its key. -/
structure Remembers (margin : Duration) (events : List CacheEvent) (cache : TokenCache) :
    Prop where
  margin_eq : cache.margin = margin
  find?_iff : ∀ key credential,
    cache.find? key = some credential ↔ IsCurrent events key credential
  nodup : cache.keys.Nodup

section

variable {margin : Duration} {events : List CacheEvent} {cache : TokenCache}

theorem remembers_empty : Remembers margin [] (.empty margin) where
  margin_eq := rfl
  find?_iff _ _ := ⟨fun h ↦ (nomatch h), fun h ↦ (not_isCurrent_nil h).elim⟩
  nodup := List.nodup_nil

theorem Remembers.unchanged (h : Remembers margin events cache) {event : CacheEvent}
    (hidle : event.isIdle = true) : Remembers margin (events ++ [event]) cache where
  margin_eq := h.margin_eq
  find?_iff key credential := by
    rw [h.find?_iff, isCurrent_concat]
    constructor
    · exact fun hcurrent ↦ .inr ⟨hcurrent, CacheEvent.not_displaces_of_isIdle hidle key⟩
    · rintro (rfl | ⟨hcurrent, -⟩)
      · contradiction
      · exact hcurrent
  nodup := h.nodup

theorem Remembers.stored (h : Remembers margin events cache) (key : TokenKey)
    (credential : Credential) :
    Remembers margin (events ++ [.exchanged key (.ok credential)])
      (cache.store key credential) where
  margin_eq := h.margin_eq
  find?_iff other found := by
    rw [isCurrent_concat]
    by_cases hother : other = key
    · subst hother
      rw [cache.find?_store]
      simp [CacheEvent.Displaces]
    · rw [TokenCache.find?_store_of_ne hother, h.find?_iff]
      simp [CacheEvent.Displaces, Ne.symm hother]
  nodup := TokenCache.nodup_keys_store h.nodup key credential

theorem Remembers.invalidated (h : Remembers margin events cache) (key : TokenKey) :
    Remembers margin (events ++ [.invalidated key]) (cache.invalidate key) where
  margin_eq := h.margin_eq
  find?_iff other found := by
    rw [isCurrent_concat]
    by_cases hother : other = key
    · subst hother
      rw [cache.find?_invalidate]
      simp [CacheEvent.Displaces]
    · rw [TokenCache.find?_invalidate_of_ne hother, h.find?_iff]
      simp [CacheEvent.Displaces, Ne.symm hother]
  nodup := TokenCache.nodup_keys_invalidate h.nodup key

theorem Remembers.cleared (h : Remembers margin events cache) :
    Remembers margin (events ++ [.cleared]) cache.clear where
  margin_eq := h.margin_eq
  find?_iff other found := by
    rw [isCurrent_concat]
    simp [CacheEvent.Displaces, TokenCache.find?, TokenCache.clear]
  nodup := List.nodup_nil

theorem Remembers.serve (h : Remembers margin events cache) (request : CacheRequest) :
    Remembers margin (events ++ [(cache.serve request).1]) (cache.serve request).2 := by
  cases request with
  | invalidate key => exact h.invalidated key
  | clear => exact h.cleared
  | get key now exchange =>
    obtain ⟨event, hidle, hserved⟩ | ⟨credential, hserved⟩ := cache.serve_get key now exchange
    · rw [hserved]
      exact h.unchanged hidle
    · rw [hserved]
      exact h.stored key credential

theorem Remembers.serveAll (h : Remembers margin events cache) (requests : List CacheRequest) :
    Remembers margin (events ++ (cache.serveAll requests).1) (cache.serveAll requests).2 := by
  -- What has been served goes over to the events before the rest.
  induction requests generalizing events cache with
  | nil => simpa [TokenCache.serveAll] using h
  | cons request rest ih =>
    have hrest := ih (h.serve request)
    rwa [List.append_assoc] at hrest

/-! ## Answers -/

/-- A request for a token is answered as the history says: with the current credential if there is
one that is usable, and otherwise with the outcome of an exchange. -/
structure IsRecalled (events : List CacheEvent) (cache : TokenCache) (key : TokenKey)
    (now : Instant) (outcome : Except PaymentError Credential) : Prop where
  usable : ∀ credential, IsCurrent events key credential →
    credential.isUsable? now cache.margin = some true →
      cache.get? key now (some outcome) = some (⟨.ok credential.token, false⟩, cache)
  otherwise : (¬ ∃ credential, IsCurrent events key credential ∧
      credential.isUsable? now cache.margin = some true) →
    cache.get? key now (some outcome) =
      some (⟨outcome.map Credential.token, true⟩, cache.afterExchange key outcome)

theorem Remembers.get?_eq_none (h : Remembers margin events cache) {key : TokenKey}
    {credential : Credential} (hcurrent : IsCurrent events key credential) {now : Instant}
    (hlost : credential.isUsable? now cache.margin = none)
    (exchange : Option (Except PaymentError Credential)) : cache.get? key now exchange = none := by
  have hfind := (h.find?_iff key credential).mpr hcurrent
  have hgets := cache.get?_gets key now exchange
  generalize cache.get? key now exchange = got at hgets
  cases hgets with
  | lost _ _ _ => rfl
  | recalled found hfound husable =>
    obtain rfl := Option.some.inj (hfind.symm.trans hfound)
    exact nomatch hlost.symm.trans husable
  | exchanged hunusable => exact nomatch hlost.symm.trans (hunusable credential hfind)

/-- The history fails to say how a request is answered in one case only: the margin takes the
current credential out of the calendar. -/
theorem Remembers.isRecalled_iff (h : Remembers margin events cache) (key : TokenKey)
    (now : Instant) (outcome : Except PaymentError Credential) :
    IsRecalled events cache key now outcome ↔
      ∀ credential, IsCurrent events key credential →
        credential.isUsable? now cache.margin ≠ none := by
  have hfind (credential : Credential) := h.find?_iff key credential
  constructor
  · intro hrecalled credential hcurrent hlost
    have hnone := h.get?_eq_none hcurrent hlost (some outcome)
    have hanswer := hrecalled.otherwise (by
      rintro ⟨other, hother, husable⟩
      obtain rfl := Option.some.inj
        (((hfind credential).mpr hcurrent).symm.trans ((hfind other).mpr hother))
      exact nomatch hlost.symm.trans husable)
    exact nomatch hnone.symm.trans hanswer
  · intro hkept
    have hgets := cache.get?_gets key now (some outcome)
    generalize hgot : cache.get? key now (some outcome) = got at hgets
    cases hgets with
    | lost credential hfound hlost =>
      exact absurd hlost (hkept credential ((hfind credential).mp hfound))
    | recalled credential hfound husable =>
      have hcurrent := (hfind credential).mp hfound
      refine ⟨fun other hother _ ↦ ?_, fun hno ↦ absurd ⟨credential, hcurrent, husable⟩ hno⟩
      rw [hgot, Option.some.inj (hfound.symm.trans ((hfind other).mpr hother))]
    | exchanged hunusable =>
      refine ⟨fun credential hcurrent husable ↦ ?_, fun _ ↦ hgot⟩
      have hfalse := hunusable credential ((hfind credential).mpr hcurrent)
      exact nomatch husable.symm.trans hfalse

end

/-- Whether a request may change what is kept for a key. -/
def CacheRequest.Concerns (key : TokenKey) : CacheRequest → Prop
  | get other _ _ => other = key
  | invalidate other => other = key
  | clear => True

theorem TokenCache.find?_serve {key : TokenKey} {request : CacheRequest}
    (h : ¬ request.Concerns key) (cache : TokenCache) :
    (cache.serve request).2.find? key = cache.find? key := by
  cases request with
  | clear => exact absurd trivial h
  | invalidate other => exact find?_invalidate_of_ne (Ne.symm h) cache
  | get other now exchange =>
    obtain ⟨event, -, hserved⟩ | ⟨credential, hserved⟩ := cache.serve_get other now exchange
    · rw [hserved]
    · rw [hserved]
      exact find?_store_of_ne (Ne.symm h) cache credential

/-- A cache that behaves as the events say that have led to it. -/
structure IsFaithful (margin : Duration) (events : List CacheEvent) (cache : TokenCache) :
    Prop where
  remembers : Remembers margin events cache
  counts : ∃ keys : List TokenKey, keys.Nodup ∧ cache.size = keys.length ∧
    ∀ key, key ∈ keys ↔ ∃ credential, IsCurrent events key credential
  isRecalled_iff : ∀ key now outcome, IsRecalled events cache key now outcome ↔
    ∀ credential, IsCurrent events key credential → credential.isUsable? now margin ≠ none
  aborts : ∀ key now exchange credential, IsCurrent events key credential →
    credential.isUsable? now margin = none → cache.get? key now exchange = none
  unconcerned : ∀ request key, ¬ request.Concerns key →
    (cache.serve request).2.find? key = cache.find? key

theorem Remembers.isFaithful {margin : Duration} {events : List CacheEvent} {cache : TokenCache}
    (h : Remembers margin events cache) : IsFaithful margin events cache where
  remembers := h
  counts := by
    refine ⟨cache.keys, h.nodup, (List.length_map _).symm, fun key ↦ ?_⟩
    simp only [TokenCache.mem_keys_iff, h.find?_iff]
  isRecalled_iff := h.margin_eq ▸ h.isRecalled_iff
  aborts _ _ exchange _ hcurrent hlost := h.get?_eq_none hcurrent (h.margin_eq ▸ hlost) exchange
  unconcerned _ _ hconcerns := cache.find?_serve hconcerns

namespace TokenCache

/-- **A cache behaves as its history says.**  Whatever has been asked of it and whatever has come of
the exchanges, it keeps the current credentials and no others, usable or not.  A request for a token
is answered with the current credential of its key if that is usable, and otherwise with the outcome
of one exchange, which a failure leaves without a trace; but nothing is answered when the margin
takes the current credential out of the calendar.  What is kept for other keys stays as it is. -/
theorem serves_by_history (margin : Duration) (requests : List CacheRequest) :
    IsFaithful margin ((empty margin).serveAll requests).1
      ((empty margin).serveAll requests).2 :=
  (remembers_empty.serveAll requests).isFaithful

/-! ### A margin that is longer than the calendar -/

/-- Some three hundred thousand years. -/
def farMargin : Duration :=
  .ofSeconds 10000000000000

def farKey : TokenKey :=
  ⟨.mpesa, "k"⟩

def farStart : Instant :=
  ⟨1700000000, 0, by decide⟩

/-- A credential for an hour. -/
def farCredential : Credential :=
  ⟨"t1", ⟨1700003600, 0, by decide⟩⟩

/-- Under such a margin no credential is usable, and yet it is not exchanged. -/
theorem not_forall_isRecalled :
    ¬ ∀ (margin : Duration) (requests : List CacheRequest) (key : TokenKey) (now : Instant)
        (outcome : Except PaymentError Credential),
      IsRecalled ((empty margin).serveAll requests).1 ((empty margin).serveAll requests).2
        key now outcome := by
  intro hall
  have hrecalled := hall farMargin [.get farKey farStart (some (.ok farCredential))] farKey
    farStart (.ok ⟨"t2", farCredential.expiresAt⟩)
  have hevents : ((empty farMargin).serveAll [.get farKey farStart (some (.ok farCredential))]).1 =
      [.exchanged farKey (.ok farCredential)] := by
    simp only [serveAll, serve, get?, usableToken?, find?, empty, List.lookup_nil]
    rfl
  have hempty : Remembers farMargin [] (empty farMargin) := remembers_empty
  have hremembers := hempty.serveAll [.get farKey farStart (some (.ok farCredential))]
  have hcurrent : IsCurrent [.exchanged farKey (.ok farCredential)] farKey farCredential :=
    ⟨[], [], rfl, List.forall_mem_nil _⟩
  rw [← hevents] at hcurrent
  have hkept := (hremembers.isRecalled_iff farKey farStart _).mp hrecalled farCredential hcurrent
  apply hkept
  decide

end TokenCache

/-! ## Sessions -/

def Outcome.result? {α : Type} : Outcome α → Option (Except PaymentError α)
  | done value => some (.ok value)
  | failed error => some (.error error)
  | aborted => none

/-- The session after the token of a key has been looked up: the clock is read if there is one. -/
def Session.afterLookup (session : Session) (key : TokenKey) : Session :=
  if (session.tokens.find? key).isSome then session.later else session

namespace Call

variable {key : TokenKey} {world : World} {session : Session}

theorem usableToken?_eq (key : TokenKey) (world : World) (session : Session) :
    usableToken? key world session =
      ofCalendar (session.tokens.usableToken? key (world.clock session.readings)) world
        (session.afterLookup key) := by
  have hrun : usableToken? key world session =
      (if (session.tokens.find? key).isNone then (pure none : Call (Option String)) else
        readClock >>= fun now ↦ ofCalendar (session.tokens.usableToken? key now)) world session :=
    rfl
  cases hfind : session.tokens.find? key with
  | none =>
    rw [hrun, Session.afterLookup, TokenCache.usableToken?, hfind]
    rfl
  | some credential =>
    rw [hrun, Session.afterLookup, hfind]
    rfl

theorem keeps_tokens_exchange (provider : Provider) (request : Request) (world : World)
    (tokens : TokenCache) : (exchange provider request).Keeps world (·.tokens = tokens) := by
  have hsend : (send provider request).Keeps world (·.tokens = tokens) := by
    intro session h
    obtain ⟨_, hrun⟩ | ⟨_, hrun⟩ := send_cases provider request world session
    · rw [hrun]
      exact h
    · rw [hrun]
      exact h
  have hread : readClock.Keeps world (·.tokens = tokens) := fun _ h ↦ h
  refine hsend.bind fun reply ↦ (keeps_ofExcept _).bind fun grant ↦ hread.bind fun now ↦ ?_
  cases Credential.issue? grant now <;> exact keeps_of_eq fun _ ↦ rfl

/-- What the cache of a session answers when it is asked for a token at the time of the session.  The
exchange takes place after the token has been looked up. -/
def askCache (key : TokenKey) (fetch : Call Credential) (world : World) (session : Session) :
    Option (TokenCache.Answer × TokenCache) :=
  session.tokens.get? key (world.clock session.readings)
    (fetch world (session.afterLookup key)).1.result?

/-- A request for a token in a session comes to what its cache answers, and nothing is sent but by an
exchange that the cache takes. -/
structure AsksCache (key : TokenKey) (fetch : Call Credential) (world : World)
    (session : Session) : Prop where
  result : (bearerToken key fetch world session).1.result? =
    (askCache key fetch world session).map (·.1.result)
  tokens : (bearerToken key fetch world session).2.tokens =
    ((askCache key fetch world session).map Prod.snd).getD session.tokens
  log : ∀ answer after, askCache key fetch world session = some (answer, after) →
    (bearerToken key fetch world session).2.log =
      if answer.exchanged then (fetch world (session.afterLookup key)).2.log else session.log

theorem tokens_afterLookup (session : Session) (key : TokenKey) :
    (session.afterLookup key).tokens = session.tokens := by
  unfold Session.afterLookup
  split <;> rfl

theorem log_afterLookup (session : Session) (key : TokenKey) :
    (session.afterLookup key).log = session.log := by
  unfold Session.afterLookup
  split <;> rfl

section

variable {fetch : Call Credential}

/-- The looked-up token leaves the calendar. -/
theorem asksCache_of_lost
    (h : session.tokens.usableToken? key (world.clock session.readings) = none) :
    AsksCache key fetch world session := by
  have hlookup := usableToken?_eq key world session
  rw [h] at hlookup
  have hasked : bearerToken key fetch world session = (.aborted, session.afterLookup key) :=
    bind_aborted hlookup _
  have hgot : askCache key fetch world session = none := TokenCache.get?_of_lost h
  constructor
  case result => rw [hasked, hgot]; rfl
  case tokens => rw [hasked, hgot]; exact tokens_afterLookup session key
  case log => rw [hgot]; nofun

/-- A usable token is found. -/
theorem asksCache_of_found {token : String}
    (h : session.tokens.usableToken? key (world.clock session.readings) = some (some token)) :
    AsksCache key fetch world session := by
  have hlookup := usableToken?_eq key world session
  rw [h] at hlookup
  have hasked : bearerToken key fetch world session = (.done token, session.afterLookup key) :=
    bind_done hlookup _
  have hgot : askCache key fetch world session = some (⟨.ok token, false⟩, session.tokens) :=
    TokenCache.get?_of_usable h
  constructor
  case result => rw [hasked, hgot]; rfl
  case tokens => rw [hasked, hgot]; exact tokens_afterLookup session key
  case log =>
    rw [hasked, hgot]
    rintro _ _ ⟨⟩
    exact log_afterLookup session key

/-- No usable token is found, and the exchange takes place. -/
theorem asksCache_of_exchange (hfetch : fetch.Keeps world (·.tokens = session.tokens))
    (h : session.tokens.usableToken? key (world.clock session.readings) = some none) :
    AsksCache key fetch world session := by
  have hlookup := usableToken?_eq key world session
  rw [h] at hlookup
  have hkept : (fetch world (session.afterLookup key)).2.tokens = session.tokens :=
    hfetch _ (tokens_afterLookup session key)
  have hasked : bearerToken key fetch world session = (fetch >>= fun credential ↦
      updateTokens (·.store key credential) >>= fun _ ↦ pure credential.token) world
        (session.afterLookup key) := bind_done hlookup _
  have hgot : askCache key fetch world session =
      (fetch world (session.afterLookup key)).1.result?.map fun outcome ↦
        (⟨outcome.map Credential.token, true⟩, session.tokens.afterExchange key outcome) :=
    TokenCache.get?_of_unusable h
  generalize hrun : fetch world (session.afterLookup key) = run at hkept hgot
  obtain ⟨outcome, session'⟩ := run
  cases outcome with
  | done credential =>
    rw [bind_done hrun] at hasked
    constructor
    case result => rw [hasked, hgot]; rfl
    case tokens => rw [hasked, hgot]; exact congrArg (·.store key credential) hkept
    case log =>
      rw [hasked, hgot, hrun]
      rintro _ _ ⟨⟩
      rfl
  | failed error =>
    rw [bind_failed hrun] at hasked
    constructor
    case result => rw [hasked, hgot]; rfl
    case tokens => rw [hasked, hgot]; exact hkept
    case log =>
      rw [hasked, hgot, hrun]
      rintro _ _ ⟨⟩
      rfl
  | aborted =>
    rw [bind_aborted hrun] at hasked
    constructor
    case result => rw [hasked, hgot]; rfl
    case tokens => rw [hasked, hgot]; exact hkept
    case log => rw [hgot]; nofun

end

theorem bearerToken_asksCache {fetch : Call Credential}
    (hfetch : ∀ tokens, fetch.Keeps world (·.tokens = tokens)) (key : TokenKey)
    (session : Session) : AsksCache key fetch world session := by
  cases husable : session.tokens.usableToken? key (world.clock session.readings) with
  | none => exact asksCache_of_lost husable
  | some found =>
    cases found with
    | some token => exact asksCache_of_found husable
    | none => exact asksCache_of_exchange (hfetch session.tokens) husable

/-- The tokens of an account are asked for in this way. -/
theorem exchange_asksCache (key : TokenKey) (request : Request) (world : World)
    (session : Session) : AsksCache key (exchange key.provider request) world session :=
  bearerToken_asksCache (keeps_tokens_exchange key.provider request world) key session

end Call

end MobileMoney
