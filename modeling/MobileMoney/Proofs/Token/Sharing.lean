import Mathlib.Logic.Function.Basic
import MobileMoney.Proofs.Token.Recall

/-!
# Shared caches

A request for a token has three sections: it looks for a usable token, it makes an exchange when
there is none, and it stores what the exchange has given.  The cache is locked during the first and
the last, and not in between, so the sections of many requests, invalidations and clearings follow
each other in any order.  Such an order is a list of steps.  `TakesSections` says what a request has
done when it has come to a phase, whatever the others have done, and the safety of the whole follows
from that.
-/

namespace MobileMoney

/-! ## One request -/

/-- The section of a request that comes next, or its result: none if a time left the calendar. -/
inductive RequestPhase where
  | lookingUp
  | exchanging
  | storing (credential : Credential)
  | ended (result : Option (Except PaymentError String))

/-- What a request does in a section. -/
inductive RequestSection where
  | lookup (cache : TokenCache) (now : Instant)
  | exchange (outcome : Option (Except PaymentError Credential))
  | store (credential : Credential)

namespace RequestPhase

def afterLookup : Option (Option String) → RequestPhase
  | none => ended none
  | some none => exchanging
  | some (some token) => ended (some (.ok token))

def afterExchange : Option (Except PaymentError Credential) → RequestPhase
  | none => ended none
  | some (.error error) => ended (some (.error error))
  | some (.ok credential) => storing credential

section

variable (key : TokenKey) (cache : TokenCache) (now : Instant)
  (exchange : Option (Except PaymentError Credential))

/-- The phase after the next section, at a time and with what an exchange would give. -/
def next : RequestPhase → RequestPhase
  | lookingUp => afterLookup (cache.usableToken? key now)
  | exchanging => afterExchange exchange
  | storing credential => ended (some (.ok credential.token))
  | ended result => ended result

/-- The cache after the next section. -/
def cacheAfter : RequestPhase → TokenCache
  | storing credential => cache.store key credential
  | _ => cache

def section? : RequestPhase → Option RequestSection
  | lookingUp => some (.lookup cache now)
  | exchanging => some (.exchange exchange)
  | storing credential => some (.store credential)
  | ended _ => none

end

/-- A section changes the cache only if it stores a credential. -/
theorem cacheAfter_cases (key : TokenKey) (cache : TokenCache) (phase : RequestPhase) :
    phase.cacheAfter key cache = cache ∨ ∃ credential, phase = storing credential ∧
      phase.cacheAfter key cache = cache.store key credential := by
  cases phase with
  | storing credential => exact .inr ⟨credential, rfl, rfl⟩
  | lookingUp => exact .inl rfl
  | exchanging => exact .inl rfl
  | ended result => exact .inl rfl

/-- How many sections are left at most. -/
def sectionsLeft : RequestPhase → Nat
  | lookingUp => 3
  | exchanging => 2
  | storing _ => 1
  | ended _ => 0

theorem sectionsLeft_next (key : TokenKey) (cache : TokenCache) (now : Instant)
    (exchange : Option (Except PaymentError Credential)) (phase : RequestPhase) :
    (phase.next key cache now exchange).sectionsLeft ≤ phase.sectionsLeft - 1 := by
  cases phase with
  | lookingUp =>
    show (afterLookup (cache.usableToken? key now)).sectionsLeft ≤ 2
    obtain _ | (_ | token) := cache.usableToken? key now
    · exact Nat.zero_le _
    · exact Nat.le_refl _
    · exact Nat.zero_le _
  | exchanging =>
    show (afterExchange exchange).sectionsLeft ≤ 1
    obtain _ | (error | credential) := exchange
    · exact Nat.zero_le _
    · exact Nat.zero_le _
    · exact Nat.le_refl _
  | storing credential => exact Nat.zero_le _
  | ended result => exact Nat.zero_le _

theorem exists_ended_of_sectionsLeft {phase : RequestPhase} (h : phase.sectionsLeft = 0) :
    ∃ result, phase = ended result := by
  cases phase with
  | ended result => exact ⟨result, rfl⟩
  | lookingUp => cases h
  | exchanging => cases h
  | storing credential => cases h

end RequestPhase

namespace RequestSection

def isExchange : RequestSection → Bool
  | exchange _ => true
  | _ => false

/-- Whether a section has found a credential that was kept for the key and usable at that time. -/
def Recalls (key : TokenKey) (credential : Credential) : RequestSection → Prop
  | lookup cache now => cache.find? key = some credential ∧
      credential.isUsable? now cache.margin = some true
  | _ => False

@[simp]
theorem not_recalls_exchange {key : TokenKey} {credential : Credential}
    {outcome : Option (Except PaymentError Credential)} :
    ¬ (exchange outcome).Recalls key credential :=
  id

@[simp]
theorem not_recalls_store {key : TokenKey} {credential stored : Credential} :
    ¬ (store stored).Recalls key credential :=
  id

end RequestSection

/-- What a request for a key has done when it has come to a phase. -/
inductive TakesSections (key : TokenKey) : List RequestSection → RequestPhase → Prop
  | waiting : TakesSections key [] .lookingUp
  | recalled {cache : TokenCache} {now : Instant} {credential : Credential}
      (found : cache.find? key = some credential)
      (usable : credential.isUsable? now cache.margin = some true) :
      TakesSections key [.lookup cache now] (.ended (some (.ok credential.token)))
  | lost {cache : TokenCache} {now : Instant} (lost : cache.usableToken? key now = none) :
      TakesSections key [.lookup cache now] (.ended none)
  | missed {cache : TokenCache} {now : Instant} (missed : cache.usableToken? key now = some none) :
      TakesSections key [.lookup cache now] .exchanging
  | overran {cache : TokenCache} {now : Instant} (missed : cache.usableToken? key now = some none) :
      TakesSections key [.lookup cache now, .exchange none] (.ended none)
  | refused {cache : TokenCache} {now : Instant} (missed : cache.usableToken? key now = some none)
      (error : PaymentError) :
      TakesSections key [.lookup cache now, .exchange (some (.error error))]
        (.ended (some (.error error)))
  | issued {cache : TokenCache} {now : Instant} (missed : cache.usableToken? key now = some none)
      (credential : Credential) :
      TakesSections key [.lookup cache now, .exchange (some (.ok credential))]
        (.storing credential)
  | stored {cache : TokenCache} {now : Instant} (missed : cache.usableToken? key now = some none)
      (credential : Credential) :
      TakesSections key
        [.lookup cache now, .exchange (some (.ok credential)), .store credential]
        (.ended (some (.ok credential.token)))

theorem TokenCache.exists_of_usableToken? {cache : TokenCache} {key : TokenKey} {now : Instant}
    {token : String} (h : cache.usableToken? key now = some (some token)) :
    ∃ credential, cache.find? key = some credential ∧
      credential.isUsable? now cache.margin = some true ∧ credential.token = token := by
  unfold usableToken? at h
  split at h
  · cases h
  · next credential hfound =>
    obtain ⟨usable, husable, htoken⟩ := Option.map_eq_some_iff.mp h
    split at htoken
    · next htrue => exact ⟨credential, hfound, htrue ▸ husable, Option.some.inj htoken⟩
    · cases htoken

theorem takesSections_lookup (key : TokenKey) (cache : TokenCache) (now : Instant) :
    TakesSections key [.lookup cache now] (.afterLookup (cache.usableToken? key now)) := by
  cases h : cache.usableToken? key now with
  | none => exact .lost h
  | some found =>
    cases found with
    | none => exact .missed h
    | some token =>
      obtain ⟨credential, hfound, husable, rfl⟩ := TokenCache.exists_of_usableToken? h
      exact .recalled hfound husable

namespace TakesSections

variable {key : TokenKey} {sections : List RequestSection} {phase : RequestPhase}

theorem next (h : TakesSections key sections phase) (cache : TokenCache) (now : Instant)
    (exchange : Option (Except PaymentError Credential)) :
    TakesSections key (sections ++ (phase.section? cache now exchange).toList)
      (phase.next key cache now exchange) := by
  cases h with
  | waiting => exact takesSections_lookup key cache now
  | recalled found usable => exact .recalled found usable
  | lost lost => exact .lost lost
  | missed missed =>
    obtain _ | (error | credential) := exchange
    · exact .overran missed
    · exact .refused missed error
    · exact .issued missed credential
  | overran missed => exact .overran missed
  | refused missed error => exact .refused missed error
  | issued missed credential => exact .stored missed credential
  | stored missed credential => exact .stored missed credential

theorem countP_isExchange_le (h : TakesSections key sections phase) :
    sections.countP RequestSection.isExchange ≤ 1 := by
  cases h <;> simp [RequestSection.isExchange, List.countP_cons]

/-- A credential that is about to be stored was issued. -/
theorem exchange_mem {credential : Credential}
    (h : TakesSections key sections (.storing credential)) :
    .exchange (some (.ok credential)) ∈ sections := by
  cases h with
  | issued => simp

theorem answered {token : String} (h : TakesSections key sections (.ended (some (.ok token)))) :
    ∃ credential, credential.token = token ∧ ((∃ taken ∈ sections, taken.Recalls key credential) ∨
      .exchange (some (.ok credential)) ∈ sections) := by
  cases h with
  | recalled found usable => exact ⟨_, rfl, .inl ⟨_, List.mem_singleton_self _, found, usable⟩⟩
  | stored missed credential => exact ⟨credential, rfl, .inr (by simp)⟩

theorem not_recalls_of_missed {cache : TokenCache} {now : Instant}
    (missed : cache.usableToken? key now = some none) (credential : Credential) :
    ¬ (RequestSection.lookup cache now).Recalls key credential := by
  intro hrecalls
  obtain ⟨hfound, husable⟩ := hrecalls
  rw [TokenCache.usableToken?, hfound] at missed
  simp [husable] at missed

/-- A request that found a usable token made no exchange. -/
theorem countP_isExchange_eq_zero (h : TakesSections key sections phase) {credential : Credential}
    (hrecalls : ∃ taken ∈ sections, taken.Recalls key credential) :
    sections.countP RequestSection.isExchange = 0 := by
  cases h with
  | waiting => rfl
  | recalled => rfl
  | lost => rfl
  | missed => rfl
  | overran missed => simp [not_recalls_of_missed missed] at hrecalls
  | refused missed => simp [not_recalls_of_missed missed] at hrecalls
  | issued missed => simp [not_recalls_of_missed missed] at hrecalls
  | stored missed => simp [not_recalls_of_missed missed] at hrecalls

/-- A request whose exchange has given no credential has stored nothing. -/
theorem store_notMem (h : TakesSections key sections phase)
    {outcome : Option (Except PaymentError Credential)} (hexchange : .exchange outcome ∈ sections)
    (hfailed : ∀ credential, outcome ≠ some (.ok credential)) (credential : Credential) :
    .store credential ∉ sections := by
  cases h with
  | stored missed issued =>
    obtain rfl : outcome = some (.ok issued) := by simpa using hexchange
    exact absurd rfl (hfailed issued)
  | _ => simp

end TakesSections

/-! ## Many requests -/

/-- A cache and the requests that use it. -/
structure SharedCache (Requester : Type) where
  cache : TokenCache
  phase : Requester → RequestPhase

/-- The next section of a request, at a time and with what an exchange would give, or something that
is done to the cache at once. -/
inductive SharedStep (Requester : Type) where
  | advance (requester : Requester) (now : Instant)
      (exchange : Option (Except PaymentError Credential))
  | invalidate (key : TokenKey)
  | clear

/-- A step and what it finds. -/
structure SharedMoment (Requester : Type) where
  before : SharedCache Requester
  step : SharedStep Requester

section

variable {Requester : Type} [DecidableEq Requester] (keyOf : Requester → TokenKey)

namespace SharedCache

def start (margin : Duration) : SharedCache Requester :=
  ⟨.empty margin, fun _ ↦ .lookingUp⟩

def step (shared : SharedCache Requester) : SharedStep Requester → SharedCache Requester
  | .advance requester now exchange =>
    let phase := shared.phase requester
    ⟨phase.cacheAfter (keyOf requester) shared.cache, Function.update shared.phase requester
      (phase.next (keyOf requester) shared.cache now exchange)⟩
  | .invalidate key => { shared with cache := shared.cache.invalidate key }
  | .clear => { shared with cache := shared.cache.clear }

def run (shared : SharedCache Requester) (steps : List (SharedStep Requester)) :
    SharedCache Requester :=
  steps.foldl (step keyOf) shared

/-- The moments of a run. -/
def history (shared : SharedCache Requester) :
    List (SharedStep Requester) → List (SharedMoment Requester)
  | [] => []
  | step :: rest => ⟨shared, step⟩ :: (shared.step keyOf step).history rest

end SharedCache

def SharedStep.isOf (requester : Requester) : SharedStep Requester → Bool
  | advance other _ _ => other = requester
  | _ => false

namespace SharedMoment

def after (moment : SharedMoment Requester) : SharedCache Requester :=
  moment.before.step keyOf moment.step

/-- What a request does in a step, if it is the one that takes the step. -/
def section? (requester : Requester) (moment : SharedMoment Requester) : Option RequestSection :=
  match moment.step with
  | .advance other now exchange =>
    if other = requester then
      (moment.before.phase requester).section? moment.before.cache now exchange
    else none
  | _ => none

end SharedMoment

/-- The three sections of a request, one after the other, come to a request to the cache. -/
def SharedCache.IsServedAlone (shared : SharedCache Requester) (requester : Requester)
    (now : Instant) (exchange : Option (Except PaymentError Credential)) : Prop :=
  let answer := shared.cache.get? (keyOf requester) now exchange
  let after := shared.run keyOf (List.replicate 3 (.advance requester now exchange))
  after.phase requester = .ended (answer.map (·.1.result)) ∧
    after.cache = (answer.map Prod.snd).getD shared.cache

/-- What a request has done in a run. -/
def sectionsOf (requester : Requester) (history : List (SharedMoment Requester)) :
    List RequestSection :=
  history.filterMap (SharedMoment.section? requester)

/-- A run in which requests do not harm each other.  What is kept for a key was issued for it.  A
request that succeeds has a token that it found kept for its key and usable, or the one that it was
issued.  It makes one exchange at most, none if it found a token, and if the exchange fails no
section of the request changes the cache.  Three steps are enough for a request, and what it does
undisturbed is to ask the cache. -/
structure IsSafe (history : List (SharedMoment Requester)) (shared : SharedCache Requester) :
    Prop where
  issued : ∀ key credential, shared.cache.find? key = some credential →
    ∃ requester, keyOf requester = key ∧
      .exchange (some (.ok credential)) ∈ sectionsOf requester history
  answered : ∀ requester token, shared.phase requester = .ended (some (.ok token)) →
    ∃ credential, credential.token = token ∧
      ((∃ taken ∈ sectionsOf requester history, taken.Recalls (keyOf requester) credential) ∨
        .exchange (some (.ok credential)) ∈ sectionsOf requester history)
  once : ∀ requester, (sectionsOf requester history).countP RequestSection.isExchange ≤ 1
  recalled : ∀ requester credential,
    (∃ taken ∈ sectionsOf requester history, taken.Recalls (keyOf requester) credential) →
      (sectionsOf requester history).countP RequestSection.isExchange = 0
  failed : ∀ requester outcome, .exchange outcome ∈ sectionsOf requester history →
    (∀ credential, outcome ≠ some (.ok credential)) →
      ∀ moment ∈ history, moment.step.isOf requester = true →
        (moment.after keyOf).cache = moment.before.cache
  ends : ∀ requester, 3 ≤ history.countP (·.step.isOf requester) →
    ∃ result, shared.phase requester = .ended result
  alone : ∀ requester, shared.phase requester = .lookingUp → ∀ now exchange,
    shared.IsServedAlone keyOf requester now exchange

/-- The requests of a run and the cache that they share, as the moments of the run say. -/
structure IsTraced (history : List (SharedMoment Requester)) (shared : SharedCache Requester) :
    Prop where
  takes : ∀ requester,
    TakesSections (keyOf requester) (sectionsOf requester history) (shared.phase requester)
  issued : ∀ key credential, shared.cache.find? key = some credential →
    ∃ requester, keyOf requester = key ∧
      .exchange (some (.ok credential)) ∈ sectionsOf requester history
  left : ∀ requester, (shared.phase requester).sectionsLeft ≤
    3 - history.countP (·.step.isOf requester)

end

section

variable {Requester : Type} [DecidableEq Requester] {keyOf : Requester → TokenKey}
  {shared : SharedCache Requester} {history : List (SharedMoment Requester)}

namespace SharedCache

theorem run_concat (shared : SharedCache Requester) (steps : List (SharedStep Requester))
    (step : SharedStep Requester) :
    shared.run keyOf (steps ++ [step]) = (shared.run keyOf steps).step keyOf step := by
  rw [run, List.foldl_append]
  rfl

theorem history_concat (shared : SharedCache Requester) (steps : List (SharedStep Requester))
    (step : SharedStep Requester) :
    shared.history keyOf (steps ++ [step]) =
      shared.history keyOf steps ++ [⟨shared.run keyOf steps, step⟩] := by
  induction steps generalizing shared with
  | nil => rfl
  | cons first rest ih =>
    rw [List.cons_append, history, history, ih]
    rfl

theorem phase_advance_self (requester : Requester) (now : Instant)
    (exchange : Option (Except PaymentError Credential)) :
    (shared.step keyOf (.advance requester now exchange)).phase requester =
      (shared.phase requester).next (keyOf requester) shared.cache now exchange :=
  Function.update_self _ _ _

theorem phase_advance_of_ne {requester other : Requester} (h : requester ≠ other) (now : Instant)
    (exchange : Option (Except PaymentError Credential)) :
    (shared.step keyOf (.advance other now exchange)).phase requester = shared.phase requester :=
  Function.update_of_ne h _ _

variable (keyOf) in
theorem sectionsLeft_step (shared : SharedCache Requester) (step : SharedStep Requester)
    (requester : Requester) :
    ((shared.step keyOf step).phase requester).sectionsLeft ≤
      (shared.phase requester).sectionsLeft - (if step.isOf requester = true then 1 else 0) := by
  cases step with
  | invalidate key => exact Nat.le_refl _
  | clear => exact Nat.le_refl _
  | advance other now exchange =>
    by_cases hother : other = requester
    · subst hother
      have hof : (SharedStep.advance other now exchange).isOf other = true := decide_eq_true rfl
      rw [phase_advance_self, if_pos hof]
      exact RequestPhase.sectionsLeft_next _ _ _ _ _
    · have hof : ¬ (SharedStep.advance other now exchange).isOf requester = true :=
        fun h ↦ hother (of_decide_eq_true h)
      rw [phase_advance_of_ne (Ne.symm hother), if_neg hof]
      exact Nat.le_refl _

/-- What a step leaves in the cache was there before, or a request has just stored it. -/
theorem find?_step {key : TokenKey} {credential : Credential} {step : SharedStep Requester}
    (h : (shared.step keyOf step).cache.find? key = some credential) :
    shared.cache.find? key = some credential ∨
      ∃ requester, keyOf requester = key ∧ shared.phase requester = .storing credential := by
  cases step with
  | clear => cases h
  | invalidate removed =>
    by_cases hkey : key = removed
    · subst hkey
      rw [SharedCache.step, TokenCache.find?_invalidate] at h
      cases h
    · rw [SharedCache.step, TokenCache.find?_invalidate_of_ne hkey] at h
      exact .inl h
  | advance requester now exchange =>
    rw [SharedCache.step] at h
    obtain hsame | ⟨stored, hphase, hstored⟩ :=
      RequestPhase.cacheAfter_cases (keyOf requester) shared.cache (shared.phase requester)
    · rw [hsame] at h
      exact .inl h
    rw [hstored] at h
    by_cases hkey : key = keyOf requester
    · subst hkey
      rw [TokenCache.find?_store] at h
      exact .inr ⟨requester, rfl, Option.some.inj h ▸ hphase⟩
    · rw [TokenCache.find?_store_of_ne hkey] at h
      exact .inl h

end SharedCache

theorem sectionsOf_concat (requester : Requester) (history : List (SharedMoment Requester))
    (moment : SharedMoment Requester) :
    sectionsOf requester (history ++ [moment]) =
      sectionsOf requester history ++ (moment.section? requester).toList := by
  rw [sectionsOf, List.filterMap_append, sectionsOf]
  cases h : moment.section? requester <;> simp [h]

theorem SharedMoment.section?_advance (requester other : Requester) (now : Instant)
    (exchange : Option (Except PaymentError Credential)) :
    SharedMoment.section? requester ⟨shared, .advance other now exchange⟩ =
      if other = requester then (shared.phase requester).section? shared.cache now exchange
      else none :=
  rfl

/-- One step of a request adds its section, and a step of another adds none. -/
theorem TakesSections.step {sections : List RequestSection} {requester : Requester}
    (h : TakesSections (keyOf requester) sections (shared.phase requester))
    (step : SharedStep Requester) :
    TakesSections (keyOf requester)
      (sections ++ (SharedMoment.section? requester ⟨shared, step⟩).toList)
      ((shared.step keyOf step).phase requester) := by
  cases step with
  | invalidate key => rwa [SharedMoment.section?, Option.toList_none, List.append_nil]
  | clear => rwa [SharedMoment.section?, Option.toList_none, List.append_nil]
  | advance other now exchange =>
    rw [SharedMoment.section?_advance]
    by_cases hother : other = requester
    · subst hother
      rw [if_pos rfl, SharedCache.phase_advance_self]
      exact h.next shared.cache now exchange
    · rw [if_neg hother, SharedCache.phase_advance_of_ne (Ne.symm hother), Option.toList_none,
        List.append_nil]
      exact h

/-! ## Runs -/

theorem isTraced_start (margin : Duration) :
    IsTraced keyOf ([] : List (SharedMoment Requester)) (.start margin) where
  takes _ := .waiting
  issued _ _ h := by cases h
  left _ := Nat.le_refl _

theorem IsTraced.step (h : IsTraced keyOf history shared) (step : SharedStep Requester) :
    IsTraced keyOf (history ++ [⟨shared, step⟩]) (shared.step keyOf step) where
  takes requester := by
    rw [sectionsOf_concat]
    exact (h.takes requester).step step
  issued key credential hfound := by
    have hbefore : ∃ requester, keyOf requester = key ∧
        .exchange (some (.ok credential)) ∈ sectionsOf requester history := by
      obtain hkept | ⟨requester, hkey, hphase⟩ := SharedCache.find?_step hfound
      · exact h.issued key credential hkept
      · exact ⟨requester, hkey, (hphase ▸ h.takes requester).exchange_mem⟩
    obtain ⟨requester, hkey, hissued⟩ := hbefore
    refine ⟨requester, hkey, ?_⟩
    rw [sectionsOf_concat]
    exact List.mem_append_left _ hissued
  left requester := by
    have hleft := h.left requester
    have hstep := SharedCache.sectionsLeft_step keyOf shared step requester
    rw [List.countP_append, List.countP_singleton]
    dsimp only
    omega

theorem isTraced_run (margin : Duration) (steps : List (SharedStep Requester)) :
    IsTraced keyOf ((SharedCache.start margin).history keyOf steps)
      ((SharedCache.start margin).run keyOf steps) := by
  induction steps using List.reverseRecOn with
  | nil => exact isTraced_start margin
  | append_singleton steps step ih =>
    rw [SharedCache.history_concat, SharedCache.run_concat]
    exact ih.step step

/-- A section of a request that changes the cache is one in which it stores a credential. -/
theorem SharedMoment.store_mem_sectionsOf {moment : SharedMoment Requester} {requester : Requester}
    (hmoment : moment ∈ history) (hof : moment.step.isOf requester = true)
    (hchanged : (moment.after keyOf).cache ≠ moment.before.cache) :
    ∃ credential, .store credential ∈ sectionsOf requester history := by
  obtain ⟨before, step⟩ := moment
  cases step with
  | invalidate key => cases hof
  | clear => cases hof
  | advance other now exchange =>
    obtain rfl : other = requester := of_decide_eq_true hof
    obtain hsame | ⟨credential, hphase, -⟩ :=
      RequestPhase.cacheAfter_cases (keyOf other) before.cache (before.phase other)
    · exact absurd hsame hchanged
    refine ⟨credential, List.mem_filterMap.mpr ⟨_, hmoment, ?_⟩⟩
    rw [SharedMoment.section?_advance, if_pos rfl, hphase]
    rfl

theorem isServedAlone {requester : Requester} (h : shared.phase requester = .lookingUp)
    (now : Instant) (exchange : Option (Except PaymentError Credential)) :
    shared.IsServedAlone keyOf requester now exchange := by
  have hrun : shared.run keyOf (List.replicate 3 (.advance requester now exchange)) =
      ((shared.step keyOf (.advance requester now exchange)).step keyOf
        (.advance requester now exchange)).step keyOf (.advance requester now exchange) := rfl
  rw [SharedCache.IsServedAlone, hrun]
  cases hfound : shared.cache.usableToken? (keyOf requester) now with
  | none =>
    rw [TokenCache.get?_of_lost hfound]
    simp [SharedCache.step, RequestPhase.next, RequestPhase.cacheAfter, RequestPhase.afterLookup, h,
      hfound]
  | some found =>
    cases found with
    | some token =>
      rw [TokenCache.get?_of_usable hfound]
      simp [SharedCache.step, RequestPhase.next, RequestPhase.cacheAfter,
        RequestPhase.afterLookup, h, hfound]
    | none =>
      rw [TokenCache.get?_of_unusable hfound]
      obtain _ | (error | credential) := exchange <;>
        simp [SharedCache.step, RequestPhase.next, RequestPhase.cacheAfter,
          RequestPhase.afterLookup, RequestPhase.afterExchange, TokenCache.afterExchange, h,
          hfound, Except.map]

theorem IsTraced.isSafe (h : IsTraced keyOf history shared) : IsSafe keyOf history shared where
  issued := h.issued
  answered requester token hended := (hended ▸ h.takes requester).answered
  once requester := (h.takes requester).countP_isExchange_le
  recalled requester _ hrecalls := (h.takes requester).countP_isExchange_eq_zero hrecalls
  failed requester outcome hexchange hfailed moment hmoment hof := by
    by_contra hchanged
    obtain ⟨credential, hstore⟩ := moment.store_mem_sectionsOf hmoment hof hchanged
    exact (h.takes requester).store_notMem hexchange hfailed credential hstore
  ends requester hsteps := by
    have hleft := h.left requester
    exact RequestPhase.exists_ended_of_sectionsLeft (by omega)
  alone _ hphase := isServedAlone hphase

end

/-- **Requests that share a cache are safe.**  However the sections of any requests, invalidations
and clearings follow each other, and whatever comes of the exchanges, each credential that is kept
was issued to a request for its key; a request that succeeds has a token that was kept for its key
and usable when it looked, and then it has made no exchange, or the token that it was issued in its
one exchange; and a request whose exchange fails never changes the cache. -/
theorem shared_requests_are_safe {Requester : Type} [DecidableEq Requester]
    (keyOf : Requester → TokenKey) (margin : Duration) (steps : List (SharedStep Requester)) :
    IsSafe keyOf ((SharedCache.start margin).history keyOf steps)
      ((SharedCache.start margin).run keyOf steps) :=
  (isTraced_run margin steps).isSafe

end MobileMoney
