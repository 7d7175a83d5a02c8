import MobileMoney.Proofs.Json.Equality
import MobileMoney.Proofs.Session.Initiation
import MobileMoney.Proofs.Time.Position

/-!
# Lifetimes of credentials

A credential that a reply grants is usable as long as its lifetime has not run out within the margin.
This is so in exact integers where both its end and the moment at which the margin begins lie in the
calendar.  Beyond the calendar nothing is answered, and a lifetime or a margin that is longer than any
difference of two instants counts for nothing.
-/

namespace MobileMoney

open Instant

namespace Duration

variable {d : Duration}

theorem span_of_le (h : d.nanos ≤ maxSpan) : d.span = d.nanos :=
  if_pos h

theorem span_of_lt (h : maxSpan < d.nanos) : d.span = 0 :=
  if_neg (Nat.not_le.mpr h)

/-- Seconds are cut to the longest duration, which is longer than any span. -/
theorem span_ofSeconds (n : Nat) :
    (ofSeconds n).span = if n * nanosPerSecond ≤ maxSpan then n * nanosPerSecond else 0 := by
  have hmax : maxSpan < maxNanos := by decide
  have hnanos : (ofSeconds n).nanos = min (n * nanosPerSecond) maxNanos := rfl
  by_cases h : n * nanosPerSecond ≤ maxSpan
  · have hsame : (ofSeconds n).nanos = n * nanosPerSecond := by omega
    rw [if_pos h, span_of_le (by omega), hsame]
  · rw [if_neg h, span_of_lt (by omega)]
    rfl

end Duration

namespace Credential

theorem isUsable?_eq {credential : Credential} {now : Instant} {margin : Duration}
    (h : credential.expiresAt.isLeapSecond = false) :
    credential.isUsable? now margin =
      if InCalendar (credential.expiresAt.position - margin.span) then
        some (decide (now.position < credential.expiresAt.position - margin.span))
      else none := by
  rw [isUsable?, sub?, shift?_eq h, ← Int.sub_eq_add_neg]
  split
  · next hcalendar =>
    obtain ⟨t, ht, hposition, hleap⟩ := exists_ofPosition? hcalendar
    rw [ht, Option.map_some, isBefore_eq hleap, hposition]
  · next hcalendar => rw [ofPosition?_eq_none hcalendar, Option.map_none]

end Credential

namespace TokenGrant

/-- The nanoseconds for which the token is granted. -/
def lifetime (grant : TokenGrant) : Nat :=
  grant.seconds * nanosPerSecond

/-- Whether a credential that is issued for a grant is usable later on; nothing when a time leaves
the calendar. -/
def usable? (grant : TokenGrant) (issuedAt : Instant) (margin : Duration) (now : Instant) :
    Option Bool :=
  (Credential.issue? grant issuedAt).bind (·.isUsable? now margin)

/-- What the answers should be: those of exact integer arithmetic. -/
def IsExact (grant : TokenGrant) (issuedAt : Instant) (margin : Duration) (now : Instant) : Prop :=
  grant.usable? issuedAt margin now =
    some (decide (now.position + margin.nanos < issuedAt.position + grant.lifetime))

variable {grant : TokenGrant} {issuedAt now : Instant} {margin : Duration}

/-- The lifetime as far as it counts: all of it, or nothing of one that is too long. -/
def counted (grant : TokenGrant) : Nat :=
  if grant.lifetime ≤ Duration.maxSpan then grant.lifetime else 0

theorem issue?_eq (h : issuedAt.isLeapSecond = false) :
    Credential.issue? grant issuedAt =
      (ofPosition? (issuedAt.position + grant.counted)).map (Credential.mk grant.token) := by
  have hspan : (Duration.ofSeconds grant.seconds).span = grant.counted := by
    rw [Duration.span_ofSeconds, counted, lifetime]
  rw [Credential.issue?, add?, shift?_eq h, hspan]

/-- The answer for every grant, time and margin. -/
theorem usable?_eq (h : issuedAt.isLeapSecond = false) :
    grant.usable? issuedAt margin now =
      if InCalendar (issuedAt.position + grant.counted) ∧
          InCalendar (issuedAt.position + grant.counted - margin.span) then
        some (decide (now.position + margin.span < issuedAt.position + grant.counted))
      else none := by
  rw [usable?, issue?_eq h]
  by_cases hcalendar : InCalendar (issuedAt.position + grant.counted)
  · obtain ⟨expiresAt, hexpires, hposition, hleap⟩ := exists_ofPosition? hcalendar
    have hcompare : now.position < issuedAt.position + grant.counted - margin.span ↔
        now.position + margin.span < issuedAt.position + grant.counted := by omega
    rw [hexpires, Option.map_some, Option.bind_some, Credential.isUsable?_eq hleap]
    simp only [hposition, hcalendar, true_and, hcompare]
  · rw [ofPosition?_eq_none hcalendar, if_neg fun hboth ↦ hcalendar hboth.1]
    rfl

theorem usable?_eq_true_iff (h : issuedAt.isLeapSecond = false) :
    grant.usable? issuedAt margin now = some true ↔
      InCalendar (issuedAt.position + grant.counted) ∧
        InCalendar (issuedAt.position + grant.counted - margin.span) ∧
        now.position + margin.span < issuedAt.position + grant.counted := by
  rw [usable?_eq h]
  split
  · next hcalendar => simp [hcalendar]
  · next hcalendar => simp [← and_assoc, hcalendar]

/-- A lifetime that ends in the calendar counts in full. -/
theorem counted_of_inCalendar (h : issuedAt.isLeapSecond = false)
    (hend : InCalendar (issuedAt.position + grant.lifetime)) : grant.counted = grant.lifetime := by
  have hspan := sub_le_maxSpan hend (inCalendar_position h)
  exact if_pos (by omega)

/-- How the time of a credential is counted that is issued for a grant. -/
structure CountsTime (grant : TokenGrant) (issuedAt : Instant) : Prop where
  inCalendar : ∀ margin now, InCalendar (issuedAt.position + grant.lifetime) →
    InCalendar (issuedAt.position + grant.lifetime - margin.nanos) →
      IsExact grant issuedAt margin now
  /-- A longer lifetime is no worse, as long as it ends in the calendar. -/
  longer : ∀ seconds margin now, grant.seconds ≤ seconds →
    InCalendar (issuedAt.position + (TokenGrant.mk grant.token seconds).lifetime) →
      grant.usable? issuedAt margin now = some true →
        (TokenGrant.mk grant.token seconds).usable? issuedAt margin now = some true
  /-- A larger margin is no better, as long as it counts. -/
  smaller : ∀ margin larger now, margin.nanos ≤ larger.nanos → larger.nanos ≤ Duration.maxSpan →
    grant.usable? issuedAt larger now = some true → grant.usable? issuedAt margin now = some true
  endless : grant.lifetime ≤ Duration.maxSpan →
    ¬ InCalendar (issuedAt.position + grant.lifetime) → Credential.issue? grant issuedAt = none
  uncounted : Duration.maxSpan < grant.lifetime →
    Credential.issue? grant issuedAt = some ⟨grant.token, issuedAt⟩
  marginBeyond : ∀ margin now, margin.nanos ≤ Duration.maxSpan →
    ¬ InCalendar (issuedAt.position + grant.counted - margin.nanos) →
      grant.usable? issuedAt margin now = none
  marginUncounted : ∀ margin now, Duration.maxSpan < margin.nanos →
    grant.usable? issuedAt margin now = grant.usable? issuedAt .zero now

theorem countsTime (grant : TokenGrant) (h : issuedAt.isLeapSecond = false) :
    CountsTime grant issuedAt := by
  constructor
  case inCalendar =>
    intro margin now hend hbegin
    have hspan := sub_le_maxSpan hend hbegin
    rw [IsExact, usable?_eq h, counted_of_inCalendar h hend, Duration.span_of_le (by omega),
      if_pos ⟨hend, hbegin⟩]
  case longer =>
    intro seconds margin now hle hend husable
    have hlifetime : grant.lifetime ≤ (TokenGrant.mk grant.token seconds).lifetime :=
      Nat.mul_le_mul_right _ hle
    have hcounted : grant.counted ≤ grant.lifetime := by
      unfold counted
      split <;> omega
    rw [usable?_eq_true_iff h] at husable ⊢
    rw [counted_of_inCalendar h hend]
    have hmargin := husable.2.1
    unfold InCalendar at *
    have hspan : 0 ≤ margin.span := by
      unfold Duration.span
      split <;> omega
    omega
  case smaller =>
    intro margin larger now hle hmax husable
    rw [usable?_eq_true_iff h] at husable ⊢
    rw [Duration.span_of_le hmax] at husable
    rw [Duration.span_of_le (Nat.le_trans hle hmax)]
    unfold InCalendar at *
    omega
  case endless =>
    intro hmax hend
    rw [issue?_eq h, counted, if_pos hmax, ofPosition?_eq_none hend]
    rfl
  case uncounted =>
    intro hmax
    rw [issue?_eq h, counted, if_neg (Nat.not_le.mpr hmax), Int.natCast_zero, Int.add_zero,
      ofPosition?_position h]
    rfl
  case marginBeyond =>
    intro margin now hmax hbegin
    rw [usable?_eq h, Duration.span_of_le hmax]
    exact if_neg fun hboth ↦ hbegin hboth.2
  case marginUncounted =>
    intro margin now hmax
    rw [usable?_eq h, usable?_eq h, Duration.span_of_lt hmax]
    rfl

theorem ofReply_of_seconds {reply : Reply} {token : String} {lifetime : Json} {seconds : Nat}
    (hsuccess : reply.isSuccess = true) (hrecord : reply.record readRecord? = .ok (token, lifetime))
    (hseconds : readSeconds? lifetime = some seconds) : ofReply reply = .ok ⟨token, seconds⟩ := by
  rw [ofReply, hsuccess, hrecord]
  simp only [bind, Except.bind, hseconds]
  rfl

/-- **Lifetimes are counted exactly within the calendar.**  A success that states a token and a
number of seconds grants the token for so long.  A credential that is issued for it outside a leap
second is usable exactly as long as its lifetime has not run out within the margin, if its end and
the beginning of the margin lie in the calendar: then a longer lifetime is no worse and a larger
margin no better.  A credential that would end after the calendar is not issued, a margin that begins
before it leaves the question without an answer, and a lifetime or a margin beyond the longest span
counts for nothing. -/
theorem lifetimes_are_exact {reply : Reply} {token : String} {lifetime : Json} {seconds : Nat}
    {issuedAt : Instant} (hsuccess : reply.isSuccess = true)
    (hrecord : reply.record readRecord? = .ok (token, lifetime))
    (hseconds : readSeconds? lifetime = some seconds) (hclock : issuedAt.isLeapSecond = false) :
    ofReply reply = .ok ⟨token, seconds⟩ ∧ CountsTime ⟨token, seconds⟩ issuedAt :=
  ⟨ofReply_of_seconds hsuccess hrecord hseconds, countsTime _ hclock⟩

def sampleStart : Instant :=
  ⟨1704067200, 0, by decide⟩

/-- A grant for a second less than an hour, written as a text. -/
def hourReply : Reply :=
  ⟨.mpesa, 200, "\x7b\"access_token\":\"token\",\"expires_in\":\"3599\"\x7d"⟩

theorem lifetimes_are_exact_hour :
    hourReply.isSuccess = true ∧ hourReply.record readRecord? = .ok ("token", .text "3599") ∧
      readSeconds? (.text "3599") = some 3599 ∧ sampleStart.isLeapSecond = false ∧
      ofReply hourReply = .ok ⟨"token", 3599⟩ ∧ CountsTime ⟨"token", 3599⟩ sampleStart := by
  have hsuccess : hourReply.isSuccess = true := by decide
  have hrecord : hourReply.record readRecord? = .ok ("token", .text "3599") :=
    Reply.record_eq_ok.mpr (by decide +kernel)
  have hseconds : readSeconds? (.text "3599") = some 3599 := by decide +kernel
  have hclock : sampleStart.isLeapSecond = false := by decide
  exact ⟨hsuccess, hrecord, hseconds, hclock,
    lifetimes_are_exact hsuccess hrecord hseconds hclock⟩

/-! ### A lifetime that is longer than any span -/

/-- A grant for some three hundred million years. -/
def endlessReply : Reply :=
  ⟨.mpesa, 200, "\x7b\"access_token\":\"token\",\"expires_in\":10000000000000000\x7d"⟩

/-- A credential for such a lifetime is not usable at the moment at which it is issued. -/
theorem not_forall_isExact :
    ¬ ∀ (reply : Reply) (grant : TokenGrant) (issuedAt : Instant) (margin : Duration)
        (now : Instant), ofReply reply = .ok grant → issuedAt.isLeapSecond = false →
      issuedAt.position ≤ now.position → IsExact grant issuedAt margin now := by
  intro hall
  have hrecord : endlessReply.record readRecord? = .ok ("token", .nat 10000000000000000) :=
    Reply.record_eq_ok.mpr (by decide +kernel)
  have hgrant : ofReply endlessReply = .ok ⟨"token", 10000000000000000⟩ :=
    ofReply_of_seconds (by decide) hrecord (by decide +kernel)
  have hexact := hall endlessReply ⟨"token", 10000000000000000⟩ sampleStart .zero sampleStart
    hgrant (by decide) (Int.le_refl _)
  have hanswer :
      usable? ⟨"token", 10000000000000000⟩ sampleStart .zero sampleStart = some false := by
    decide +kernel
  rw [IsExact, hanswer] at hexact
  revert hexact
  decide +kernel

end TokenGrant

end MobileMoney
