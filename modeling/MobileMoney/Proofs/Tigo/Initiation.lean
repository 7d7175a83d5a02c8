import MobileMoney.Proofs.Session.Initiation
import MobileMoney.Tigo.Account

/-!
# Tigo Pesa initiations

A prompt is sent once and without a token, and taken on with status `SUCCESS` or `PENDING`.
-/

namespace MobileMoney.Tigo

/-- Whether an answer takes a prompt on, in any case of its letters. -/
def acceptsCollection (body : String) : Bool :=
  (Markup.extract? body "STATUS").any fun status ↦
    ["SUCCESS", "PENDING"].contains (Text.upper status)

namespace Account

variable {account : Account}

theorem collectionResponse_pending {identifier : String} {prepared : PreparedCollection}
    {reply : Reply} {response : PaymentResponse}
    (h : collectionResponse identifier prepared reply = .ok response) :
    response.status = .pending := by
  simp only [collectionResponse, bind_eq_ok, ite_throw_eq_ok, pure_eq_ok] at h
  obtain ⟨_, -, -, rfl⟩ := h
  rfl

/-- An answer without a status is treated like one with an empty status. -/
theorem acceptsCollection_iff {body : String} :
    acceptsCollection body = true ↔
      Text.upper ((Markup.extract? body "STATUS").getD "") ∈ acceptedStatuses := by
  rw [acceptsCollection]
  cases Markup.extract? body "STATUS" with
  | none => decide
  | some status => exact List.contains_iff_mem

theorem exists_collectionResponse_iff {identifier : String} {prepared : PreparedCollection}
    {reply : Reply} :
    (∃ response, collectionResponse identifier prepared reply = .ok response) ↔
      IsTakenOn acceptsCollection reply.status reply.body := by
  simp only [collectionResponse, bind_eq_ok, ite_throw_eq_ok, pure_eq_ok, Reply.checked_eq_ok,
    Decidable.not_not]
  constructor
  · intro hfound
    rcases hfound with ⟨response, _, ⟨hsuccess, rfl⟩, hstatus, -⟩
    have hrange := Reply.isSuccess_iff.mp hsuccess
    exact ⟨hrange.1, hrange.2, acceptsCollection_iff.mpr hstatus⟩
  · intro htaken
    have hsuccess := Reply.isSuccess_iff.mpr ⟨htaken.least, htaken.most⟩
    exact ⟨_, reply, ⟨hsuccess, rfl⟩, acceptsCollection_iff.mp htaken.accepted, rfl⟩

theorem collect_sends (request : CollectionRequest) :
    (account.collect request).Sends
      (Initiates none (IsPostTo (some account.endpoint)) 0 (IsTakenOn acceptsCollection)
        IsPending) := by
  apply initiates_after (Call.isSilent_ofExcept _)
  intro prepared
  apply initiates_after Call.isSilent_drawIdentifier
  intro identifier
  apply initiates_checked (initiates_submit (Call.send_sends _ _) ⟨rfl, rfl⟩)
    (fun _ _ _ ↦ trivial)
  · intro status body reply _ hreply
    rcases hreply with ⟨rfl, rfl⟩
    exact exists_collectionResponse_iff
  · intro _ _ reply response _ h
    exact collectionResponse_pending h

end Account

end MobileMoney.Tigo
