import MobileMoney.Proofs.Callback.Identifier
import MobileMoney.Proofs.Session.Answer
import MobileMoney.Tigo.Account

/-!
# Tigo Pesa responses

The response to a collection has the identifier of the answer, or the generated one; the reference
stands in the request between the tags of its field.
-/

namespace MobileMoney.Tigo

/-- The text of the identifier in an answer, unless it is blank. -/
def replyId? (body : String) : Option String :=
  (innerText? "TXNID" body).filter (!Text.isBlankText ·)

/-- The reference that a request sends, as it stands between the tags. -/
def sentReference? (asked : Request) : Option String :=
  match asked.body with
  | .text content => innerText? "CUSTOMERREFERENCEID" content
  | _ => none

namespace Account

variable {account : Account}

theorem collectionDocument_isFlat (identifier : String) (prepared : PreparedCollection) :
    (account.collectionDocument identifier prepared).IsFlat where
  root := (by decide : Markup.IsTagName "COMMAND")
  fields := by
    have hnames : ∀ name ∈ ["TXNID", "MSISDN", "AMOUNT", "COMPANYNAME", "BILLERCODE",
        "CUSTOMERREFERENCEID"], Markup.IsTagName name ∧ name ≠ "COMMAND" := by decide
    intro field hfield
    exact hnames field.1 (List.mem_map_of_mem hfield)

/-- The value of a field stands escaped between its tags. -/
theorem innerText?_render {identifier : String} {prepared : PreparedCollection}
    {tag value : String} (htag : (account.collectionDocument identifier prepared).IsFieldTag tag)
    (hlookup : (account.collectionDocument identifier prepared).fields.lookup tag = some value) :
    innerText? tag (account.collectionDocument identifier prepared).render =
      some (Markup.escape value) := by
  have hinner := (collectionDocument_isFlat identifier prepared).innerText?_render htag
  rw [hlookup, Option.map_some] at hinner
  rw [innerText?, Markup.Document.render, String.toList_ofList, hinner, Option.map_some,
    Markup.escape]

theorem sentReference?_collectionRequest (identifier : String) (prepared : PreparedCollection) :
    sentReference? (account.collectionRequest
        (account.collectionDocument identifier prepared).render) =
      some (Markup.escape prepared.reference) :=
  innerText?_render
    (by decide : Markup.IsTagName "CUSTOMERREFERENCEID" ∧ "CUSTOMERREFERENCEID" ≠ "COMMAND") rfl

theorem collectionResponse_ids {identifier : String} {prepared : PreparedCollection}
    {reply : Reply} {response : PaymentResponse}
    (h : collectionResponse identifier prepared reply = .ok response) :
    response.providerReference =
        ((replyId? reply.body).map fun text ↦ Markup.unescape (Text.trim text)).getD identifier ∧
      response.reference = prepared.reference := by
  simp only [collectionResponse, bind_eq_ok, ite_throw_eq_ok, pure_eq_ok, Reply.checked_eq_ok] at h
  obtain ⟨_, ⟨-, rfl⟩, -, rfl⟩ := h
  have hread : Markup.extract? reply.body "TXNID" =
      (replyId? reply.body).map fun text ↦ Markup.unescape (Text.trim text) := by
    have hcontent := Text.bind_content? (innerText? "TXNID" reply.body)
    rw [extract?_eq, replyId?, ← Function.comp_def Markup.unescape, ← Option.map_map, ← hcontent]
    cases innerText? "TXNID" reply.body <;> rfl
  exact ⟨by rw [← hread], rfl⟩

theorem collect_answeredWith (request : CollectionRequest) :
    (account.collect request).Sends (AnsweredWith fun asked body response ↦
      ∃ prepared identifier, rules.prepareCollection request = .ok prepared ∧
        sentReference? asked = some (Markup.escape prepared.reference) ∧
        response.providerReference =
          ((replyId? body).map fun text ↦ Markup.unescape (Text.trim text)).getD identifier ∧
        response.reference = prepared.reference) := by
  apply answeredWith_ofExcept
  intro prepared hprepared
  apply answeredWith_after Call.isSilent_drawIdentifier
  intro identifier
  apply answeredWith_checked (answeredWith_submit (Call.send_sends .tigoPesa _))
  intro asked body reply response hfits h
  rw [hfits.1, ← hfits.2]
  exact ⟨prepared, identifier, hprepared, sentReference?_collectionRequest identifier prepared,
    collectionResponse_ids h⟩

end Account

end MobileMoney.Tigo
