import Mathlib.Data.List.Nodup
import MobileMoney.Mpesa.Callback
import MobileMoney.Proofs.Callback.Notice
import MobileMoney.Proofs.Json.Equality
import MobileMoney.Proofs.Json.Replacement

/-!
# Named values in notifications

Of the named values in a notification only the first entry of each name that is asked for is read.
So the order of entries with different names says nothing, and neither do entries with other names,
entries without a name, and entries that repeat a name.
-/

namespace MobileMoney.Mpesa

/-- The name of an entry: none if the entry is no object or its name is no text. -/
def entryName? (nameKey : String) (item : Json) : Option String :=
  (item.member? nameKey).bind Json.text?

theorem hasName_iff {nameKey name : String} {item : Json} :
    hasName nameKey name item = true ↔ entryName? nameKey item = some name :=
  beq_iff_eq

/-! ## Lists of entries -/

/-- The lists of named values: in the answer to a prompt, and in the result of a disbursement. -/
inductive ValueList where
  | promptAnswer
  | payoutResult

namespace ValueList

def path : ValueList → List String
  | promptAnswer => ["Body", "stkCallback", "CallbackMetadata", "Item"]
  | payoutResult => ["Result", "ResultParameters", "ResultParameter"]

def nameKey : ValueList → String
  | promptAnswer => "Name"
  | payoutResult => "Key"

/-- The names that are asked for. -/
def names : ValueList → List String
  | promptAnswer => ["Amount", "MpesaReceiptNumber", "PhoneNumber", "TransactionDate"]
  | payoutResult => ["TransactionAmount", "TransactionReceipt", "ReceiverPartyPublicName",
      "TransactionCompletedDateTime"]

/-- Entries that nobody can tell apart by what is read of them. -/
inductive Alike (list : ValueList) : List Json → List Json → Prop
  | refl (items : List Json) : list.Alike items items
  | reordered {items other : List Json} (perm : items.Perm other)
      (distinct : (items.filterMap (entryName? list.nameKey)).Nodup) : list.Alike items other
  /-- An entry with a name that is not asked for, or with no name at all. -/
  | inserted {before after : List Json} {item : Json}
      (unread : ∀ name ∈ list.names, entryName? list.nameKey item ≠ some name) :
      list.Alike (before ++ after) (before ++ item :: after)
  | repeated {before after : List Json} {item earlier : Json} (mem : earlier ∈ before)
      (same : entryName? list.nameKey item = entryName? list.nameKey earlier) :
      list.Alike (before ++ after) (before ++ item :: after)
  | symm {items other : List Json} (h : list.Alike items other) : list.Alike other items
  | trans {items between other : List Json} (h : list.Alike items between)
      (hother : list.Alike between other) : list.Alike items other

end ValueList

section

variable {nameKey name : String} {items other before after : List Json} {item earlier : Json}

/-- Where names are distinct, a name has one entry at most. -/
theorem length_filter_hasName_le (h : (items.filterMap (entryName? nameKey)).Nodup) :
    (items.filter (hasName nameKey name)).length ≤ 1 := by
  have hcount := List.nodup_iff_count_le_one.mp h name
  rw [List.count, List.countP_filterMap] at hcount
  rw [← List.countP_eq_length_filter]
  refine Nat.le_trans (List.countP_mono_left fun item _ hitem ↦ ?_) hcount
  rw [hasName_iff] at hitem
  simp [hitem]

theorem find?_hasName_of_perm (hperm : items.Perm other)
    (h : (items.filterMap (entryName? nameKey)).Nodup) :
    items.find? (hasName nameKey name) = other.find? (hasName nameKey name) := by
  have hfilter := hperm.filter (hasName nameKey name)
  have hlength : (items.filter (hasName nameKey name)).length ≤ 1 := length_filter_hasName_le h
  rw [← List.head?_filter, ← List.head?_filter]
  generalize items.filter (hasName nameKey name) = found at hfilter hlength
  match found with
  | [] => rw [hfilter.nil_eq]
  | [entry] => rw [hfilter.singleton_eq]

theorem find?_hasName_insert (h : entryName? nameKey item ≠ some name) :
    (before ++ item :: after).find? (hasName nameKey name) =
      (before ++ after).find? (hasName nameKey name) := by
  rw [List.find?_append, List.find?_append, List.find?_cons_of_neg (mt hasName_iff.mp h)]

theorem find?_hasName_repeat (hmem : earlier ∈ before)
    (hsame : entryName? nameKey item = entryName? nameKey earlier) :
    (before ++ item :: after).find? (hasName nameKey name) =
      (before ++ after).find? (hasName nameKey name) := by
  by_cases hname : entryName? nameKey earlier = some name
  · have hfound : (before.find? (hasName nameKey name)).isSome = true :=
      List.find?_isSome.mpr ⟨earlier, hmem, hasName_iff.mpr hname⟩
    obtain ⟨entry, hentry⟩ := Option.isSome_iff_exists.mp hfound
    rw [List.find?_append, List.find?_append, hentry, Option.some_or, Option.some_or]
  · exact find?_hasName_insert (hsame ▸ hname)

end

/-- The same entry is found for every name that is asked for. -/
theorem ValueList.Alike.find?_eq {list : ValueList} {items other : List Json}
    (h : list.Alike items other) {name : String} (hname : name ∈ list.names) :
    items.find? (hasName list.nameKey name) = other.find? (hasName list.nameKey name) := by
  induction h with
  | refl => rfl
  | reordered hperm hdistinct => exact find?_hasName_of_perm hperm hdistinct
  | inserted hunread => exact (find?_hasName_insert (hunread name hname)).symm
  | repeated hmem hsame => exact (find?_hasName_repeat hmem hsame).symm
  | symm _ ih => exact ih.symm
  | trans _ _ ih ihother => exact ih.trans ihother

/-! ## Readings -/

section

variable {list : ValueList} {items other : List Json} {name : String} {path : List String}
  {document : Json}

theorem itemsAt_of_at? (h : document.at? path = some (.array items)) :
    itemsAt document path = items := by
  rw [itemsAt, h]
  rfl

theorem namedValue?_congr (h : list.Alike items other) (hname : name ∈ list.names) :
    namedValue? other list.nameKey name = namedValue? items list.nameKey name := by
  rw [namedValue?, namedValue?, h.find?_eq hname]

/-- A part of a notification reads like another one, the list at the path and what stands beside it
alike. -/
structure ReadsLike (list : ValueList) (name : String) (path : List String)
    (changed part : Json) : Prop where
  scalar : ∀ other ≠ name, changed.scalarAt? [other] = part.scalarAt? [other]
  value : ∀ asked ∈ list.names,
    namedValue? (itemsAt changed (name :: path)) list.nameKey asked =
      namedValue? (itemsAt part (name :: path)) list.nameKey asked

theorem readsLike_replaceAt (h : list.Alike items other)
    (hitems : document.at? (name :: path) = some (.array items)) :
    ReadsLike list name path (Json.replaceAt (.array other) (name :: path) document)
      document where
  scalar _ hne := Json.scalarAt?_replaceAt_of_ne hne
  value _ hasked := by
    rw [itemsAt_of_at? (Json.at?_replaceAt hitems), itemsAt_of_at? hitems]
    exact namedValue?_congr h hasked

end

/-- The same event in another notification, which arrives at another time. -/
def withArrival (receivedAt : Instant) (payload : String) (event : CallbackEvent) :
    CallbackEvent :=
  { event with payload, receivedAt }

variable (receivedAt later : Instant) (text changedText : String)

theorem readPromptAnswer_congr {answer changed : Json}
    (h : ReadsLike .promptAnswer "CallbackMetadata" ["Item"] changed answer) :
    readPromptAnswer later changedText changed =
      (readPromptAnswer receivedAt text answer).map
        (Notice.mapEvent (withArrival later changedText)) := by
  have hid := h.scalar "CheckoutRequestID" (by decide)
  have hreference := h.scalar "MerchantRequestID" (by decide)
  have hcode := h.scalar "ResultCode" (by decide)
  have hdescription := h.scalar "ResultDesc" (by decide)
  have hamount := h.value "Amount" (by decide)
  have hreceipt := h.value "MpesaReceiptNumber" (by decide)
  have hphone := h.value "PhoneNumber" (by decide)
  have hdate := h.value "TransactionDate" (by decide)
  dsimp only [ValueList.nameKey] at hamount hreceipt hphone hdate
  simp only [readPromptAnswer, map_bind, map_pure, Notice.mapEvent, withArrival, hid, hreference,
    hcode, hdescription, hamount, hreceipt, hphone, hdate]

theorem readPayoutResult_congr {result changed : Json}
    (h : ReadsLike .payoutResult "ResultParameters" ["ResultParameter"] changed result) :
    readPayoutResult later changedText changed =
      (readPayoutResult receivedAt text result).map
        (Notice.mapEvent (withArrival later changedText)) := by
  have hid := h.scalar "ConversationID" (by decide)
  have hreference := h.scalar "OriginatorConversationID" (by decide)
  have hcode := h.scalar "ResultCode" (by decide)
  have hdescription := h.scalar "ResultDesc" (by decide)
  have htransaction := h.scalar "TransactionID" (by decide)
  have hamount := h.value "TransactionAmount" (by decide)
  have hreceipt := h.value "TransactionReceipt" (by decide)
  have hrecipient := h.value "ReceiverPartyPublicName" (by decide)
  have hdate := h.value "TransactionCompletedDateTime" (by decide)
  dsimp only [ValueList.nameKey] at hamount hreceipt hrecipient hdate
  simp only [readPayoutResult, map_bind, map_pure, Notice.mapEvent, withArrival, hid, hreference,
    hcode, hdescription, htransaction, hamount, hreceipt, hrecipient, hdate]

/-! ## Notifications -/

/-- What is read of a document: the answer to a prompt, or else the result of a disbursement. -/
def noticeOf (receivedAt : Instant) (text : String) (document : Json) :
    Except PaymentError Notice :=
  match document.at? ["Body", "stkCallback"], document.at? ["Result"] with
  | some answer, _ => readPromptAnswer receivedAt text answer
  | none, some result => readPayoutResult receivedAt text result
  | none, none => throw (.callback .mpesa "callback is neither an STK callback nor a B2C result")

section

variable {document : Json} {items other : List Json}

theorem readNotice_eq_noticeOf {payload : ByteArray}
    (h : Json.documentOfBytes? payload = some document) :
    readNotice receivedAt payload = noticeOf receivedAt (Text.lossy payload) document := by
  have hresult : document.at? ["Result"] = document.member? "Result" := by
    rw [Json.at?_cons]
    exact Option.bind_fun_some _
  rw [readNotice, Payload.readDocument, h, ok_bind, noticeOf, hresult]
  dsimp only
  cases document.at? ["Body", "stkCallback"] <;> cases document.member? "Result" <;> rfl

theorem noticeOf_promptAnswer (h : ValueList.promptAnswer.Alike items other)
    (hitems : document.at? ValueList.promptAnswer.path = some (.array items)) :
    noticeOf later changedText
        (Json.replaceAt (.array other) ValueList.promptAnswer.path document) =
      (noticeOf receivedAt text document).map
        (Notice.mapEvent (withArrival later changedText)) := by
  have hsplit := Json.at?_append ["Body", "stkCallback"] ["CallbackMetadata", "Item"] document
  obtain ⟨answer, hanswer, hinner⟩ := Option.bind_eq_some_iff.mp (hsplit.symm.trans hitems)
  have hchanged : (Json.replaceAt (.array other) ValueList.promptAnswer.path document).at?
      ["Body", "stkCallback"] = _ := Json.at?_replaceAt_append hanswer
  rw [noticeOf, noticeOf, hanswer, hchanged]
  exact readPromptAnswer_congr receivedAt later text changedText (readsLike_replaceAt h hinner)

theorem noticeOf_payoutResult (h : ValueList.payoutResult.Alike items other)
    (hitems : document.at? ValueList.payoutResult.path = some (.array items)) :
    noticeOf later changedText
        (Json.replaceAt (.array other) ValueList.payoutResult.path document) =
      (noticeOf receivedAt text document).map
        (Notice.mapEvent (withArrival later changedText)) := by
  have hsplit := Json.at?_append ["Result"] ["ResultParameters", "ResultParameter"] document
  obtain ⟨result, hresult, hinner⟩ := Option.bind_eq_some_iff.mp (hsplit.symm.trans hitems)
  have hchanged : (Json.replaceAt (.array other) ValueList.payoutResult.path document).at?
      ["Result"] = _ := Json.at?_replaceAt_append hresult
  have hbody : (Json.replaceAt (.array other) ValueList.payoutResult.path document).at?
      ["Body", "stkCallback"] = _ := Json.at?_replaceAt_of_ne (by decide)
  rw [noticeOf, noticeOf, hresult, hchanged, hbody]
  -- An answer to a prompt is read in preference to the result, and it has not changed.
  cases document.at? ["Body", "stkCallback"] with
  | some answer =>
    exact readPromptAnswer_congr receivedAt later text changedText
      ⟨fun _ _ ↦ rfl, fun _ _ ↦ rfl⟩
  | none =>
    exact readPayoutResult_congr receivedAt later text changedText (readsLike_replaceAt h hinner)

end

/-- **The order of named values says nothing.**  A notification whose list of named values is put
into another order, as long as the names are distinct, or gets entries that are not asked for or
that repeat a name, gives the same event as before but for its payload and the time of its arrival,
or the same complaint. -/
theorem parseCallback_ignores_order {list : ValueList} {items other : List Json}
    (h : list.Alike items other) {payload changed : ByteArray} {document : Json}
    (hdocument : Json.documentOfBytes? payload = some document)
    (hitems : document.at? list.path = some (.array items))
    (hchanged : Json.documentOfBytes? changed =
      some (Json.replaceAt (.array other) list.path document)) :
    parseCallback later changed =
      (parseCallback receivedAt payload).map (withArrival later (Text.lossy changed)) := by
  refine Notice.complete_of_mapEvent ?_ (fun _ ↦ rfl) fun _ _ ↦ rfl
  rw [readNotice_eq_noticeOf later hchanged, readNotice_eq_noticeOf receivedAt hdocument]
  cases list with
  | promptAnswer => exact noticeOf_promptAnswer receivedAt later _ _ h hitems
  | payoutResult => exact noticeOf_payoutResult receivedAt later _ _ h hitems

/-! ### Values that change places -/

def namedEntry (name : String) (value : Json) : Json :=
  .object [("Name", .text name), ("Value", value)]

def paidEntry : Json :=
  namedEntry "Amount" (.nat 1)

def phoneEntry : Json :=
  namedEntry "PhoneNumber" (.nat 254708374149)

/-- The answer to a prompt, with the entries of its list written out. -/
def promptPayload (entries : String) : ByteArray :=
  String.toUTF8 ("\x7b\"Body\":\x7b\"stkCallback\":\x7b\"CheckoutRequestID\":\"ws_CO_1\"," ++
    "\"CallbackMetadata\":\x7b\"Item\":[" ++ entries ++ "]\x7d\x7d\x7d\x7d")

def paidFirst : ByteArray :=
  promptPayload ("\x7b\"Name\":\"Amount\",\"Value\":1\x7d," ++
    "\x7b\"Name\":\"PhoneNumber\",\"Value\":254708374149\x7d")

/-- There is a number between the two entries. -/
def paidLast : ByteArray :=
  promptPayload ("\x7b\"Name\":\"PhoneNumber\",\"Value\":254708374149\x7d,5," ++
    "\x7b\"Name\":\"Amount\",\"Value\":1\x7d")

def paidFirstDocument : Json :=
  .object [("Body", .object [("stkCallback", .object [
    ("CheckoutRequestID", .text "ws_CO_1"),
    ("CallbackMetadata", .object [("Item", .array [paidEntry, phoneEntry])])])])]

theorem parseCallback_ignores_order_payment :
    ValueList.promptAnswer.Alike [paidEntry, phoneEntry] [phoneEntry, .nat 5, paidEntry] ∧
      Json.documentOfBytes? paidFirst = some paidFirstDocument ∧
      paidFirstDocument.at? ValueList.promptAnswer.path = some (.array [paidEntry, phoneEntry]) ∧
      Json.documentOfBytes? paidLast = some (Json.replaceAt
        (.array [phoneEntry, .nat 5, paidEntry]) ValueList.promptAnswer.path paidFirstDocument) ∧
      ∀ receivedAt later, parseCallback later paidLast =
        (parseCallback receivedAt paidFirst).map (withArrival later (Text.lossy paidLast)) := by
  have hdistinct : ([paidEntry, phoneEntry].filterMap (entryName? "Name")).Nodup := by
    decide +kernel
  have hinserted : ValueList.promptAnswer.Alike ([phoneEntry] ++ [paidEntry])
      ([phoneEntry] ++ .nat 5 :: [paidEntry]) := .inserted (by decide +kernel)
  have halike : ValueList.promptAnswer.Alike [paidEntry, phoneEntry]
      [phoneEntry, .nat 5, paidEntry] :=
    .trans (.reordered (.swap phoneEntry paidEntry []) hdistinct) hinserted
  have hdocument : Json.documentOfBytes? paidFirst = some paidFirstDocument := by decide +kernel
  have hitems : paidFirstDocument.at? ValueList.promptAnswer.path =
      some (.array [paidEntry, phoneEntry]) := by decide +kernel
  have hchanged : Json.documentOfBytes? paidLast = some (Json.replaceAt
      (.array [phoneEntry, .nat 5, paidEntry]) ValueList.promptAnswer.path paidFirstDocument) := by
    decide +kernel
  exact ⟨halike, hdocument, hitems, hchanged, fun receivedAt later ↦
    parseCallback_ignores_order receivedAt later halike hdocument hitems hchanged⟩

end MobileMoney.Mpesa
