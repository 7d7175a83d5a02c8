import MobileMoney.Proofs.Account.Requests
import MobileMoney.Proofs.Http.BaseUrl
import MobileMoney.Proofs.Http.Escapes

/-!
# The resource of a question

A question about a transaction is a GET request whose path ends in the identifier as it is written.
The server sees the identifier as the last segment of the path exactly if it is plain: one segment
without a query, a fragment, an escape or anything that is ignored.  Different plain identifiers are
different resources.
-/

namespace MobileMoney.Airtel

open Http

/-- An identifier that stands for itself as the last segment of a path. -/
structure IsPlain (id : List Char) : Prop where
  segment : ∀ c ∈ id, isSlash c = false
  path : ∀ c ∈ id, c ≠ '?' ∧ c ≠ '#'
  kept : ∀ c ∈ id, isTabOrLineEnd c = false
  last : ∀ c ∈ id.getLast?, isControlOrSpace c = false
  dots : id ≠ ['.'] ∧ id ≠ ['.', '.']
  escapes : hasEscape id = false

theorem isPlain_iff {id : List Char} :
    IsPlain id ↔
      (id.all fun c ↦ !isSlash c && (c != '?' && c != '#') && !isTabOrLineEnd c) = true ∧
        id.getLast?.any isControlOrSpace = false ∧ (id ≠ ['.'] ∧ id ≠ ['.', '.']) ∧
        hasEscape id = false := by
  simp only [List.all_eq_true, Bool.and_eq_true, Bool.not_eq_true', bne_iff_ne,
    Option.any_eq_false]
  constructor
  · intro h
    exact ⟨fun c hc ↦ ⟨⟨h.segment c hc, h.path c hc⟩, h.kept c hc⟩, h.last, h.dots, h.escapes⟩
  · rintro ⟨hchars, hlast, hdots, hescapes⟩
    exact ⟨fun c hc ↦ (hchars c hc).1.1, fun c hc ↦ (hchars c hc).1.2, fun c hc ↦ (hchars c hc).2,
      hlast, hdots, hescapes⟩

instance (id : List Char) : Decidable (IsPlain id) :=
  decidable_of_iff _ isPlain_iff.symm

def transactionSegments : List (List Char) :=
  ["standard".toList, "v1".toList, "payments".toList]

/-- The target of one transaction: below the path of the base URL, whose own target is the root, a
last segment that is read as the identifier, and no query. -/
structure IsResource (root : Target) (id : String) (target : Target) : Prop where
  segments : ∃ segment, target.segments = root.segments.dropLast ++ transactionSegments ++ [segment] ∧
    percentDecode segment = id.toUTF8.data.toList
  query : target.query = none

/-- A resource is that of one identifier. -/
theorem IsResource.id_eq {root target : Target} {id other : String}
    (h : IsResource root id target) (hother : IsResource root other target) : id = other := by
  obtain ⟨segment, hsegments, hid⟩ := h.segments
  obtain ⟨segment', hsegments', hother⟩ := hother.segments
  have hlast : [segment] = [segment'] := List.append_cancel_left (hsegments.symm.trans hsegments')
  have hbytes : id.toUTF8.data.toList = other.toUTF8.data.toList := by
    rw [← hid, ← hother, List.head_eq_of_cons_eq hlast]
  have htext := congrArg (fun bytes ↦ String.ofList (Text.lossyChars bytes)) hbytes
  exact (Text.lossy_toUTF8 id).symm.trans (htext.trans (Text.lossy_toUTF8 other))

namespace Account

variable (account : Account) {root : Target}

/-- What a server sees of a question about a transaction. -/
def questionTarget? (id : String) : Option Target :=
  Target.ofUrl? (account.config.baseUrl ++ "/standard/v1/payments/" ++ id)

/-- The target of the identifier, resolved on top of the path of all transactions. -/
theorem exists_questionTarget? (hroot : Target.ofUrl? (account.config.baseUrl ++ "/") = some root)
    (hplain : ∀ c ∈ account.config.baseUrl.toList, c ≠ '?' ∧ c ≠ '#') :
    ∃ kept, kept.reverse.map (·.flatMap encodePathChar) =
        root.segments.dropLast ++ transactionSegments ∧
      ∀ id, account.questionTarget? id = some (.below kept (cleanedEnd id.toList)) := by
  obtain ⟨kept, hsegments, hbelow⟩ := Target.exists_below hroot hplain
  have hsplit : splitSegments "standard/v1/payments".toList = transactionSegments := by decide
  have hfold : transactionSegments.foldl resolveDot kept = transactionSegments.reverse ++ kept :=
    foldl_resolveDot (by decide) kept
  have hencoded : transactionSegments.map (·.flatMap encodePathChar) = transactionSegments := by
    decide
  refine ⟨transactionSegments.reverse ++ kept, ?_, fun id ↦ ?_⟩
  · rw [List.reverse_append, List.reverse_reverse, List.map_append, hencoded, hsegments,
      List.dropLast_concat]
  · have hpath : account.config.baseUrl ++ "/standard/v1/payments/" ++ id =
        account.config.baseUrl ++ "/" ++ ("standard/v1/payments" ++ "/" ++ id) := by
      have hfixed : "/standard/v1/payments/" = "/" ++ ("standard/v1/payments" ++ "/") := by decide
      simp only [hfixed, String.append_assoc]
    have hend : cleanedEnd ("standard/v1/payments" ++ "/" ++ id).toList =
        "standard/v1/payments".toList ++ '/' :: cleanedEnd id.toList := by
      have hchars : ("standard/v1/payments" ++ "/" ++ id).toList =
          "standard/v1/payments".toList ++ '/' :: id.toList := by simp
      rw [hchars, cleanedEnd_append_slash]
      exact congrArg (· ++ _) (by decide)
    rw [questionTarget?, hpath, hbelow, hend, Target.below_append (plain_of_all rfl), hsplit, hfold]

variable {kept : List (List Char)} {id : String}

theorem isResource_of_isPlain (h : IsPlain id.toList)
    (hkept : kept.reverse.map (·.flatMap encodePathChar) =
      root.segments.dropLast ++ transactionSegments) :
    IsResource root id (.below kept (cleanedEnd id.toList)) := by
  have hend : cleanedEnd id.toList = id.toList := cleanedEnd_eq_self_iff.mpr ⟨h.kept, h.last⟩
  have hpath : pathPart id.toList = id.toList := pathPart_eq_self_iff.mpr h.path
  have hquery : queryPart id.toList = none := by
    rw [← List.append_nil id.toList, queryPart_append h.path]
    rfl
  have hdots : isDoubleDot id.toList = false ∧ isSingleDot id.toList = false := by
    rw [isDoubleDot, isSingleDot, plainDots_of_not_hasEscape h.escapes]
    exact ⟨beq_eq_false_iff_ne.mpr h.dots.2, beq_eq_false_iff_ne.mpr h.dots.1⟩
  have hresolved : resolveDots kept (splitSegments id.toList) = kept.reverse ++ [id.toList] := by
    rw [splitSegments_of_no_slash h.segment]
    simp [resolveDots, hdots]
  rw [hend, Target.below, hpath, hquery, hresolved, List.map_append, hkept]
  refine ⟨⟨id.toList.flatMap encodePathChar, rfl, ?_⟩, rfl⟩
  rw [percentDecode_flatMap_encode, percentDecode_of_not_hasEscape h.escapes, Text.data_toUTF8]

theorem isPlain_nil : IsPlain [] where
  segment := List.forall_mem_nil _
  path := List.forall_mem_nil _
  kept := List.forall_mem_nil _
  last := fun _ h ↦ nomatch h
  dots := ⟨nofun, nofun⟩
  escapes := rfl

/-- What is read in the last segment has no more bytes than the identifier, and less if anything is
cut off from it, resolved in it or read as an escape. -/
theorem isPlain_of_isResource (h : IsResource root id (.below kept (cleanedEnd id.toList))) :
    IsPlain id.toList := by
  obtain ⟨segment, hsegments, hread⟩ := h.segments
  obtain ⟨last, hlast, hresolved⟩ :=
    getLast?_resolveDots (splitSegments_ne_nil (pathPart (cleanedEnd id.toList))) kept
  have hsegment : segment =
      (if isDoubleDot last || isSingleDot last then [] else last).flatMap encodePathChar := by
    have hsame := congrArg List.getLast? hsegments
    rw [Target.below, List.getLast?_concat, List.getLast?_map, hresolved] at hsame
    exact (Option.some.inj hsame).symm
  rw [hsegment, percentDecode_flatMap_encode, Text.data_toUTF8] at hread
  split at hread
  · have hnil : id.toList = [] := by
      rw [percentDecode, eq_comm, List.flatMap_eq_nil_iff] at hread
      exact List.eq_nil_iff_forall_not_mem.mpr fun c hc ↦ String.utf8EncodeChar_ne_nil (hread c hc)
    rw [hnil]
    exact isPlain_nil
  · next hdots =>
    obtain ⟨hsub, hslash⟩ := of_mem_splitSegments hlast
    have hpart := (pathPart_sublist _).trans (cleanedEnd_sublist id.toList)
    obtain ⟨rfl, hescape⟩ := eq_of_percentDecode_eq (hsub.trans hpart) hread
    have hend : cleanedEnd id.toList = id.toList :=
      (cleanedEnd_sublist _).eq_of_length_le (hsub.trans (pathPart_sublist _)).length_le
    rw [hend] at hsub
    have hpath : pathPart id.toList = id.toList :=
      (pathPart_sublist _).eq_of_length_le hsub.length_le
    obtain ⟨hkept, hvisible⟩ := cleanedEnd_eq_self_iff.mp hend
    refine ⟨hslash, pathPart_eq_self_iff.mp hpath, hkept, hvisible, ⟨?_, ?_⟩, hescape⟩
    · intro hsingle
      rw [hsingle] at hdots
      exact hdots rfl
    · intro hdouble
      rw [hdouble] at hdots
      exact hdots rfl

variable {account}

/-- **What a question asks about.**  Every question about a transaction goes, after the exchange of
a token, to one target; that target is the resource of the identifier exactly if the identifier is
plain, and different plain identifiers have different targets. -/
theorem questions_address_transactions
    (hroot : Target.ofUrl? (account.config.baseUrl ++ "/") = some root)
    (hplain : ∀ c ∈ account.config.baseUrl.toList, c ≠ '?' ∧ c ≠ '#') :
    (∀ id, (account.query id).SendsOnly fun sent ↦ sent = account.exchangeRequest ∨
      sent.method = .get ∧ Target.ofUrl? sent.url = account.questionTarget? id) ∧
    (∀ id, ∃ target, account.questionTarget? id = some target ∧
      (IsResource root id target ↔ IsPlain id.toList)) ∧
    ∀ id other, IsPlain id.toList → IsPlain other.toList →
      account.questionTarget? id = account.questionTarget? other → id = other := by
  obtain ⟨kept, hkept, htarget⟩ := account.exists_questionTarget? hroot hplain
  refine ⟨fun id ↦ ?_, fun id ↦ ⟨_, htarget id, ?_⟩, fun id other hid hother hsame ↦ ?_⟩
  · apply (account.query_sendsOnly id).mono
    intro sent hsent
    refine hsent.imp_right fun hget ↦ ?_
    obtain ⟨token, rfl⟩ := hget
    exact ⟨rfl, by rw [getRequest, questionTarget?, String.append_assoc]⟩
  · exact ⟨isPlain_of_isResource, fun h ↦ isResource_of_isPlain h hkept⟩
  · have hresource := isResource_of_isPlain hid hkept
    rw [htarget, htarget] at hsame
    rw [Option.some.inj hsame] at hresource
    exact hresource.id_eq (isResource_of_isPlain hother hkept)

/-! ### An identifier with a number sign -/

def sandboxAccount : Account where
  config := ⟨"client", "secret", "KE", none, none, .sandbox, none⟩
  market := ⟨"KE", "KES", "254"⟩
  policy := .single

/-- The sandbox has nothing in its path. -/
theorem ofUrl?_sandbox :
    Target.ofUrl? (sandboxAccount.config.baseUrl ++ "/") = some ⟨[[]], none⟩ := by
  rfl

theorem sandbox_plain : ∀ c ∈ sandboxAccount.config.baseUrl.toList, c ≠ '?' ∧ c ≠ '#' :=
  plain_of_all (by decide +kernel)

/-- A blank inside an identifier is read as a blank. -/
theorem questions_address_transactions_invoice :
    ∃ target, sandboxAccount.questionTarget? "INV 2024-000123" = some target ∧
      IsResource ⟨[[]], none⟩ "INV 2024-000123" target := by
  have hid : IsPlain "INV 2024-000123".toList := by decide
  obtain ⟨target, htarget, hresource⟩ :=
    (questions_address_transactions ofUrl?_sandbox sandbox_plain).2.1 "INV 2024-000123"
  exact ⟨target, htarget, hresource.mpr hid⟩

/-- What follows a number sign is not sent. -/
theorem not_forall_isResource :
    ¬ ∀ (account : Account) (root : Target),
      Target.ofUrl? (account.config.baseUrl ++ "/") = some root →
        (∀ c ∈ account.config.baseUrl.toList, c ≠ '?' ∧ c ≠ '#') →
          ∀ id, Text.isBlankText id = false →
            ∃ target, account.questionTarget? id = some target ∧ IsResource root id target := by
  intro hall
  have hresource := hall sandboxAccount _ ofUrl?_sandbox sandbox_plain
  obtain ⟨target, htarget, hfirst⟩ := hresource "RENT" (by decide)
  obtain ⟨other, hother, hsecond⟩ := hresource "RENT#2" (by decide)
  obtain ⟨kept, -, hbelow⟩ := sandboxAccount.exists_questionTarget? ofUrl?_sandbox sandbox_plain
  have hpath : pathPart (cleanedEnd "RENT#2".toList) = pathPart (cleanedEnd "RENT".toList) := by
    decide
  have hquery : queryPart (cleanedEnd "RENT#2".toList) = queryPart (cleanedEnd "RENT".toList) := by
    decide
  have hsame : other = target := by
    rw [hbelow, Target.below, hpath, hquery, ← Target.below, ← hbelow, htarget] at hother
    exact (Option.some.inj hother).symm
  rw [hsame] at hsecond
  exact absurd (hfirst.id_eq hsecond) (by decide)

end Account

end MobileMoney.Airtel
