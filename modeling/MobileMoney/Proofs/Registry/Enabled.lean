import Mathlib.Data.List.Basic
import MobileMoney.Proofs.Text.Trimming
import MobileMoney.Registry

/-!
# Lists of enabled providers

The list that a text describes is a set in the order of first mention.  A text is read part by part,
and every part that is not blank has to name a provider; what is read of two texts with a comma
between them is what is read of the first, followed by what the second adds.
-/

namespace MobileMoney

/-! ## Names of providers -/

/-- A part names a provider if it is an alias of it, in any case and with blanks around it. -/
def Provider.IsNamedBy (provider : Provider) (part : String) : Prop :=
  Text.lower (Text.trim part) ∈ provider.aliases

instance (provider : Provider) (part : String) : Decidable (provider.IsNamedBy part) :=
  inferInstanceAs (Decidable (_ ∈ _))

namespace Provider

/-- No text is an alias of two providers. -/
theorem IsNamedBy.unique {provider other : Provider} {part : String} (h : provider.IsNamedBy part)
    (hother : other.IsNamedBy part) : provider = other := by
  have hdisjoint : ∀ name ∈ provider.aliases, name ∈ other.aliases → provider = other := by
    cases provider <;> cases other <;> simp [aliases]
  exact hdisjoint _ h hother

theorem ofAlias?_eq_some_iff {provider : Provider} {part : String} :
    ofAlias? part = some provider ↔ provider.IsNamedBy part := by
  have hnamed {found : Provider} (h : ofAlias? part = some found) : found.IsNamedBy part := by
    have hfound := List.find?_some h
    rwa [decide_eq_true_eq] at hfound
  refine ⟨hnamed, fun h ↦ ?_⟩
  cases hfound : ofAlias? part with
  | none =>
    have hnone := List.find?_eq_none.mp hfound provider (by cases provider <;> decide)
    rw [decide_eq_true_eq] at hnone
    exact absurd h hnone
  | some other => rw [h.unique (hnamed hfound)]

theorem not_isNamedBy_of_blank {provider : Provider} {part : String}
    (h : Text.isBlankText part = true) : ¬ provider.IsNamedBy part := by
  rw [IsNamedBy, Text.trim_eq_empty_iff.mpr h]
  cases provider <;> decide

/-- The code of a provider between blanks. -/
def IsSpacedCode (provider : Provider) (part : String) : Prop :=
  ∃ before after, (∀ c ∈ before, Text.isBlank c = true) ∧ (∀ c ∈ after, Text.isBlank c = true) ∧
    part = String.ofList (before ++ (provider.code.toList ++ after))

theorem isSpacedCode_code (provider : Provider) : provider.IsSpacedCode provider.code := by
  refine ⟨[], [], List.forall_mem_nil _, List.forall_mem_nil _, ?_⟩
  rw [List.nil_append, List.append_nil, String.ofList_toList]

theorem IsSpacedCode.isNamedBy {provider : Provider} {part : String}
    (h : provider.IsSpacedCode part) : provider.IsNamedBy part := by
  obtain ⟨before, after, hbefore, hafter, rfl⟩ := h
  have hfull : provider.code.toList.all (!Text.isBlank ·) = true := by cases provider <;> decide
  have hcore : ∀ c ∈ provider.code.toList, Text.isBlank c = false := fun c hc ↦ by
    simpa using List.all_eq_true.mp hfull c hc
  have hne : provider.code.toList ≠ [] := by cases provider <;> decide
  rw [IsNamedBy, Text.trim_surrounded hbefore hcore hne hafter, String.ofList_toList]
  cases provider <;> decide

theorem IsSpacedCode.not_mem {provider : Provider} {part : String}
    (h : provider.IsSpacedCode part) : ',' ∉ part.toList := by
  obtain ⟨before, after, hbefore, hafter, rfl⟩ := h
  have hblank : ¬ Text.isBlank ',' = true := by decide
  have hcore : ',' ∉ provider.code.toList := by cases provider <;> decide
  rw [String.toList_ofList, List.mem_append, List.mem_append]
  rintro (hcomma | hcomma | hcomma)
  · exact hblank (hbefore _ hcomma)
  · exact hcore hcomma
  · exact hblank (hafter _ hcomma)

end Provider

namespace EnabledProviders

/-! ## Parts -/

theorem parts_eq_splitOn (cs : List Char) : parts cs = cs.splitOn ',' := by
  induction cs with
  | nil => rfl
  | cons c cs ih =>
    obtain ⟨part, rest, hparts⟩ := List.exists_cons_of_ne_nil (List.splitOn_ne_nil ',' cs)
    rw [parts] at ih
    rw [parts, List.foldr_cons, ih, List.splitOn_cons_eq_if_modifyHead, hparts]
    simp

/-- The parts of a text between commas. -/
def partsOf (text : String) : List String :=
  (text.toList.splitOn ',').map String.ofList

theorem partsOf_append (front back : String) :
    partsOf (front ++ "," ++ back) = partsOf front ++ partsOf back := by
  have hlist : (front ++ "," ++ back).toList = front.toList ++ ',' :: back.toList := by simp
  rw [partsOf, hlist, List.splitOn, List.splitOnP_append_cons _ _ rfl, List.map_append]
  rfl

/-- Parts without commas are found again. -/
theorem partsOf_intercalate {items : List String} (h : ∀ item ∈ items, ',' ∉ item.toList)
    (hne : items ≠ []) : partsOf (",".intercalate items) = items := by
  have hlists : ∀ cs ∈ items.map String.toList, ',' ∉ cs := by
    rintro _ hcs
    obtain ⟨item, hitem, rfl⟩ := List.mem_map.mp hcs
    exact h item hitem
  have htext : (",".intercalate items).toList = [','].intercalate (items.map String.toList) := by
    simp [String.toList_intercalate]
  rw [partsOf, htext, List.splitOn_intercalate ',' hlists (by simpa using hne), List.map_map]
  simp

/-! ## Reading one part -/

variable {enabled found : EnabledProviders} {provider : Provider} {part text : String}

/-- A part that is blank or names a provider. -/
def IsAccepted (part : String) : Prop :=
  Text.isBlankText part = true ∨ ∃ provider : Provider, provider.IsNamedBy part

theorem insertNamed_of_blank (h : Text.isBlankText part = true) :
    enabled.insertNamed part = .ok enabled := by
  rw [insertNamed, if_pos h]

theorem insertNamed_of_isNamedBy (h : provider.IsNamedBy part) :
    enabled.insertNamed part = .ok (enabled.insert provider) := by
  have hfull : ¬ Text.isBlankText part = true := fun hblank ↦
    Provider.not_isNamedBy_of_blank hblank h
  rw [insertNamed, if_neg hfull, Provider.ofAlias?_eq_some_iff.mpr h]

theorem insertNamed_of_not_isAccepted (h : ¬ IsAccepted part) :
    enabled.insertNamed part = .error (.invalid
      s!"ENABLED_PAYMENT_PROVIDERS: {Provider.unsupportedMessage (Text.trim part)}") := by
  rw [IsAccepted, not_or, not_exists] at h
  obtain ⟨hfull, hunnamed⟩ := h
  have hnone : Provider.ofAlias? part = none := by
    refine Option.eq_none_iff_forall_ne_some.mpr fun provider hsome ↦ ?_
    exact hunnamed provider (Provider.ofAlias?_eq_some_iff.mp hsome)
  rw [insertNamed, if_neg hfull, hnone]

/-- What a part does, if it does not stop the reading. -/
theorem insertNamed_eq_ok (h : enabled.insertNamed part = .ok found) :
    (Text.isBlankText part = true ∧ found = enabled) ∨
      ∃ provider : Provider, provider.IsNamedBy part ∧ found = enabled.insert provider := by
  by_cases haccepted : IsAccepted part
  · obtain hblank | ⟨provider, hnamed⟩ := haccepted
    · rw [insertNamed_of_blank hblank] at h
      exact .inl ⟨hblank, (Except.ok.inj h).symm⟩
    · rw [insertNamed_of_isNamedBy hnamed] at h
      exact .inr ⟨provider, hnamed, (Except.ok.inj h).symm⟩
  · rw [insertNamed_of_not_isAccepted haccepted] at h
    cases h

theorem insert_of_mem (h : provider ∈ enabled.providers) : enabled.insert provider = enabled := by
  rw [insert, dif_pos h]

theorem providers_insert (h : provider ∉ enabled.providers) :
    (enabled.insert provider).providers = enabled.providers ++ [provider] := by
  rw [insert, dif_neg h]

/-! ## Order of first mention -/

/-- Some of the parts names the provider. -/
def Mentions (parts : List String) (provider : Provider) : Prop :=
  ∃ part ∈ parts, provider.IsNamedBy part

/-- The position of the first part that names a provider. -/
def firstMention (parts : List String) (provider : Provider) : Nat :=
  parts.findIdx fun part ↦ decide (provider.IsNamedBy part)

section Mentions

variable {parts : List String}

theorem mentions_append_singleton :
    Mentions (parts ++ [part]) provider ↔ Mentions parts provider ∨ provider.IsNamedBy part := by
  simp [Mentions, or_and_right, exists_or]

theorem firstMention_lt_iff :
    firstMention parts provider < parts.length ↔ Mentions parts provider := by
  simp [firstMention, Mentions]

theorem firstMention_append_of_mentions (h : Mentions parts provider) :
    firstMention (parts ++ [part]) provider = firstMention parts provider := by
  rw [firstMention, List.findIdx_append]
  exact if_pos (firstMention_lt_iff.mpr h)

theorem firstMention_append_of_isNamedBy (h : ¬ Mentions parts provider)
    (hpart : provider.IsNamedBy part) :
    firstMention (parts ++ [part]) provider = parts.length := by
  rw [firstMention, List.findIdx_append]
  refine (if_neg (mt firstMention_lt_iff.mp h)).trans ?_
  simp [List.findIdx_cons, hpart]

end Mentions

/-- The providers that some parts name, each once and in the order of first mention. -/
structure ListsMentioned (found : EnabledProviders) (parts : List String) : Prop where
  nodup : found.providers.Nodup
  mem_iff : ∀ provider, provider ∈ found.providers ↔ Mentions parts provider
  order : ∀ first ∈ found.providers, ∀ second ∈ found.providers,
    (found.providers.idxOf first < found.providers.idxOf second ↔
      firstMention parts first < firstMention parts second)

namespace ListsMentioned

variable {parts : List String}

theorem empty : ListsMentioned empty [] where
  nodup := .nil
  mem_iff provider := by simp [Mentions, EnabledProviders.empty]
  order _ h := absurd h List.not_mem_nil

/-- A part that names nobody new changes nothing. -/
theorem append_old (h : ListsMentioned found parts)
    (hold : ∀ provider : Provider, provider.IsNamedBy part → provider ∈ found.providers) :
    ListsMentioned found (parts ++ [part]) where
  nodup := found.nodup
  mem_iff provider := by
    rw [mentions_append_singleton, ← h.mem_iff]
    exact (or_iff_left_of_imp (hold provider)).symm
  order first hfirst second hsecond := by
    rw [firstMention_append_of_mentions ((h.mem_iff first).mp hfirst),
      firstMention_append_of_mentions ((h.mem_iff second).mp hsecond)]
    exact h.order first hfirst second hsecond

/-- A part that is added moves no provider that is listed already. -/
theorem position_old (h : ListsMentioned found parts) (hold : provider ∈ found.providers)
    (other : Provider) (part : String) :
    (found.providers ++ [other]).idxOf provider = found.providers.idxOf provider ∧
      found.providers.idxOf provider < found.providers.length ∧
      firstMention (parts ++ [part]) provider = firstMention parts provider ∧
      firstMention parts provider < parts.length := by
  have hmentions := (h.mem_iff provider).mp hold
  exact ⟨List.idxOf_append_of_mem hold, List.idxOf_lt_length_iff.mpr hold,
    firstMention_append_of_mentions hmentions, firstMention_lt_iff.mpr hmentions⟩

theorem position_new (h : ListsMentioned found parts) (hnew : provider ∉ found.providers)
    (hpart : provider.IsNamedBy part) :
    (found.providers ++ [provider]).idxOf provider = found.providers.length ∧
      firstMention (parts ++ [part]) provider = parts.length := by
  have hunnamed := mt (h.mem_iff provider).mpr hnew
  refine ⟨?_, firstMention_append_of_isNamedBy hunnamed hpart⟩
  rw [List.idxOf_append_of_notMem hnew, List.idxOf_cons_self, Nat.add_zero]

/-- A provider that is named for the first time comes last. -/
theorem append_new (h : ListsMentioned found parts) (hnew : provider ∉ found.providers)
    (hpart : provider.IsNamedBy part) :
    ListsMentioned (found.insert provider) (parts ++ [part]) where
  nodup := (found.insert provider).nodup
  mem_iff other := by
    rw [mentions_append_singleton, ← h.mem_iff, providers_insert hnew, List.mem_append,
      List.mem_singleton]
    refine or_congr_right ⟨?_, fun hother ↦ hother.unique hpart⟩
    rintro rfl
    exact hpart
  order first hfirst second hsecond := by
    have hlast := h.position_new hnew hpart
    rw [providers_insert hnew] at hfirst hsecond ⊢
    rw [List.mem_append, List.mem_singleton] at hfirst hsecond
    obtain hfirst | rfl := hfirst
    · have hbefore := h.position_old hfirst provider part
      obtain hsecond | rfl := hsecond
      · have hbefore' := h.position_old hsecond provider part
        rw [hbefore.1, hbefore'.1, hbefore.2.2.1, hbefore'.2.2.1]
        exact h.order first hfirst second hsecond
      · omega
    · obtain hsecond | rfl := hsecond
      · have hbefore := h.position_old hsecond first part
        omega
      · omega

/-- What is listed after one more part. -/
theorem insertNamed (h : ListsMentioned enabled parts)
    (hread : enabled.insertNamed part = .ok found) : ListsMentioned found (parts ++ [part]) := by
  obtain ⟨hblank, rfl⟩ | ⟨provider, hnamed, rfl⟩ := insertNamed_eq_ok hread
  · exact h.append_old fun provider hnamed ↦
      absurd hnamed (Provider.not_isNamedBy_of_blank hblank)
  · by_cases hmem : provider ∈ enabled.providers
    · rw [insert_of_mem hmem]
      refine h.append_old fun other hother ↦ ?_
      rwa [hother.unique hnamed]
    · exact h.append_new hmem hnamed

end ListsMentioned

/-! ## Reading all parts -/

/-- Reads some parts in addition to the providers that are known. -/
def insertAll (enabled : EnabledProviders) (parts : List String) :
    Except SettingError EnabledProviders :=
  parts.foldlM insertNamed enabled

theorem parse_eq (text : String) : parse text = empty.insertAll (partsOf text) := by
  rw [parse, parts_eq_splitOn, insertAll, partsOf, List.foldlM_map]

theorem insertAll_cons (parts : List String) :
    enabled.insertAll (part :: parts) =
      (enabled.insertNamed part).bind fun found ↦ found.insertAll parts := by
  rw [insertAll, List.foldlM_cons]
  rfl

theorem insertAll_append (parts more : List String) :
    enabled.insertAll (parts ++ more) =
      (enabled.insertAll parts).bind fun found ↦ found.insertAll more := by
  rw [insertAll, List.foldlM_append]
  rfl

theorem exists_insertNamed (enabled : EnabledProviders) (h : IsAccepted part) :
    ∃ found, enabled.insertNamed part = .ok found := by
  obtain hblank | ⟨provider, hnamed⟩ := h
  · exact ⟨_, insertNamed_of_blank hblank⟩
  · exact ⟨_, insertNamed_of_isNamedBy hnamed⟩

/-- Reading succeeds when it accepts every part. -/
theorem exists_insertAll_iff {parts : List String} :
    (∃ found, enabled.insertAll parts = .ok found) ↔ ∀ part ∈ parts, IsAccepted part := by
  induction parts generalizing enabled with
  | nil => exact iff_of_true ⟨enabled, rfl⟩ (List.forall_mem_nil _)
  | cons part parts ih =>
    rw [insertAll_cons, List.forall_mem_cons]
    by_cases haccepted : IsAccepted part
    · obtain ⟨next, hnext⟩ := exists_insertNamed enabled haccepted
      rw [hnext]
      exact ih.trans (and_iff_right haccepted).symm
    · rw [insertNamed_of_not_isAccepted haccepted]
      simp [Except.bind, haccepted]

theorem listsMentioned_insertAll {seen parts : List String} (h : ListsMentioned enabled seen)
    (hread : enabled.insertAll parts = .ok found) : ListsMentioned found (seen ++ parts) := by
  induction parts generalizing enabled seen with
  | nil =>
    obtain rfl := Except.ok.inj hread
    rwa [List.append_nil]
  | cons part parts ih =>
    rw [insertAll_cons] at hread
    cases hnext : enabled.insertNamed part with
    | error reason =>
      rw [hnext] at hread
      cases hread
    | ok next =>
      rw [hnext] at hread
      rw [List.append_cons]
      exact ih (h.insertNamed hnext) hread

/-- A provider that is named again stays where it is. -/
example : (parse "mpesa, airtel ,tigo-pesa,mpesa,").map (·.providers) =
    .ok [.mpesa, .airtelMoney, .tigoPesa] :=
  rfl

/-- A refusal names the first part that is not accepted. -/
def RefusedAt (parts : List String) (reason : SettingError) : Prop :=
  ∃ before part after, parts = before ++ part :: after ∧ (∀ item ∈ before, IsAccepted item) ∧
    ¬ IsAccepted part ∧ reason = .invalid
      s!"ENABLED_PAYMENT_PROVIDERS: {Provider.unsupportedMessage (Text.trim part)}"

theorem refusedAt_of_insertAll {parts : List String} {reason : SettingError}
    (h : enabled.insertAll parts = .error reason) : RefusedAt parts reason := by
  induction parts generalizing enabled with
  | nil => cases h
  | cons part parts ih =>
    rw [insertAll_cons] at h
    by_cases haccepted : IsAccepted part
    · obtain ⟨next, hnext⟩ := exists_insertNamed enabled haccepted
      rw [hnext] at h
      obtain ⟨before, refused, after, rfl, hbefore, hrefused⟩ := ih h
      exact ⟨part :: before, refused, after, rfl,
        List.forall_mem_cons.mpr ⟨haccepted, hbefore⟩, hrefused⟩
    · rw [insertNamed_of_not_isAccepted haccepted] at h
      exact ⟨[], part, parts, rfl, List.forall_mem_nil _, haccepted, (Except.error.inj h).symm⟩

/-! ## Texts with a comma between them -/

theorem ext_providers {a b : EnabledProviders} (h : a.providers = b.providers) : a = b := by
  cases a
  cases b
  cases h
  rfl

/-- Some providers, followed by those of others that are not among them. -/
def union (enabled more : EnabledProviders) : EnabledProviders where
  providers := enabled.providers ++ more.providers.filter (· ∉ enabled.providers)
  nodup := by
    refine List.nodup_append.mpr ⟨enabled.nodup, more.nodup.filter _, ?_⟩
    rintro a ha b hb rfl
    exact of_decide_eq_true (List.mem_filter.mp hb).2 ha

theorem providers_union {more : EnabledProviders} :
    (enabled.union more).providers =
      enabled.providers ++ more.providers.filter (· ∉ enabled.providers) :=
  rfl

theorem union_empty : enabled.union empty = enabled :=
  ext_providers (List.append_nil _)

theorem union_insert {more : EnabledProviders} :
    enabled.union (more.insert provider) = (enabled.union more).insert provider := by
  have hmem : provider ∈ (enabled.union more).providers ↔
      provider ∈ enabled.providers ∨ provider ∈ more.providers := by
    rw [providers_union, List.mem_append, List.mem_filter, decide_eq_true_eq]
    tauto
  by_cases hmore : provider ∈ more.providers
  · rw [insert_of_mem hmore, insert_of_mem (hmem.mpr (.inr hmore))]
  · apply ext_providers
    rw [providers_union, providers_insert hmore, List.filter_append, ← List.append_assoc,
      ← providers_union]
    by_cases henabled : provider ∈ enabled.providers
    · rw [insert_of_mem (hmem.mpr (.inl henabled))]
      simp [henabled]
    · rw [providers_insert (mt hmem.mp (not_or_intro henabled hmore))]
      simp [henabled]

theorem insertNamed_union {more : EnabledProviders} :
    (enabled.union more).insertNamed part = (more.insertNamed part).map enabled.union := by
  by_cases haccepted : IsAccepted part
  · obtain hblank | ⟨provider, hnamed⟩ := haccepted
    · rw [insertNamed_of_blank hblank, insertNamed_of_blank hblank]
      rfl
    · rw [insertNamed_of_isNamedBy hnamed, insertNamed_of_isNamedBy hnamed, ← union_insert]
      rfl
  · rw [insertNamed_of_not_isAccepted haccepted, insertNamed_of_not_isAccepted haccepted]
    rfl

theorem insertAll_union {more : EnabledProviders} (parts : List String) :
    (enabled.union more).insertAll parts = (more.insertAll parts).map enabled.union := by
  induction parts generalizing more with
  | nil => rfl
  | cons part parts ih =>
    rw [insertAll_cons, insertAll_cons, insertNamed_union]
    cases more.insertNamed part with
    | error reason => rfl
    | ok next => exact ih

/-- What is read of two texts with a comma between them. -/
theorem parse_append (front back : String) :
    parse (front ++ "," ++ back) =
      (parse front).bind fun enabled ↦ (parse back).map enabled.union := by
  rw [parse_eq, partsOf_append, insertAll_append, ← parse_eq]
  congr 1
  funext enabled
  rw [parse_eq, ← insertAll_union, union_empty]

/-! ## Lists of codes -/

/-- Parts between commas that list providers: each by its code between blanks, with blank parts
anywhere, and with codes again that have been listed. -/
inductive ListsCodes : List Provider → List Provider → List String → Prop where
  | done (seen : List Provider) : ListsCodes seen [] []
  | first {seen rest : List Provider} {provider : Provider} {part : String} {parts : List String} :
    provider.IsSpacedCode part → ListsCodes (seen ++ [provider]) rest parts →
      ListsCodes seen (provider :: rest) (part :: parts)
  | again {seen rest : List Provider} {provider : Provider} {part : String} {parts : List String} :
    provider ∈ seen → provider.IsSpacedCode part → ListsCodes seen rest parts →
      ListsCodes seen rest (part :: parts)
  | blank {seen rest : List Provider} {part : String} {parts : List String} :
    Text.isBlankText part = true → ListsCodes seen rest parts →
      ListsCodes seen rest (part :: parts)

theorem ListsCodes.insertAll_eq {seen rest : List Provider} {parts : List String}
    (h : ListsCodes seen rest parts) (hseen : enabled.providers = seen)
    (hfound : found.providers = seen ++ rest) : enabled.insertAll parts = .ok found := by
  -- what is known is always what has been seen: a code that comes first adds one, the others none
  induction h generalizing enabled with
  | done seen =>
    rw [List.append_nil, ← hseen] at hfound
    rw [ext_providers hfound]
    rfl
  | @first seen rest provider part parts hpart _ ih =>
    have hnew : provider ∉ enabled.providers := by
      have hnodup := found.nodup
      rw [hfound, ← hseen] at hnodup
      intro hmem
      exact (List.nodup_append.mp hnodup).2.2 provider hmem provider List.mem_cons_self rfl
    rw [insertAll_cons, insertNamed_of_isNamedBy hpart.isNamedBy]
    refine ih ?_ ?_
    · rw [providers_insert hnew, hseen]
    · rw [hfound, List.append_cons]
  | again hmem hpart _ ih =>
    rw [insertAll_cons, insertNamed_of_isNamedBy hpart.isNamedBy, insert_of_mem (hseen ▸ hmem)]
    exact ih hseen hfound
  | blank hblank _ ih =>
    rw [insertAll_cons, insertNamed_of_blank hblank]
    exact ih hseen hfound

theorem not_mem_of_isBlankText (h : Text.isBlankText part = true) : ',' ∉ part.toList := by
  intro hcomma
  have hblank := List.all_eq_true.mp h _ hcomma
  revert hblank
  decide

theorem ListsCodes.not_mem {seen rest : List Provider} {parts : List String}
    (h : ListsCodes seen rest parts) : ∀ part ∈ parts, ',' ∉ part.toList := by
  induction h with
  | done => exact List.forall_mem_nil _
  | first hpart _ ih => exact List.forall_mem_cons.mpr ⟨hpart.not_mem, ih⟩
  | again _ hpart _ ih => exact List.forall_mem_cons.mpr ⟨hpart.not_mem, ih⟩
  | blank hblank _ ih => exact List.forall_mem_cons.mpr ⟨not_mem_of_isBlankText hblank, ih⟩

theorem ListsCodes.parse_eq {parts : List String} (h : ListsCodes [] enabled.providers parts) :
    parse (",".intercalate parts) = .ok enabled := by
  cases parts with
  | nil =>
    have hempty : enabled = empty := by
      apply ext_providers
      cases hproviders : enabled.providers with
      | nil => rfl
      | cons provider rest =>
        rw [hproviders] at h
        cases h
    rw [hempty]
    rfl
  | cons part rest =>
    rw [EnabledProviders.parse_eq, partsOf_intercalate h.not_mem (List.cons_ne_nil _ _)]
    exact h.insertAll_eq rfl rfl

/-- **The list of enabled providers is an ordered set.**  A text is read if and only if each of its
parts between commas is blank or an alias in any case and between blanks, and a refusal names the
first part that is neither.  What is read has every provider that is named, once, in the order of
first mention.  Of two texts with a comma between them the second adds the providers that are not in
the first; if one of them is refused, so is the whole.  Codes between commas are read back, whatever
blanks, blank parts and repetitions are added. -/
theorem parse_reads_ordered_set :
    (∀ text, (∃ found, parse text = .ok found) ↔ ∀ part ∈ partsOf text, IsAccepted part) ∧
    (∀ text reason, parse text = .error reason → RefusedAt (partsOf text) reason) ∧
    (∀ text found, parse text = .ok found → ListsMentioned found (partsOf text)) ∧
    (∀ front back enabled more, parse front = .ok enabled → parse back = .ok more →
      ∃ whole, parse (front ++ "," ++ back) = .ok whole ∧
        whole.providers = enabled.providers ++ more.providers.filter (· ∉ enabled.providers)) ∧
    (∀ front back reason, parse front = .error reason →
      parse (front ++ "," ++ back) = .error reason) ∧
    (∀ front back enabled reason, parse front = .ok enabled → parse back = .error reason →
      parse (front ++ "," ++ back) = .error reason) ∧
    ∀ enabled parts, ListsCodes [] enabled.providers parts →
      parse (",".intercalate parts) = .ok enabled := by
  refine ⟨fun text ↦ ?_, fun text reason h ↦ ?_, fun text found h ↦ ?_,
    fun front back enabled more hfront hback ↦ ?_, fun front back reason h ↦ ?_,
    fun front back enabled reason hfront hback ↦ ?_, fun enabled parts h ↦ h.parse_eq⟩
  · rw [parse_eq]
    exact exists_insertAll_iff
  · rw [parse_eq] at h
    exact refusedAt_of_insertAll h
  · rw [parse_eq] at h
    exact listsMentioned_insertAll .empty h
  · refine ⟨enabled.union more, ?_, rfl⟩
    rw [parse_append, hfront, hback]
    rfl
  · rw [parse_append, h]
    rfl
  · rw [parse_append, hfront, hback]
    rfl

theorem parse_reads_ordered_set_three :
    ∃ enabled more whole, parse "m-pesa, AIRTEL" = .ok enabled ∧ parse "tigo,mpesa" = .ok more ∧
      parse "m-pesa, AIRTEL,tigo,mpesa" = .ok whole ∧
      whole.providers = [.mpesa, .airtelMoney, .tigoPesa] ∧
      ListsMentioned whole (partsOf "m-pesa, AIRTEL,tigo,mpesa") ∧
      parse "mpesa, airtel_money,,mpesa,tigo_pesa" = .ok whole := by
  obtain ⟨-, -, hlists, hjoin, -, -, hcodes⟩ := parse_reads_ordered_set
  have hfront : parse "m-pesa, AIRTEL" = .ok ⟨[.mpesa, .airtelMoney], by decide⟩ := rfl
  have hback : parse "tigo,mpesa" = .ok ⟨[.tigoPesa, .mpesa], by decide⟩ := rfl
  obtain ⟨whole, hwhole, hproviders⟩ := hjoin _ _ _ _ hfront hback
  have hlisted : ListsCodes [] whole.providers
      ["mpesa", " airtel_money", "", "mpesa", "tigo_pesa"] := by
    rw [hproviders]
    have hspaced : Provider.airtelMoney.IsSpacedCode " airtel_money" :=
      ⟨[' '], [], List.forall_mem_singleton.mpr rfl, List.forall_mem_nil _, rfl⟩
    exact .first (Provider.isSpacedCode_code .mpesa) (.first hspaced (.blank rfl
      (.again (by decide) (Provider.isSpacedCode_code .mpesa)
        (.first (Provider.isSpacedCode_code .tigoPesa) (.done _)))))
  exact ⟨_, _, whole, hfront, hback, hwhole, hproviders, hlists _ _ hwhole, hcodes _ _ hlisted⟩

end EnabledProviders

end MobileMoney
