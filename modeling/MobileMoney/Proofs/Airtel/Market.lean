import MobileMoney.Proofs.Account.Requests
import MobileMoney.Proofs.Account.TokenDiscipline
import MobileMoney.Proofs.Airtel.Initiation
import MobileMoney.Proofs.Rail.Preparation
import MobileMoney.Proofs.Text.Capitals

/-!
# The market of an account

An Airtel Money account belongs to the market whose code its country is, in any case and with blanks
around it.  Currency and calling code are those of the market.  The country is sent as it is
written, so what is sent names the market if the country is the code itself, which it always is in a
configuration read from variables.
-/

namespace MobileMoney.Airtel

/-! ## Countries -/

namespace Market

theorem eq_of_country {market other : Market} (hmarket : market ∈ all) (hother : other ∈ all)
    (h : market.country = other.country) : market = other := by
  have hcodes : ∀ market ∈ all, ∀ other ∈ all, market.country = other.country → market = other := by
    decide
  exact hcodes market hmarket other hother h

theorem ofCountry?_eq_some_iff {country : String} {market : Market} :
    ofCountry? country = some market ↔
      market ∈ all ∧ market.country = Text.upper (Text.trim country) := by
  constructor
  · intro h
    exact ⟨List.mem_of_find?_eq_some h, by simpa using List.find?_some h⟩
  · rintro ⟨hmem, hcountry⟩
    obtain ⟨found, hfound⟩ : ∃ found, ofCountry? country = some found := by
      rw [← Option.isSome_iff_exists, ofCountry?, List.find?_isSome]
      exact ⟨market, hmem, by simpa using hcountry⟩
    have hsame : found.country = market.country := by
      rw [hcountry]
      simpa using List.find?_some hfound
    rw [hfound, eq_of_country (List.mem_of_find?_eq_some hfound) hmem hsame]

/-- A code is its own spelling. -/
theorem ofCountry?_country {market : Market} (h : market ∈ all) :
    ofCountry? market.country = some market := by
  revert market
  decide +kernel

theorem isCallingCode {market : Market} (h : market ∈ all) :
    Msisdn.IsCallingCode market.callingCode where
  length_eq := by
    revert market
    decide +kernel
  isDigit := by
    have hdigits : ∀ market ∈ all, market.callingCode.toList.all Char.isDigit = true := by
      decide +kernel
    exact List.all_eq_true.mp (hdigits market h)
  head_ne := by
    revert market
    decide

end Market

/-- The country is written as the code of a market. -/
def Config.NamesCode (config : Config) : Prop :=
  ∃ market ∈ Market.all, config.country = market.country

theorem Config.NamesCode.country_eq {config : Config} {market : Market} (h : config.NamesCode)
    (hmarket : Market.ofCountry? config.country = some market) :
    config.country = market.country := by
  obtain ⟨other, hother, hcountry⟩ := h
  rw [hcountry, Market.ofCountry?_country hother] at hmarket
  rw [hcountry, Option.some.inj hmarket]

/-- Variables give a configuration that names its market by its code. -/
theorem Config.namesCode_of_read {vars : Variables} {config : Config}
    (h : Config.read vars = .ok config) : config.NamesCode := by
  simp only [Config.read, ite_throw_eq_ok, bind_eq_ok, pure_eq_ok] at h
  obtain ⟨hmarket, _, -, _, -, _, -, rfl⟩ := h
  rw [Option.isNone_iff_eq_none, ← ne_eq, Option.ne_none_iff_exists'] at hmarket
  obtain ⟨market, hmarket⟩ := hmarket
  obtain ⟨hmem, hcountry⟩ := Market.ofCountry?_eq_some_iff.mp hmarket
  rw [Text.upper_trim_upper_trim] at hcountry
  exact ⟨market, hmem, hcountry.symm⟩

/-! ## Requests -/

namespace Account

/-- What a request says of its market: the headers, and in a collection both of the parties. -/
structure Names (account : Account) (country currency : String) (request : Request) : Prop where
  headerCountry : request.header? "x-country" = some country
  headerCurrency : request.header? "x-currency" = some currency
  parties : request.url = account.collectionUrl → ∃ document, request.body = .json document ∧
    ∀ party ∈ ["subscriber", "transaction"],
      document.at? [party, "country"] = some (.text country) ∧
        document.at? [party, "currency"] = some (.text currency)

/-- Every request of a session names a market, but for the exchanges of tokens. -/
def AllName (account : Account) (country currency : String) (session : Session) : Prop :=
  ∀ request ∈ session.requests,
    request = account.exchangeRequest ∨ account.Names country currency request

/-- An account that speaks for a market under the name of a country: its rules are those of the
market, and whatever is asked of it, what it sends names both. -/
structure SpeaksFor (account : Account) (market : Market) (country : String) : Prop where
  listed : market ∈ Market.all
  collects : ∀ request prepared, account.market.rules.prepareCollection request = .ok prepared →
    request.amount.currency.code = market.currency ∧
      Msisdn.IsNormalForm market.callingCode request.payerPhone prepared.msisdn
  disburses : ∀ request prepared,
    account.market.rules.prepareDisbursement Market.textLength request = .ok prepared →
      request.amount.currency.code = market.currency ∧
        Msisdn.IsNormalForm market.callingCode request.recipientPhone prepared.msisdn
  sends : ∀ world margin operations, account.AllName country market.currency
    ((MobileMoney.Account.airtel account).run world (.start margin) operations)

variable (account : Account)

theorem names_collectionRequest (prepared : PreparedCollection) (token : String) :
    account.Names account.config.country account.market.currency
      (account.postRequest "/merchant/v1/payments/" (account.collectionBody prepared) token) where
  headerCountry := rfl
  headerCurrency := rfl
  parties _ := by
    refine ⟨_, rfl, ?_⟩
    simp only [List.forall_mem_cons]
    exact ⟨⟨rfl, rfl⟩, ⟨rfl, rfl⟩, List.forall_mem_nil _⟩

/-- Other paths than that of collections. -/
theorem append_ne_collectionUrl {path : String} (h : path ≠ "/merchant/v1/payments/") :
    account.config.baseUrl ++ path ≠ account.collectionUrl :=
  fun hsame ↦ h ((String.append_right_inj _).mp hsame)

theorem names_disbursementRequest (body : Json) (token : String) :
    account.Names account.config.country account.market.currency
      (account.postRequest "/standard/v1/disbursements/" body token) where
  headerCountry := rfl
  headerCurrency := rfl
  parties hurl := absurd hurl (account.append_ne_collectionUrl (by decide))

theorem names_questionRequest (id token : String) :
    account.Names account.config.country account.market.currency
      (account.getRequest ("/standard/v1/payments/" ++ id) token) where
  headerCountry := rfl
  headerCurrency := rfl
  parties hurl := by
    refine absurd hurl (account.append_ne_collectionUrl fun hpath ↦ ?_)
    have hchars := congrArg String.toList hpath
    simp at hchars

theorem perform_allName (world : World) {session : Session} (operation : Operation)
    (hsession : account.AllName account.config.country account.market.currency session) :
    account.AllName account.config.country account.market.currency
      ((MobileMoney.Account.airtel account).perform world session operation) := by
  cases operation with
  | collect request =>
    apply Call.SendsOnly.forall_mem_requests ((account.collect_sendsOnly request).mono ?_) hsession
    rintro sent (hexchange | ⟨prepared, token, -, rfl⟩)
    · exact .inl hexchange
    · exact .inr (account.names_collectionRequest prepared token)
  | disburse request =>
    apply Call.SendsOnly.forall_mem_requests ((account.disburse_sendsOnly request).mono ?_) hsession
    rintro sent (hexchange | ⟨prepared, pin, token, -, rfl⟩)
    · exact .inl hexchange
    · exact .inr (account.names_disbursementRequest _ token)
  | query id =>
    apply Call.SendsOnly.forall_mem_requests ((account.query_sendsOnly id).mono ?_) hsession
    rintro sent (hexchange | ⟨token, rfl⟩)
    · exact .inl hexchange
    · exact .inr (account.names_questionRequest id token)

variable {account} {config : Config} {policy : RetryPolicy}

theorem of_eq_ok :
    of config policy = .ok account ↔ ∃ market, Market.ofCountry? config.country = some market ∧
      account = ⟨config, market, policy⟩ := by
  unfold of
  cases Market.ofCountry? config.country <;> simp [eq_comm]

/-- The amount and the phone number of a prepared request are of the market. -/
theorem speaksFor_country (h : account.market ∈ Market.all) :
    account.SpeaksFor account.market account.config.country where
  listed := h
  collects request prepared hprepared := by
    have hdecided :=
      (account.market.rules.prepare_isDecidedBy (Market.isCallingCode h)).1 request
    have hcurrency := hdecided.accepts.mp ⟨prepared, hprepared⟩
      ⟨"currency", request.amount.currency.code = account.market.currency⟩ (.head _)
    exact ⟨hcurrency, (hdecided.sound prepared hprepared).terms.msisdn⟩
  disburses request prepared hprepared := by
    have hdecided :=
      (account.market.rules.prepare_isDecidedBy (Market.isCallingCode h)).2 Market.textLength request
    have hcurrency := hdecided.accepts.mp ⟨prepared, hprepared⟩
      ⟨"currency", request.amount.currency.code = account.market.currency⟩ (.head _)
    exact ⟨hcurrency, (hdecided.sound prepared hprepared).terms.msisdn⟩
  sends world margin operations :=
    MobileMoney.Account.run_keeps (fun _ ↦ account.perform_allName world) (List.forall_mem_nil _)
      operations

/-- **One market.**  An account speaks for the market whose code its country is, in any case and
with blanks around it, under the name that the country has as it is written.  So it speaks for it
under its code if the country is written as a code, as it is in a configuration read from
variables. -/
theorem speaks_for_one_market (h : of config policy = .ok account) :
    account.market.country = Text.upper (Text.trim config.country) ∧
      account.SpeaksFor account.market config.country ∧
      (config.NamesCode → account.SpeaksFor account.market account.market.country) ∧
      ∀ vars, Config.read vars = .ok config →
        account.SpeaksFor account.market account.market.country := by
  obtain ⟨market, hmarket, rfl⟩ := of_eq_ok.mp h
  obtain ⟨hmem, hcountry⟩ := Market.ofCountry?_eq_some_iff.mp hmarket
  have hspeaks : SpeaksFor ⟨config, market, policy⟩ market config.country := speaksFor_country hmem
  have hcode : config.NamesCode → SpeaksFor ⟨config, market, policy⟩ market market.country := by
    intro hnames
    rwa [hnames.country_eq hmarket] at hspeaks
  exact ⟨hcountry, hspeaks, hcode, fun vars hread ↦ hcode (Config.namesCode_of_read hread)⟩

/-! ### A country in small letters -/

def accountIn (country : String) : Account where
  config := ⟨"client", "secret", country, none, none, .sandbox, none⟩
  market := ⟨"KE", "KES", "254"⟩
  policy := .single

theorem speaks_for_one_market_kenya :
    of (accountIn "KE").config .single = .ok (accountIn "KE") ∧
      (accountIn "KE").SpeaksFor ⟨"KE", "KES", "254"⟩ "KE" := by
  have hof : of (accountIn "KE").config .single = .ok (accountIn "KE") :=
    of_eq_ok.mpr ⟨_, by decide +kernel, rfl⟩
  have hnames : (accountIn "KE").config.NamesCode := ⟨⟨"KE", "KES", "254"⟩, by decide, rfl⟩
  exact ⟨hof, (speaks_for_one_market hof).2.2.1 hnames⟩

/-- Every request is answered by a token. -/
def tokenWorld : World where
  deliver _ := .answered 200 "\x7b\"access_token\":\"token\",\"expires_in\":3600\x7d"
  clock _ := ⟨1700000180, 0, by decide⟩
  identifier _ := ""

/-- The country in small letters is a country, and it is sent in small letters. -/
theorem not_forall_speaksFor :
    ¬ ∀ (config : Config) (policy : RetryPolicy) (account : Account),
      of config policy = .ok account → ∃ market, account.SpeaksFor market market.country := by
  intro hall
  have hof : of (accountIn "ke").config .single = .ok (accountIn "ke") :=
    of_eq_ok.mpr ⟨_, by decide +kernel, rfl⟩
  obtain ⟨market, hspeaks⟩ := hall _ _ _ hof
  have hsent : (((MobileMoney.Account.airtel (accountIn "ke")).run tokenWorld (.start .zero)
      [.query "TX-1"]).requests.filterMap (·.header? "x-country")) = ["ke"] := by
    decide +kernel
  obtain ⟨request, hrequest, hheader⟩ :=
    List.mem_filterMap.mp (hsent ▸ List.mem_singleton.mpr rfl : "ke" ∈ _)
  obtain hexchange | hnames := hspeaks.sends tokenWorld .zero [.query "TX-1"] request hrequest
  · have hnone : (accountIn "ke").exchangeRequest.header? "x-country" = none := by
      decide +kernel
    rw [hexchange, hnone] at hheader
    exact nomatch hheader
  · have hcountry : market.country = "ke" :=
      Option.some.inj (hnames.headerCountry.symm.trans hheader)
    have hcodes : ∀ market ∈ Market.all, market.country ≠ "ke" := by decide
    exact hcodes market hspeaks.listed hcountry

end Account

end MobileMoney.Airtel
