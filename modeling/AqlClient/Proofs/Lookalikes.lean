import AqlClient.Proofs.Description

/-!
# What is shown of secrets

Of a secret that is too long to be shown its first characters are, and of a short one nothing but its
length (`redact_of_long`, `redact_of_short`). So secrets are shown in the same way exactly if they
look alike (`LookAlike`, `redact_eq_iff`): both are too long and begin with the same characters, or
both are short and of the same length.

All descriptions that tell of credentials show their secrets in this way. Those of options and of
sessions are made of the description of the credentials
(`OptionsOverride.describedAs_withCredentials`, `Session.description_eq`), so that they do not tell
credentials apart that resemble each other (`Credentials.Resemble`).
-/

namespace AqlClient

/-! ### Secrets -/

/-- **Secrets look alike** where some of their first characters are shown: both are longer than that
and begin with the same characters, or neither is longer and they have the same length. -/
inductive LookAlike (shown : Nat) (s t : String) : Prop
  | long (hs : shown < s.length) (ht : shown < t.length)
      (h : s.toList.take shown = t.toList.take shown) : LookAlike shown s t
  | short (hs : s.length ≤ shown) (h : t.length = s.length) : LookAlike shown s t

section Redact

variable {secret s t : String} {shown : Nat}

/-- A secret with its ending exceeds what is allowed exactly if it is longer than what is shown. -/
theorem exceeds_iff :
    (shown : Int) + 3 < (secret.toList.length : Int) + redactionEnding.length ↔
      shown < secret.length := by
  have hending : redactionEnding.length = 3 := rfl
  rw [hending, String.length_toList]
  omega

/-- Of a long secret the first characters are shown, with the ending behind them. -/
theorem redact_of_long (h : shown < secret.length) :
    redact secret (shown + 3) true =
      String.ofList (secret.toList.take shown) ++ redactionEnding := by
  have hcount : (shown : Int) + 3 - redactionEnding.length = shown := Int.add_sub_cancel _ _
  unfold redact leading
  rw [if_pos (exceeds_iff.2 h), hcount, if_neg (by omega), Int.toNat_natCast]

/-- Of a short secret nothing is shown but its length. -/
theorem redact_of_short (h : secret.length ≤ shown) :
    redact secret (shown + 3) true = String.ofList (List.replicate secret.length '*') := by
  unfold redact
  rw [if_neg fun hlong => Nat.not_lt.2 h (exceeds_iff.1 hlong), if_pos rfl, List.map_const',
    String.length_toList]

theorem length_redact (secret : String) (shown : Nat) :
    (redact secret (shown + 3) true).length =
      if shown < secret.length then shown + 3 else secret.length := by
  split
  case isTrue h =>
    rw [redact_of_long h, String.length_append, String.length_ofList, List.length_take,
      String.length_toList, Nat.min_eq_left (Nat.le_of_lt h)]
    rfl
  case isFalse h =>
    rw [redact_of_short (Nat.le_of_not_lt h), String.length_ofList, List.length_replicate]

/-- **Secrets are shown in the same way exactly if they look alike.** -/
theorem redact_eq_iff :
    redact s (shown + 3) true = redact t (shown + 3) true ↔ LookAlike shown s t := by
  constructor
  · intro h
    -- a text that is cut is longer than one that is masked, so that both secrets are of one kind
    have hlength := congrArg String.length h
    rw [length_redact, length_redact] at hlength
    by_cases hs : shown < s.length
    · by_cases ht : shown < t.length
      · rw [redact_of_long hs, redact_of_long ht, String.append_left_inj] at h
        exact .long hs ht (String.ofList_injective h)
      · rw [if_pos hs, if_neg ht] at hlength
        omega
    · by_cases ht : shown < t.length
      · rw [if_neg hs, if_pos ht] at hlength
        omega
      · rw [if_neg hs, if_neg ht] at hlength
        exact .short (Nat.le_of_not_lt hs) hlength.symm
  · intro h
    cases h with
    | long hs ht h => rw [redact_of_long hs, redact_of_long ht, h]
    | short hs h => rw [redact_of_short hs, redact_of_short (h ▸ hs), h]

end Redact

/-! ### Credentials -/

/-- **The same description:** both can be given, and they are the same text. -/
def DescribedAlike (x y : Except Failure String) : Prop := ∃ text, x = .ok text ∧ y = .ok text

/-- What is made of descriptions in the same way is the same if the descriptions are. -/
theorem DescribedAlike.map {x y : Except Failure String} (h : DescribedAlike x y)
    (f : String → String) : DescribedAlike (x.map f) (y.map f) := by
  obtain ⟨text, rfl, rfl⟩ := h
  exact ⟨f text, rfl, rfl⟩

theorem LookAlike.redactValue {shown : Nat} {s t : String} (h : LookAlike shown s t) :
    DescribedAlike (redactValue (.str s) (shown + 3)) (redactValue (.str t) (shown + 3)) :=
  ⟨_, rfl, congrArg Except.ok (redact_eq_iff.2 h).symm⟩

namespace Credentials

/-- **Credentials resemble each other** if they are of one kind, with the same name if they have one,
and their secrets look alike. -/
inductive Resemble : Credentials → Credentials → Prop
  | basic (username : Value) {s t : String} (h : LookAlike 3 s t) :
      Resemble (.basic username (.str s)) (.basic username (.str t))
  | bearer {s t : String} (h : LookAlike 12 s t) : Resemble (.bearer (.str s)) (.bearer (.str t))
  | login (username : Value) {s t : String} (h : LookAlike 3 s t) :
      Resemble (.login username (.str s)) (.login username (.str t))

theorem pairDescription_eq (username password : Value) :
    pairDescription username password = (redactValue password 6).map fun shown =>
      "(username=\"" ++ username.display ++ "\", password=" ++ shown ++ ")" := by
  unfold pairDescription
  cases redactValue password 6 <;> rfl

theorem description_basic (username password : Value) :
    (basic username password).description =
      (pairDescription username password).map fun details => "BasicAuth" ++ details := by
  unfold description
  dsimp only
  cases pairDescription username password <;> rfl

theorem description_bearer (token : Value) :
    (bearer token).description =
      (redactValue token 15).map fun shown => "BearerTokenAuth" ++ ("(" ++ shown ++ ")") := by
  unfold description
  dsimp only
  cases redactValue token 15 <;> rfl

theorem description_login (username password : Value) :
    (login username password).description =
      (pairDescription username password).map fun details => "JWTAuth" ++ details := by
  unfold description
  dsimp only
  cases pairDescription username password <;> rfl

theorem pairDescription_alike (username : Value) {s t : String} (h : LookAlike 3 s t) :
    DescribedAlike (pairDescription username (.str s)) (pairDescription username (.str t)) := by
  rw [pairDescription_eq, pairDescription_eq]
  exact h.redactValue.map _

/-- Credentials that resemble each other have the same description. -/
theorem Resemble.description {c c' : Credentials} (h : c.Resemble c') :
    DescribedAlike c.description c'.description := by
  cases h with
  | basic username h =>
    rw [description_basic, description_basic]
    exact (pairDescription_alike username h).map _
  | bearer h =>
    rw [description_bearer, description_bearer]
    exact h.redactValue.map _
  | login username h =>
    rw [description_login, description_login]
    exact (pairDescription_alike username h).map _

end Credentials

/-! ### What holds credentials -/

/-- An override with other credentials. -/
def OptionsOverride.withCredentials (o : OptionsOverride) (c : Credentials) : OptionsOverride :=
  { o with credentials := some c }

/-- Settings with other credentials. -/
def Options.withCredentials (s : Options) (c : Credentials) : Options := { s with credentials := c }

/-- **The description of options is made of that of their credentials,** and does not look at these
otherwise. -/
theorem OptionsOverride.describedAs_withCredentials (o : OptionsOverride) (front limits : String) :
    ∃ describe : String → String, ∀ c : Credentials,
      (o.withCredentials c).describedAs front limits = c.description.map describe := by
  refine ⟨fun credentials => front ++ Value.commas (
    [o.callers.map fun callers => "callers=" ++ Caller.literals callers,
      o.headers.map fun headers =>
        "database_additional_headers=" ++ headersLiteral (o.redacted.getD []) headers,
      o.redacted.map fun names => "redacted_header_names=" ++ names.literal,
      some ("auth=" ++ credentials),
      o.defaultDatabase.map fun name => "default_database=" ++ name,
      o.timeouts.map fun t => "timeout_options=" ++ limits ++ t.members].filterMap id) ++ ")",
    fun c => ?_⟩
  -- nothing else can fail: the description is there if that of the credentials is
  have hcredentials : (o.withCredentials c).credentials.mapM Credentials.description =
      c.description.map some := rfl
  unfold describedAs members
  rw [hcredentials]
  cases c.description with
  | error e => rfl
  | ok text => rfl

/-- The description of a session is made of that of its credentials, too. -/
theorem Session.description_eq (session : Session) (transport : String) :
    session.description transport = session.credentials.description.map fun credentials =>
      session.mode.leadingWord ++ "Session(api_endpoint=\"" ++ session.address ++ "\", auth=" ++
        credentials ++ ", transport=" ++ transport ++ ")" := by
  unfold description
  cases session.credentials.description with
  | error e => rfl
  | ok text => rfl

/-- **Descriptions show no more of a secret than its beginning, or its length.** A secret is shown
within the length that is allowed, and what is shown is the same of two secrets exactly if they look
alike. So credentials that resemble each other have the same description, and so have options that
differ in such credentials alone, and sessions with the same server that use them. -/
theorem Credentials.secrets_abridged :
    (∀ (secret : String) (maxLength : Int), 3 ≤ maxLength →
      ((redact secret maxLength true).length : Int) ≤ maxLength) ∧
    (∀ (s t : String) (maxLength : Int), 3 ≤ maxLength →
      (redact s maxLength true = redact t maxLength true ↔ LookAlike (maxLength - 3).toNat s t)) ∧
    ∀ c c' : Credentials, c.Resemble c' →
      DescribedAlike c.description c'.description ∧
      (∀ o : OptionsOverride,
        DescribedAlike (o.withCredentials c).description (o.withCredentials c').description) ∧
      (∀ s : Options,
        DescribedAlike (s.withCredentials c).description (s.withCredentials c').description) ∧
      ∀ session session' : Session, session'.mode = session.mode →
        session'.address = session.address → session.credentials = c → session'.credentials = c' →
          ∀ transport,
            DescribedAlike (session.description transport) (session'.description transport) := by
  -- what is left of the length beside the ending is shown
  have hroom : ∀ maxLength : Int, 3 ≤ maxLength → ∃ shown : Nat, maxLength = shown + 3 := by
    intro maxLength h
    exact ⟨(maxLength - 3).toNat, by omega⟩
  refine ⟨?_, ?_, ?_⟩
  · intro secret maxLength h
    obtain ⟨shown, rfl⟩ := hroom maxLength h
    rw [length_redact]
    split <;> omega
  · intro s t maxLength h
    obtain ⟨shown, rfl⟩ := hroom maxLength h
    have hshown : ((shown : Int) + 3 - 3).toNat = shown := by omega
    rw [hshown]
    exact redact_eq_iff
  · intro c c' h
    have hdescription := h.description
    refine ⟨hdescription, ?_, ?_, ?_⟩
    · intro o
      obtain ⟨describe, hdescribe⟩ :=
        o.describedAs_withCredentials "APIOptions(" "TimeoutOptions"
      rw [OptionsOverride.description_eq, OptionsOverride.description_eq, hdescribe, hdescribe]
      exact hdescription.map describe
    · intro s
      obtain ⟨describe, hdescribe⟩ :=
        s.asOverride.describedAs_withCredentials "FullAPIOptions(" "FullTimeoutOptions"
      have hsettings : ∀ c, (s.withCredentials c).description = c.description.map describe := hdescribe
      rw [hsettings, hsettings]
      exact hdescription.map describe
    · intro session session' hmode haddress hc hc' transport
      rw [session.description_eq, session'.description_eq, hmode, haddress, hc, hc']
      exact hdescription.map _

/-- Passwords that differ behind their third character, and tokens of three characters that have none
in common. -/
theorem Credentials.secrets_abridged_specimen :
    let c := login (.str "root") (.str "pässe-partout")
    let c' := login (.str "root") (.str "päss")
    let session : Session := ⟨0, .blocking, "http://arango.test", .standard "1.0", c, true⟩
    (3 : Int) ≤ 6 ∧ ((redact "pässe-partout" 6 true).length : Int) ≤ 6 ∧
      LookAlike 3 "pässe-partout" "päss" ∧ redact "pässe-partout" 6 true = redact "päss" 6 true ∧
      c.Resemble c' ∧ DescribedAlike c.description c'.description ∧
      DescribedAlike (session.description "transport")
        ({ session with credentials := c' }.description "transport") ∧
      DescribedAlike ((Options.standard "1.0").withCredentials (bearer (.str "abc"))).description
        ((Options.standard "1.0").withCredentials (bearer (.str "xyz"))).description := by
  intro c c' session
  obtain ⟨hlength, hshown, halike⟩ := secrets_abridged
  have hsecrets : LookAlike 3 "pässe-partout" "päss" :=
    .long (by decide +kernel) (by decide +kernel) (by decide +kernel)
  have hlogins : c.Resemble c' := .login _ hsecrets
  have htokens : (bearer (.str "abc")).Resemble (bearer (.str "xyz")) :=
    .bearer (.short (by decide +kernel) (by decide +kernel))
  obtain ⟨hdescription, -, -, hsessions⟩ := halike c c' hlogins
  refine ⟨by decide, hlength _ 6 (by decide), hsecrets, (hshown _ _ 6 (by decide)).2 hsecrets,
    hlogins, hdescription, ?_, (halike _ _ htokens).2.2.1 _⟩
  exact hsessions session { session with credentials := c' } rfl rfl rfl rfl _

end AqlClient
