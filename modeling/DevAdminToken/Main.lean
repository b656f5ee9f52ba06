/-
  DevAdminToken formalization — `main()` (lines 104–154): one run, from the environment,
  `config/default.toml` and the clock to what it prints and what it returns or raises.

  * `Invocation` is what a run reads, `Run` what it leaves.  `expSeconds` is lines
    111–114, `issueAdmin` lines 111–148, `banner` lines 150–153.
  * `lifetime` reads the lifetime off the sources; `expSeconds_eq_lifetime`: the code
    computes it; `lifetime_toml_integer`: a TOML integer is read back as itself.
  * `Issues`: the run took the path that prints a token.  `main_cases`: every run raises,
    reports a missing secret, or issues; `main_issues_of`: when it issues.
  * `main_secret`, `main_claims`: the key an issuing run signs with, and its claims.
    `main_returns`: when `main` returns rather than raises; `main_lifetime_nonpos`: when
    the token it issues is not valid for a positive time.
  * `main_token_verifies`: what a run that returns 0 prints is accepted by `verify` with
    the key of the resolved secret, and carries the header and the claims.
-/
import DevAdminToken.Config
import DevAdminToken.Token

namespace DevAdminToken

/-- What one run of the script reads. -/
structure Invocation where
  /-- `os.environ`. -/
  env : Env
  /-- `config/default.toml`. -/
  config : ConfigFile
  /-- `int(time.time())`. -/
  now : Int
  /-- The random bits of the `uuid.uuid4()` of `sub`. -/
  sub : BitVec 128
  /-- The random bits of the `uuid.uuid4()` of `jti`. -/
  jti : BitVec 128

/-- What one run leaves: its output on stdout and stderr, and what `main` returns or the
    exception it raises. -/
structure Run where
  stdout : PyStr
  stderr : PyStr
  result : Except PyExc Nat

/-- `value or default` on a `str | None`. -/
def pyOr (value : Option PyStr) (default : PyStr) : PyStr :=
  match value with
  | some v => if v = [] then default else v
  | none => default

/-- Lines 111–114: `int(load_config_value("jwt_expiration") or "3600")`, and 3600 when
    either call raises a `ValueError`. -/
def expSeconds (rt : Runtime) (env : Env) (cfg : ConfigFile) : Except PyExc Int :=
  match (loadConfigValue rt.maxStrDigits env cfg "jwt_expiration").bind
      fun v => pyInt rt (pyOr v "3600") with
  | .error e => if e.isValueError then .ok 3600 else .error e
  | .ok n => .ok n

/-- What lines 111–148 compute. -/
structure Issued where
  expSeconds : Int
  claims : PyDict
  token : PyStr

/-- Lines 111–148, with the secret of line 105. -/
def issueAdmin (rt : Runtime) (i : Invocation) (secret : PyStr) : Except PyExc Issued := do
  let expSeconds ← expSeconds rt i.env i.config
  let claims := adminClaims (uuid4Str i.sub) (uuid4Str i.jti) i.now (i.now + expSeconds)
  let token ← encodeToken rt secret claims
  pure ⟨expSeconds, claims, token⟩

/-- Lines 150–153, the four `print`s; the f-string's `str()` of the lifetime is subject to
    the digit limit. -/
def banner (maxDigits : Nat) (iss : Issued) : Except PyExc PyStr := do
  let n ← intRepr maxDigits iss.expSeconds
  pure (("Generated admin JWT (valid for " : PyStr) ++ n ++ (" seconds):\n\n" : PyStr) ++
    iss.token ++ ("\n\nUse it as:\nAuthorization: Bearer " : PyStr) ++ iss.token ++
    ("\n" : PyStr))

/-- Lines 107–108. -/
def missingSecret : PyStr :=
  "Unable to locate JWT secret. Set APP__JWT_SECRET or update config/default.toml.\n"

/-- `main()` (lines 104–154). -/
def main (rt : Runtime) (i : Invocation) : Run :=
  match loadConfigValue rt.maxStrDigits i.env i.config "jwt_secret" with
  | .error e => ⟨[], [], .error e⟩
  | .ok none | .ok (some []) => ⟨[], missingSecret, .ok 1⟩
  | .ok (some secret) =>
    match (issueAdmin rt i secret).bind (banner rt.maxStrDigits) with
    | .ok out => ⟨out, [], .ok 0⟩
    | .error e => ⟨[], [], .error e⟩

/-! ## The lifetime -/

/-- The lifetime as the sources give it: `int(v)` of the first non-empty of
    `jwt_expiration`'s sources when `int()` accepts it, and 3600 otherwise. -/
def lifetime (rt : Runtime) (env : Env) (cfg : ConfigFile) : Int :=
  match firstNonEmpty (sources rt.maxStrDigits env cfg "jwt_expiration") with
  | some v =>
    match pyInt rt v with
    | .ok n => n
    | .error _ => 3600
  | none => 3600

theorem pyOr_eq (value : Option PyStr) (default : PyStr) :
    pyOr value default = (value.filter fun v => decide (v ≠ [])).getD default := by
  cases value with
  | none => rfl
  | some v => by_cases hv : v = [] <;> simp [pyOr, hv, Option.filter]

/-- `int()` of the first non-empty source, `"3600"` standing in for none. -/
theorem lifetime_eq (rt : Runtime) (env : Env) (cfg : ConfigFile) :
    lifetime rt env cfg =
      match pyInt rt ((firstNonEmpty (sources rt.maxStrDigits env cfg "jwt_expiration")).getD
        "3600") with
      | .ok n => n
      | .error _ => 3600 := by
  unfold lifetime
  cases firstNonEmpty (sources rt.maxStrDigits env cfg "jwt_expiration") <;> simp [pyInt_3600]

/-- What `expSeconds` does besides reading `lifetime`: raise the `OSError` of an unreadable
    file, read when no variable gives the lifetime. -/
theorem expSeconds_cases (rt : Runtime) (env : Env) (cfg : ConfigFile) :
    expSeconds rt env cfg = .ok (lifetime rt env cfg) ∨
      (cfg = .unreadable ∧ firstNonEmpty ((envMap "jwt_expiration").map env) = none ∧
        expSeconds rt env cfg = .error .osError) := by
  rw [lifetime_eq]
  unfold expSeconds
  cases hl : loadConfigValue rt.maxStrDigits env cfg "jwt_expiration" with
  | error e =>
    obtain ⟨henv, hc⟩ := loadConfigValue_error hl
    obtain ⟨hcv, hcfg | hv⟩ := configLookup_error hc
    · subst hcfg; cases hc
      exact .inr ⟨rfl, henv, rfl⟩
    · simp [Except.bind, hv, sources, firstNonEmpty_append_of_none henv, hcv, firstNonEmpty,
        pyInt_3600]
  | ok r =>
    left
    simp only [Except.bind, pyOr_eq, loadConfigValue_filter hl]
    split
    · next e he => simp [he, pyInt_error he, PyExc.isValueError]
    · next n hn => simp [hn]

/-- **The code computes the lifetime**: whenever lines 111–114 give a value, it is
    `lifetime`. -/
theorem expSeconds_eq_lifetime {rt : Runtime} {env : Env} {cfg : ConfigFile} {n : Int}
    (h : expSeconds rt env cfg = .ok n) : n = lifetime rt env cfg := by
  rcases expSeconds_cases rt env cfg with h' | ⟨-, e, h'⟩
  · rw [h'] at h; exact (Except.ok.inj h).symm
  · rw [h'] at h; cases h

/-- With no variable giving the lifetime, an unreadable file's `OSError` leaves lines
    111–114. -/
theorem expSeconds_unreadable {rt : Runtime} {env : Env}
    (henv : firstNonEmpty ((envMap "jwt_expiration").map env) = none) :
    expSeconds rt env .unreadable = .error .osError := by
  simp [expSeconds, loadConfigValue, envLookup_eq, henv, configLookup, loadToml, Except.bind,
    PyExc.isValueError]

/-- Lines 111–114 give the lifetime exactly when a variable gives it or the file is not
    unreadable: a file that is not TOML raises a `ValueError`, which they catch. -/
theorem expSeconds_ok_iff {rt : Runtime} {env : Env} {cfg : ConfigFile} :
    expSeconds rt env cfg = .ok (lifetime rt env cfg) ↔
      firstNonEmpty ((envMap "jwt_expiration").map env) ≠ none ∨ cfg ≠ .unreadable := by
  constructor
  · intro h
    by_contra hn
    rw [not_or, not_not, not_not] at hn
    obtain ⟨henv, rfl⟩ := hn
    rw [expSeconds_unreadable henv] at h
    cases h
  · intro h
    refine (expSeconds_cases rt env cfg).resolve_right fun ⟨hcfg, henv, _⟩ => ?_
    rcases h with h | h
    exacts [h henv, h hcfg]

/-- `str()` prints the lifetime: `int()` read it under the digit limit, or it is 3600. -/
theorem lifetime_intRepr_ok (rt : Runtime) (env : Env) (cfg : ConfigFile) :
    ∃ t, intRepr rt.maxStrDigits (lifetime rt env cfg) = .ok t := by
  rw [lifetime_eq]
  split
  · next n hn => exact intRepr_ok_of_pyInt rt hn
  · exact intRepr_ok_of_pyInt rt (pyInt_3600 rt)

/-- **A TOML integer is the lifetime**: with no variable giving `jwt_expiration`, the file's
    `jwt_expiration = n` goes through `str()` and `int()` back to `n` when `n` is within the
    digit limit; past it `str()` raises, and the lifetime is 3600. -/
theorem lifetime_toml_integer {rt : Runtime} {env : Env} {doc : PyStr → Option TomlValue}
    {n : Int} (henv : firstNonEmpty ((envMap "jwt_expiration").map env) = none)
    (hd : doc "jwt_expiration" = some (.integer n)) :
    lifetime rt env (.parsed doc) =
      if rt.maxStrDigits = 0 ∨ (Nat.repr n.natAbs).length ≤ rt.maxStrDigits then n else 3600 := by
  rw [lifetime, sources, firstNonEmpty_append_of_none henv]
  split_ifs with hfit
  · obtain ⟨t, ht⟩ := intRepr_ok_iff.2 hfit
    simp [configValue, hd, TomlValue.str, ht, Except.toOption, intRepr_ne_nil ht,
      pyInt_intRepr rt ht]
  · cases ht : intRepr rt.maxStrDigits n with
    | ok t => exact absurd (intRepr_ok_iff.1 ⟨t, ht⟩) hfit
    | error e => simp [configValue, hd, TomlValue.str, ht, Except.toOption, firstNonEmpty]

theorem lifetime_toml_integer_7200 :
    let rt : Runtime := ⟨4300, .inr (by norm_num), fun _ => none, fun _ _ => ⟨List.replicate 32 0, rfl⟩⟩
    firstNonEmpty ((envMap "jwt_expiration").map fun _ => none) = none ∧
      (fun _ => some (.integer 7200) : PyStr → Option TomlValue) "jwt_expiration" =
        some (.integer 7200) ∧
      lifetime rt (fun _ => none) (.parsed fun _ => some (.integer 7200)) =
        if rt.maxStrDigits = 0 ∨ (Nat.repr (7200 : Int).natAbs).length ≤ rt.maxStrDigits then 7200
        else 3600 := by
  intro rt
  exact ⟨by decide, rfl, lifetime_toml_integer (by decide) rfl⟩

/-! ## The runs of `main` -/

theorem issueAdmin_eq_ok {rt : Runtime} {i : Invocation} {secret : PyStr} {iss : Issued} :
    issueAdmin rt i secret = .ok iss ↔
      expSeconds rt i.env i.config = .ok iss.expSeconds ∧
        iss.claims = adminClaims (uuid4Str i.sub) (uuid4Str i.jti) i.now (i.now + iss.expSeconds) ∧
        encodeToken rt secret iss.claims = .ok iss.token := by
  simp only [issueAdmin, except_bind_eq_ok]
  constructor
  · rintro ⟨n, hn, t, ht, h⟩
    cases h
    exact ⟨hn, rfl, ht⟩
  · rintro ⟨hn, hc, ht⟩
    exact ⟨_, hn, _, hc ▸ ht, by rw [← hc]; rfl⟩

/-- The run issued `iss`, signed with `secret`: lines 105–154 took the path that prints a
    token. -/
structure Issues (rt : Runtime) (i : Invocation) (secret : PyStr) (iss : Issued) : Prop where
  secret_eq : loadConfigValue rt.maxStrDigits i.env i.config "jwt_secret" = .ok (some secret)
  secret_ne : secret ≠ []
  issue_eq : issueAdmin rt i secret = .ok iss
  banner_eq : banner rt.maxStrDigits iss = .ok (main rt i).stdout
  stderr_eq : (main rt i).stderr = []
  result_eq : (main rt i).result = .ok 0

theorem Issues.first {rt : Runtime} {i : Invocation} {secret : PyStr} {iss : Issued}
    (h : Issues rt i secret iss) :
    firstNonEmpty (sources rt.maxStrDigits i.env i.config "jwt_secret") = some secret := by
  simpa [Option.filter, h.secret_ne] using (loadConfigValue_filter h.secret_eq).symm

/-- The token is printed. -/
theorem Issues.token_infix {rt : Runtime} {i : Invocation} {secret : PyStr} {iss : Issued}
    (h : Issues rt i secret iss) : iss.token <:+: (main rt i).stdout := by
  have := h.banner_eq
  simp only [banner, except_bind_eq_ok] at this
  obtain ⟨n, -, h⟩ := this
  rw [← Except.ok.inj h]
  exact ⟨("Generated admin JWT (valid for " : PyStr) ++ n ++ (" seconds):\n\n" : PyStr),
    ("\n\nUse it as:\nAuthorization: Bearer " : PyStr) ++ iss.token ++ ("\n" : PyStr),
    by simp only [List.append_assoc]⟩

theorem main_of_secret {rt : Runtime} {i : Invocation} {secret : PyStr}
    (hs : loadConfigValue rt.maxStrDigits i.env i.config "jwt_secret" = .ok (some secret))
    (hne : secret ≠ []) :
    main rt i = match (issueAdmin rt i secret).bind (banner rt.maxStrDigits) with
      | .ok out => ⟨out, [], .ok 0⟩
      | .error e => ⟨[], [], .error e⟩ := by
  cases secret with
  | nil => exact absurd rfl hne
  | cons c s => simp only [main, hs]

/-- **Every run of `main`** raises, or finds no secret and says so on stderr, or issues a
    token. -/
theorem main_cases (rt : Runtime) (i : Invocation) :
    (∃ e, main rt i = ⟨[], [], .error e⟩) ∨
      (firstNonEmpty (sources rt.maxStrDigits i.env i.config "jwt_secret") = none ∧
        main rt i = ⟨[], missingSecret, .ok 1⟩) ∨
      ∃ secret iss, Issues rt i secret iss := by
  cases hl : loadConfigValue rt.maxStrDigits i.env i.config "jwt_secret" with
  | error e => exact .inl ⟨e, by simp only [main, hl]⟩
  | ok r =>
    have hf := loadConfigValue_filter hl
    rcases r with _ | _ | ⟨c, s⟩
    · exact .inr (.inl ⟨hf.symm, by simp only [main, hl]⟩)
    · exact .inr (.inl ⟨by simpa [Option.filter] using hf.symm, by simp only [main, hl]⟩)
    · have hm := main_of_secret hl (List.cons_ne_nil c s)
      cases hb : (issueAdmin rt i (c :: s)).bind (banner rt.maxStrDigits) with
      | error e => exact .inl ⟨e, by rw [hm, hb]⟩
      | ok out =>
        rw [hb] at hm
        obtain ⟨iss, hi, hbn⟩ := except_bind_eq_ok.1 hb
        exact .inr (.inr ⟨c :: s, iss, hl, List.cons_ne_nil c s, hi, by rw [hm, hbn],
          by rw [hm], by rw [hm]⟩)

/-- A run issues a token when the secret resolves to a non-empty value that encodes, the
    lifetime's lookup raises no `OSError`, and the clock and the expiry are within the digit
    limit. -/
theorem main_issues_of {rt : Runtime} {i : Invocation} {secret : PyStr}
    (hs : loadConfigValue rt.maxStrDigits i.env i.config "jwt_secret" = .ok (some secret))
    (hne : secret ≠ [])
    (hlife : firstNonEmpty ((envMap "jwt_expiration").map i.env) ≠ none ∨ i.config ≠ .unreadable)
    (hkey : ∃ key, encodeUtf8 secret = .ok key)
    (hnow : ∃ t, intRepr rt.maxStrDigits i.now = .ok t)
    (hexp : ∃ t, intRepr rt.maxStrDigits (i.now + lifetime rt i.env i.config) = .ok t) :
    ∃ iss, Issues rt i secret iss := by
  let claims := adminClaims (uuid4Str i.sub) (uuid4Str i.jti) i.now
    (i.now + lifetime rt i.env i.config)
  obtain ⟨token, ht⟩ : ∃ token, encodeToken rt secret claims = .ok token :=
    encodeToken_ok_iff.2 ⟨adminClaims_dumps_ok.2 ⟨hnow, hexp⟩, hkey⟩
  let iss : Issued := ⟨lifetime rt i.env i.config, claims, token⟩
  have hi : issueAdmin rt i secret = .ok iss :=
    issueAdmin_eq_ok.2 ⟨expSeconds_ok_iff.2 hlife, rfl, ht⟩
  obtain ⟨n, hn⟩ := lifetime_intRepr_ok rt i.env i.config
  have hb : banner rt.maxStrDigits iss = .ok (main rt i).stdout := by
    rw [main_of_secret hs hne, hi]
    simp only [Except.bind, banner, hn]
    rfl
  refine ⟨iss, hs, hne, hi, hb, ?_, ?_⟩ <;>
  · rw [main_of_secret hs hne, hi]
    simp only [Except.bind, banner, hn]
    rfl

/-! ## The secret -/

/-- **The key is the first non-empty secret**: a run that prints a token signed it with
    the UTF-8 of the first non-empty of `APP__JWT_SECRET`, `JWT_SECRET` and
    `str(config["jwt_secret"])`, a key that is not empty; when none of them is non-empty,
    the run prints nothing on stdout and returns 1 or raises. -/
theorem main_secret (rt : Runtime) (i : Invocation) :
    ((main rt i).stdout ≠ [] →
      ∃ secret iss key, Issues rt i secret iss ∧
        firstNonEmpty (sources rt.maxStrDigits i.env i.config "jwt_secret") = some secret ∧
        encodeUtf8 secret = .ok key ∧ key ≠ [] ∧
        ∃ hb pb, [46].intercalate [segment hb, segment pb,
          segment (rt.hmacSha256 key (b64url hb ++ [46] ++ b64url pb)).val] = iss.token) ∧
    (firstNonEmpty (sources rt.maxStrDigits i.env i.config "jwt_secret") = none →
      (main rt i).stdout = [] ∧ ((main rt i).result = .ok 1 ∨ ∃ e, (main rt i).result = .error e)) := by
  refine ⟨fun hout => ?_, fun hnone => ?_⟩
  · rcases main_cases rt i with ⟨e, he⟩ | ⟨-, he⟩ | ⟨secret, iss, h⟩
    · rw [he] at hout; exact absurd rfl hout
    · rw [he] at hout; exact absurd rfl hout
    · obtain ⟨-, -, ht⟩ := issueAdmin_eq_ok.1 h.issue_eq
      obtain ⟨hb, pb, key, -, -, hk, htok⟩ := encodeToken_eq_ok.1 ht
      exact ⟨secret, iss, key, h, h.first, hk, encodeUtf8_ne_nil h.secret_ne hk, hb, pb, htok⟩
  · rcases main_cases rt i with ⟨e, he⟩ | ⟨-, he⟩ | ⟨secret, iss, h⟩
    · rw [he]; exact ⟨rfl, .inr ⟨e, rfl⟩⟩
    · rw [he]; exact ⟨rfl, .inl rfl⟩
    · rw [h.first] at hnone; cases hnone

/-! ## The claims -/

/-- **The claims of an issued token**: a run that returns 0 signed the claims object with
    the keys `aud` to `tenant_id`, `tenant_id` and `scope` null, `iat = nbf = now` and
    `exp = now + lifetime`. -/
theorem main_claims (rt : Runtime) (i : Invocation) (h : (main rt i).result = .ok 0) :
    ∃ secret iss, Issues rt i secret iss ∧
      iss.claims = adminClaims (uuid4Str i.sub) (uuid4Str i.jti) i.now
        (i.now + lifetime rt i.env i.config) ∧
      (sortItems iss.claims.items).map Prod.fst =
        ["aud", "email", "exp", "iat", "iss", "jti", "name", "nbf", "permissions", "roles",
          "scope", "sub", "tenant_id"] ∧
      iss.claims.get? "tenant_id" = some .null ∧ iss.claims.get? "scope" = some .null ∧
      iss.claims.get? "iat" = some (.int i.now) ∧ iss.claims.get? "nbf" = some (.int i.now) ∧
      iss.claims.get? "exp" = some (.int (i.now + lifetime rt i.env i.config)) := by
  rcases main_cases rt i with ⟨e, he⟩ | ⟨-, he⟩ | ⟨secret, iss, hi⟩
  · rw [he] at h; cases h
  · rw [he] at h; cases h
  · obtain ⟨hn, hc, -⟩ := issueAdmin_eq_ok.1 hi.issue_eq
    rw [← expSeconds_eq_lifetime hn]
    exact ⟨secret, iss, hi, hc, hc ▸ adminClaims_spec _ _ _ _⟩

theorem main_claims_env :
    let rt : Runtime := ⟨4300, .inr (by norm_num), fun _ => none, fun _ _ => ⟨List.replicate 32 0, rfl⟩⟩
    let i : Invocation :=
      ⟨fun n => if n = "APP__JWT_SECRET" then some "k" else none, .missing, 0, 0, 0⟩
    (main rt i).result = .ok 0 ∧
    ∃ secret iss, Issues rt i secret iss ∧
      iss.claims = adminClaims (uuid4Str i.sub) (uuid4Str i.jti) i.now
        (i.now + lifetime rt i.env i.config) ∧
      (sortItems iss.claims.items).map Prod.fst =
        ["aud", "email", "exp", "iat", "iss", "jti", "name", "nbf", "permissions", "roles",
          "scope", "sub", "tenant_id"] ∧
      iss.claims.get? "tenant_id" = some .null ∧ iss.claims.get? "scope" = some .null ∧
      iss.claims.get? "iat" = some (.int i.now) ∧ iss.claims.get? "nbf" = some (.int i.now) ∧
      iss.claims.get? "exp" = some (.int (i.now + lifetime rt i.env i.config)) := by
  intro rt i
  obtain ⟨_, h⟩ := @main_issues_of rt i "k" (by decide) (by decide) (.inr ConfigFile.noConfusion)
    ⟨_, rfl⟩ (intRepr_ok_iff.2 (.inr (by decide))) (intRepr_ok_iff.2 (.inr (by decide)))
  exact ⟨h.result_eq, main_claims rt i h.result_eq⟩

/-! ## When `main` returns -/

/-- `APP__JWT_EXPIRATION=0`: the run issues a token with `exp = iat`. -/
theorem main_zero_lifetime :
    let rt : Runtime := ⟨4300, .inr (by norm_num), fun _ => none, fun _ _ => ⟨List.replicate 32 0, rfl⟩⟩
    let i : Invocation := ⟨fun n => if n = "APP__JWT_SECRET" then some "k"
      else if n = "APP__JWT_EXPIRATION" then some "0" else none, .missing, 0, 0, 0⟩
    ∃ secret iss, Issues rt i secret iss ∧ iss.expSeconds = 0 ∧
      iss.claims.get? "exp" = some (.int i.now) ∧ iss.claims.get? "iat" = some (.int i.now) := by
  intro rt i
  obtain ⟨iss, h⟩ := @main_issues_of rt i "k" (by decide) (by decide) (.inr ConfigFile.noConfusion)
    ⟨_, rfl⟩ (intRepr_ok_iff.2 (.inr (by decide))) (intRepr_ok_iff.2 (.inr (by decide)))
  obtain ⟨hn, hc, -⟩ := issueAdmin_eq_ok.1 h.issue_eq
  have h0 : iss.expSeconds = 0 := (expSeconds_eq_lifetime hn).trans (by decide)
  exact ⟨_, iss, h, h0, by rw [hc, h0]; rfl, by rw [hc]; rfl⟩

/-- **When an issued token is not valid for a positive time**: exactly when the first
    non-empty of `APP__JWT_EXPIRATION`, `JWT_EXPIRATION` and `str(config["jwt_expiration"])`
    is one that `int()` reads as zero or less; otherwise `exp > iat`. -/
theorem main_lifetime_nonpos (rt : Runtime) (i : Invocation) (h : (main rt i).result = .ok 0) :
    ∃ secret iss, Issues rt i secret iss ∧
      iss.claims.get? "iat" = some (.int i.now) ∧
      iss.claims.get? "exp" = some (.int (i.now + iss.expSeconds)) ∧
      (iss.expSeconds ≤ 0 ↔
        ∃ v n, firstNonEmpty (sources rt.maxStrDigits i.env i.config "jwt_expiration") = some v ∧
          pyInt rt v = .ok n ∧ n ≤ 0) := by
  rcases main_cases rt i with ⟨e, he⟩ | ⟨-, he⟩ | ⟨secret, iss, hi⟩
  · rw [he] at h; cases h
  · rw [he] at h; cases h
  · obtain ⟨hn, hc, -⟩ := issueAdmin_eq_ok.1 hi.issue_eq
    refine ⟨secret, iss, hi, by rw [hc]; rfl, by rw [hc]; rfl, ?_⟩
    rw [expSeconds_eq_lifetime hn, lifetime]
    split
    · next v hv =>
      split
      · next n hn => simp [hv, hn]
      · next e he => simp [hv, he]
    · next hv => simp [hv]

/-- `APP__JWT_EXPIRATION=0`: the lifetime is not positive, and the first source reads as `0`. -/
theorem main_lifetime_nonpos_zero :
    let rt : Runtime := ⟨4300, .inr (by norm_num), fun _ => none, fun _ _ => ⟨List.replicate 32 0, rfl⟩⟩
    let i : Invocation := ⟨fun n => if n = "APP__JWT_SECRET" then some "k"
      else if n = "APP__JWT_EXPIRATION" then some "0" else none, .missing, 0, 0, 0⟩
    (main rt i).result = .ok 0 ∧
    ∃ secret iss, Issues rt i secret iss ∧
      iss.claims.get? "iat" = some (.int i.now) ∧
      iss.claims.get? "exp" = some (.int (i.now + iss.expSeconds)) ∧
      (iss.expSeconds ≤ 0 ↔
        ∃ v n, firstNonEmpty (sources rt.maxStrDigits i.env i.config "jwt_expiration") = some v ∧
          pyInt rt v = .ok n ∧ n ≤ 0) := by
  intro rt i
  obtain ⟨_, h⟩ := @main_issues_of rt i "k" (by decide) (by decide) (.inr ConfigFile.noConfusion)
    ⟨_, rfl⟩ (intRepr_ok_iff.2 (.inr (by decide))) (intRepr_ok_iff.2 (.inr (by decide)))
  exact ⟨h.result_eq, main_lifetime_nonpos rt i h.result_eq⟩

/-! ## What a run prints -/

/-- **The printed token verifies**: a run that returns 0 prints a token that the verifier
    holding the UTF-8 of the first non-empty secret accepts, and it recovers the canonical
    bytes of the header and of the claims with `iat = nbf = now` and
    `exp = now + lifetime`. -/
theorem main_token_verifies (rt : Runtime) (i : Invocation) (h : (main rt i).result = .ok 0) :
    ∃ secret key token hb pb,
      firstNonEmpty (sources rt.maxStrDigits i.env i.config "jwt_secret") = some secret ∧
      encodeUtf8 secret = .ok key ∧ token <:+: (main rt i).stdout ∧
      verify rt key token = some (hb, pb) ∧ canonicalBytes rt.maxStrDigits header = .ok hb ∧
      canonicalBytes rt.maxStrDigits (adminClaims (uuid4Str i.sub) (uuid4Str i.jti) i.now
        (i.now + lifetime rt i.env i.config)) = .ok pb := by
  rcases main_cases rt i with ⟨e, he⟩ | ⟨-, he⟩ | ⟨secret, iss, hi⟩
  · rw [he] at h; cases h
  · rw [he] at h; cases h
  · obtain ⟨hn, hc, ht⟩ := issueAdmin_eq_ok.1 hi.issue_eq
    obtain ⟨key, hb, pb, hk, hh, hp, hv⟩ := verify_encodeToken ht
    rw [hc, expSeconds_eq_lifetime hn] at hp
    exact ⟨secret, key, iss.token, hb, pb, hi.first, hk, hi.token_infix, hv, hh, hp⟩

theorem main_token_verifies_env :
    let rt : Runtime := ⟨4300, .inr (by norm_num), fun _ => none, fun _ _ => ⟨List.replicate 32 0, rfl⟩⟩
    let i : Invocation :=
      ⟨fun n => if n = "APP__JWT_SECRET" then some "k" else none, .missing, 0, 0, 0⟩
    (main rt i).result = .ok 0 ∧
    ∃ secret key token hb pb,
      firstNonEmpty (sources rt.maxStrDigits i.env i.config "jwt_secret") = some secret ∧
      encodeUtf8 secret = .ok key ∧ token <:+: (main rt i).stdout ∧
      verify rt key token = some (hb, pb) ∧ canonicalBytes rt.maxStrDigits header = .ok hb ∧
      canonicalBytes rt.maxStrDigits (adminClaims (uuid4Str i.sub) (uuid4Str i.jti) i.now
        (i.now + lifetime rt i.env i.config)) = .ok pb := by
  intro rt i
  obtain ⟨_, h⟩ := @main_issues_of rt i "k" (by decide) (by decide) (.inr ConfigFile.noConfusion)
    ⟨_, rfl⟩ (intRepr_ok_iff.2 (.inr (by decide))) (intRepr_ok_iff.2 (.inr (by decide)))
  exact ⟨h.result_eq, main_token_verifies rt i h.result_eq⟩

end DevAdminToken
