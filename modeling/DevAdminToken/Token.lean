/-
  DevAdminToken formalization — the token `main` assembles (lines 119–148), and what a
  verifier holding the key recovers from it.

  * `adminClaims` and `header` are the objects of lines 119–135; `uuid4Str` is
    `str(uuid.uuid4())`, a version-4 UUID string (`uuid4Str_format`).
  * `encodeToken` is lines 137–148: both objects' canonical bytes through `b64url`, the
    signing input joined by `.`, its HMAC-SHA256 keyed by `secret.encode()`, and `.decode()`.
  * `unb64urlStr` decodes one segment of a token; `verify` is an HS256 verifier: split on
    `.`, decode the segments, compare the signature.
  * `encodeToken_eq_ok`: the token is three `segment`s joined by `.`.
    `encodeToken_roundtrip` and `verify_encodeToken`: a verifier recovers the signed bytes
    and the signature checks.  `encodeToken_alphabet`: URL-safe but for two dots.
  * `verify_reads_objects`: what the verifier accepts reads, as JSON, as the header's and
    the claims' items sorted by key; `adminClaims_noSurrogates`: the claims `main` builds
    qualify.
-/
import DevAdminToken.Base64
import DevAdminToken.JsonDecode

namespace DevAdminToken

/-! ## The objects -/

/-- `DEFAULT_PERMISSIONS` (lines 32–73). -/
def defaultPermissions : List PyStr :=
  ["orders:read", "orders:create", "orders:update", "orders:delete", "orders:cancel",
    "orders:*", "inventory:read", "inventory:adjust", "inventory:transfer", "inventory:*",
    "returns:read", "returns:create", "returns:approve", "returns:reject", "returns:*",
    "shipments:read", "shipments:create", "shipments:update", "shipments:delete",
    "shipments:*", "warranties:read", "warranties:create", "warranties:update",
    "warranties:delete", "warranties:*", "workorders:read", "workorders:create",
    "workorders:update", "workorders:delete", "workorders:*", "admin:outbox",
    "payments:access", "agents:access"]

/-- The keys of the claims (lines 120–132), in insertion order. -/
def claimKeys : List PyStr :=
  ["sub", "name", "email", "roles", "permissions", "tenant_id", "jti", "iat", "exp", "nbf",
    "iss", "aud", "scope"]

theorem claimKeys_nodup : claimKeys.Nodup := by decide

/-- The claims of lines 119–133. -/
def adminClaims (sub jti : PyStr) (now exp : Int) : PyDict where
  items := [("sub", .str sub), ("name", .str "Local Admin"), ("email", .str "admin@example.com"),
    ("roles", .strs ["admin"]), ("permissions", .strs defaultPermissions), ("tenant_id", .null),
    ("jti", .str jti), ("iat", .int now), ("exp", .int exp), ("nbf", .int now),
    ("iss", .str "stateset-auth"), ("aud", .str "stateset-api"), ("scope", .null)]
  nodup := claimKeys_nodup

/-- The header of line 135. -/
def header : PyDict := ⟨[("alg", .str "HS256"), ("typ", .str "JWT")], by decide⟩

/-- `UUID(bytes=os.urandom(16), version=4).int`: the random bits with the variant bits
    62–63 set to `10` and the version bits 76–79 to `0100`. -/
def uuid4Int (r : BitVec 128) : BitVec 128 :=
  (((r &&& ~~~((0xc000 : BitVec 128) <<< 48)) ||| (0x8000 : BitVec 128) <<< 48) &&&
    ~~~((0xf000 : BitVec 128) <<< 64)) ||| (4 : BitVec 128) <<< 76

/-- `'%032x' % n`. -/
def hex32 (n : Nat) : PyStr := (List.range 32).map fun i => hexDigit (n / 16 ^ (31 - i) % 16)

/-- `UUID.__str__`: the 32 hex digits in groups of 8, 4, 4, 4 and 12. -/
def uuidStr (n : Nat) : PyStr :=
  let hex := hex32 n
  hex.take 8 ++ [45] ++ (hex.drop 8).take 4 ++ [45] ++ (hex.drop 12).take 4 ++ [45] ++
    (hex.drop 16).take 4 ++ [45] ++ hex.drop 20

/-- `str(uuid.uuid4())` of the random bits `r`. -/
def uuid4Str (r : BitVec 128) : PyStr := uuidStr (uuid4Int r).toNat

theorem uuid4Str_length (r : BitVec 128) : (uuid4Str r).length = 36 := by
  simp [uuid4Str, uuidStr, hex32]

theorem mem_hex32 {n : Nat} {c : CodePoint} (h : c ∈ hex32 n) : ∃ k < 16, c = hexDigit k := by
  obtain ⟨i, -, rfl⟩ := List.mem_map.1 h
  exact ⟨_, Nat.mod_lt _ (by norm_num), rfl⟩

theorem toNat_div_two_pow_mod_two {w : Nat} (x : BitVec w) (i : Nat) :
    x.toNat / 2 ^ i % 2 = (x.getLsbD i).toNat := by
  rw [← BitVec.testBit_toNat, Nat.testBit_to_div_mod]
  have := Nat.mod_lt (x.toNat / 2 ^ i) (by norm_num : 2 > 0)
  by_cases h : x.toNat / 2 ^ i % 2 = 1 <;> simp [h]; omega

/-- The version digit of the uuid is `4`, and its variant digit one of `8` to `b`. -/
theorem uuid4Int_digits (r : BitVec 128) :
    (uuid4Int r).toNat / 16 ^ 19 % 16 = 4 ∧ 8 ≤ (uuid4Int r).toNat / 16 ^ 15 % 16 ∧
      (uuid4Int r).toNat / 16 ^ 15 % 16 < 12 := by
  have bit : ∀ i, (uuid4Int r).toNat / 2 ^ i % 2 = ((uuid4Int r).getLsbD i).toNat :=
    toNat_div_two_pow_mod_two _
  have b62 : (uuid4Int r).toNat / 2 ^ 62 % 2 = 0 := by rw [bit]; simp [uuid4Int]
  have b63 : (uuid4Int r).toNat / 2 ^ 63 % 2 = 1 := by rw [bit]; simp [uuid4Int]
  have b76 : (uuid4Int r).toNat / 2 ^ 76 % 2 = 0 := by rw [bit]; simp [uuid4Int]
  have b77 : (uuid4Int r).toNat / 2 ^ 77 % 2 = 0 := by rw [bit]; simp [uuid4Int]
  have b78 : (uuid4Int r).toNat / 2 ^ 78 % 2 = 1 := by rw [bit]; simp [uuid4Int]
  have b79 : (uuid4Int r).toNat / 2 ^ 79 % 2 = 0 := by rw [bit]; simp [uuid4Int]
  generalize (uuid4Int r).toNat = n at *
  omega

/-- **`str(uuid.uuid4())` is a version-4 UUID** (RFC 4122 §3, §4.4): five groups of 8, 4, 4,
    4 and 12 lowercase hex digits joined by `-`, the third group starting with the version
    digit `4` and the fourth with a variant digit among `8`, `9`, `a` and `b`. -/
theorem uuid4Str_format (r : BitVec 128) :
    ∃ g₁ g₂ g₃ g₄ g₅ : PyStr,
      uuid4Str r = g₁ ++ [45] ++ g₂ ++ [45] ++ g₃ ++ [45] ++ g₄ ++ [45] ++ g₅ ∧
      g₁.length = 8 ∧ g₂.length = 4 ∧ g₃.length = 4 ∧ g₄.length = 4 ∧ g₅.length = 12 ∧
      (∀ c ∈ g₁ ++ g₂ ++ g₃ ++ g₄ ++ g₅, ∃ k < 16, c = hexDigit k) ∧
      g₃.head? = some (hexDigit 4) ∧ ∃ v, 8 ≤ v ∧ v < 12 ∧ g₄.head? = some (hexDigit v) := by
  obtain ⟨h4, h8, h12⟩ := uuid4Int_digits r
  simp only [Nat.reducePow] at h4
  set hex := hex32 (uuid4Int r).toNat with hhex
  have hl : hex.length = 32 := by simp [hhex, hex32]
  refine ⟨hex.take 8, (hex.drop 8).take 4, (hex.drop 12).take 4, (hex.drop 16).take 4, hex.drop 20,
    rfl, by simp [hl], by simp [hl], by simp [hl], by simp [hl], by simp [hl], ?_, ?_, _, h8, h12,
    ?_⟩
  · intro c hc
    simp only [List.mem_append] at hc
    rcases hc with (((h | h) | h) | h) | h
    · exact mem_hex32 (List.mem_of_mem_take h)
    all_goals first
      | exact mem_hex32 (List.mem_of_mem_drop (List.mem_of_mem_take h))
      | exact mem_hex32 (List.mem_of_mem_drop h)
  · simp [hhex, hex32, List.head?_take, List.head?_drop, h4]
  · simp [hhex, hex32, List.head?_take, List.head?_drop]

theorem isAscii_append {a b : PyStr} : IsAscii (a ++ b) ↔ IsAscii a ∧ IsAscii b :=
  List.forall_mem_append

theorem uuidStr_ascii (n : Nat) : IsAscii (uuidStr n) := by
  have hhex : IsAscii (hex32 n) := fun c hc => by
    obtain ⟨k, hk, rfl⟩ := mem_hex32 hc
    have := hexDigit_val hk
    omega
  have hsub : ∀ {s : PyStr}, s.Sublist (hex32 n) → IsAscii s := fun h c hc => hhex c (h.subset hc)
  have hdash : IsAscii [45] := by decide
  simp only [uuidStr, isAscii_append]
  exact ⟨⟨⟨⟨⟨⟨⟨⟨hsub (List.take_sublist _ _), hdash⟩,
    hsub ((List.take_sublist _ _).trans (List.drop_sublist _ _))⟩, hdash⟩,
    hsub ((List.take_sublist _ _).trans (List.drop_sublist _ _))⟩, hdash⟩,
    hsub ((List.take_sublist _ _).trans (List.drop_sublist _ _))⟩, hdash⟩,
    hsub (List.drop_sublist _ _)⟩

/-- The claims hold no surrogate when `sub` and `jti` are ASCII, as the uuids are. -/
theorem adminClaims_noSurrogates {sub jti : PyStr} (hsub : IsAscii sub) (hjti : IsAscii jti)
    (now exp : Int) : NoSurrogates (adminClaims sub jti now exp).items := by
  have hperm : ∀ x ∈ defaultPermissions, IsAscii x := by decide
  simp only [NoSurrogates, adminClaims, List.forall_mem_cons, JsonValue.strings, List.not_mem_nil,
    IsEmpty.forall_iff, implies_true, and_true]
  repeat' constructor
  all_goals first
    | exact not_isSurrogate_of_ascii hsub
    | exact not_isSurrogate_of_ascii hjti
    | exact fun x hx => not_isSurrogate_of_ascii (hperm x hx)
    | exact not_isSurrogate_of_ascii (by decide)

theorem header_noSurrogates : NoSurrogates header.items := by decide

/-- The object main serializes: in key order, with `tenant_id` and `scope` as `null`,
    `iat` and `nbf` the clock and `exp` the expiry. -/
theorem adminClaims_spec (sub jti : PyStr) (now exp : Int) :
    (sortItems (adminClaims sub jti now exp).items).map Prod.fst =
        ["aud", "email", "exp", "iat", "iss", "jti", "name", "nbf", "permissions", "roles",
          "scope", "sub", "tenant_id"] ∧
      (adminClaims sub jti now exp).get? "tenant_id" = some .null ∧
      (adminClaims sub jti now exp).get? "scope" = some .null ∧
      (adminClaims sub jti now exp).get? "iat" = some (.int now) ∧
      (adminClaims sub jti now exp).get? "nbf" = some (.int now) ∧
      (adminClaims sub jti now exp).get? "exp" = some (.int exp) := by
  have hk : (adminClaims sub jti now exp).items.map Prod.fst = claimKeys := rfl
  refine ⟨?_, rfl, rfl, rfl, rfl, rfl⟩
  rw [sortItems, List.map_insertionSort KeyLe (fun a b : PyStr => strLe a b = true) Prod.fst _
    fun _ _ _ _ => Iff.rfl, hk]
  decide

/-- The claims print unless the clock or the expiry is past the digit limit. -/
theorem adminClaims_dumps_ok {maxDigits : Nat} {sub jti : PyStr} {now exp : Int} :
    (∃ out, dumps maxDigits (adminClaims sub jti now exp) = .ok out) ↔
      (∃ t, intRepr maxDigits now = .ok t) ∧ ∃ t, intRepr maxDigits exp = .ok t := by
  rw [dumps_ok_iff]
  simp only [adminClaims, List.forall_mem_cons, List.not_mem_nil, encodeValue_ok_iff,
    JsonValue.int.injEq, forall_eq', reduceCtorEq, IsEmpty.forall_iff, implies_true,
    true_and, and_true, false_implies, forall_const]
  tauto

theorem header_dumps_ok (maxDigits : Nat) : ∃ out, dumps maxDigits header = .ok out :=
  dumps_ok_iff.2 (by simp [header, encodeValue])

/-! ## The token -/

/-- Lines 137–148. -/
def encodeToken (rt : Runtime) (secret : PyStr) (claims : PyDict) : Except PyExc PyStr := do
  let headerB64 := b64url (← canonicalBytes rt.maxStrDigits header)
  let payloadB64 := b64url (← canonicalBytes rt.maxStrDigits claims)
  let signingInput := headerB64 ++ [46] ++ payloadB64
  let signature := rt.hmacSha256 (← encodeUtf8 secret) signingInput
  let signatureB64 := b64url signature.val
  decodeUtf8 (signingInput ++ [46] ++ signatureB64)

/-- `b64url b` decoded as text: a segment of the token. -/
def segment (b : Bytes) : PyStr := (b64url b).map asciiChar

/-- The bytes of ASCII text. -/
def asciiBytes (s : PyStr) : Bytes := s.map fun c => c.val.toUInt8

/-- A verifier's decoding of a segment: `base64.urlsafe_b64decode` of the segment with its
    `=` re-appended, which reads ASCII text only. -/
def unb64urlStr (s : PyStr) : Option Bytes :=
  if IsAscii s then unb64url (asciiBytes s) else none

theorem urlSafe_of_mem_segment {b : Bytes} {c : CodePoint} (h : c ∈ segment b) :
    isUrlSafe c.val := by
  obtain ⟨x, hx, rfl⟩ := List.mem_map.1 h
  exact b64url_urlSafe b x hx

theorem segment_ascii (b : Bytes) : IsAscii (segment b) := fun _ hc =>
  isUrlSafe_lt (urlSafe_of_mem_segment hc)

theorem dot_not_mem_segment (b : Bytes) : (46 : CodePoint) ∉ segment b := fun h =>
  absurd (urlSafe_of_mem_segment h) (by decide)

theorem asciiBytes_segment (b : Bytes) : asciiBytes (segment b) = b64url b := by
  simp only [asciiBytes, segment, List.map_map]
  exact (List.map_congr_left fun x _ => toUInt8_eq_iff.2 (Nat.mod_eq_of_lt (toNat_lt x))).trans
    (List.map_id _)

theorem unb64urlStr_segment (b : Bytes) : unb64urlStr (segment b) = some b := by
  rw [unb64urlStr, if_pos (segment_ascii b), asciiBytes_segment, unb64url_b64url]

theorem segment_ne_nil {b : Bytes} (h : b ≠ []) : segment b ≠ [] := by
  have := b64url_length b
  have : 0 < b.length := List.length_pos.2 h
  rw [segment, Ne, List.map_eq_nil_iff, ← List.length_eq_zero]
  omega

/-- The text of the three segments joined by `.`, as `.decode()` reads their bytes. -/
theorem decodeUtf8_segments (a b c : Bytes) :
    decodeUtf8 (b64url a ++ [46] ++ b64url b ++ [46] ++ b64url c) =
      .ok ([46].intercalate [segment a, segment b, segment c]) := by
  have ha : ∀ s : Bytes, ∀ x ∈ b64url s, x.toNat < 0x80 := fun s x hx =>
    isUrlSafe_lt (b64url_urlSafe s x hx)
  have hascii : ∀ x ∈ b64url a ++ [46] ++ b64url b ++ [46] ++ b64url c, x.toNat < 0x80 := by
    simp only [List.mem_append, List.mem_singleton]
    rintro x ((((hx | rfl) | hx) | rfl) | hx)
    all_goals first | exact ha _ x hx | decide
  rw [decodeUtf8_ascii hascii]
  simp [segment, List.intercalate]
  rfl

/-- **What `encodeToken` returns**: the segments of the header's bytes, the claims' bytes
    and the HMAC-SHA256 of the first two segments' bytes joined by `.`, with the key
    `secret.encode()`. -/
theorem encodeToken_eq_ok {rt : Runtime} {secret : PyStr} {claims : PyDict} {token : PyStr} :
    encodeToken rt secret claims = .ok token ↔
      ∃ hb pb key, canonicalBytes rt.maxStrDigits header = .ok hb ∧
        canonicalBytes rt.maxStrDigits claims = .ok pb ∧ encodeUtf8 secret = .ok key ∧
        [46].intercalate [segment hb, segment pb,
          segment (rt.hmacSha256 key (b64url hb ++ [46] ++ b64url pb)).val] = token := by
  simp only [encodeToken, except_bind_eq_ok, decodeUtf8_segments, Except.ok.injEq,
    exists_and_left]

/-- The token exists exactly when the claims print and the secret encodes. -/
theorem encodeToken_ok_iff {rt : Runtime} {secret : PyStr} {claims : PyDict} :
    (∃ token, encodeToken rt secret claims = .ok token) ↔
      (∃ out, dumps rt.maxStrDigits claims = .ok out) ∧ ∃ key, encodeUtf8 secret = .ok key := by
  simp only [encodeToken_eq_ok]
  constructor
  · rintro ⟨_, _, pb, key, -, hp, hk, -⟩
    obtain ⟨out, ho, -⟩ := canonicalBytes_eq_ok.1 hp
    exact ⟨⟨out, ho⟩, key, hk⟩
  · rintro ⟨⟨out, ho⟩, key, hk⟩
    obtain ⟨hout, hh⟩ := header_dumps_ok rt.maxStrDigits
    exact ⟨_, _, _, key, canonicalBytes_eq_ok.2 ⟨hout, hh, rfl⟩,
      canonicalBytes_eq_ok.2 ⟨out, ho, rfl⟩, hk, rfl⟩

theorem canonicalBytes_ne_nil {maxDigits : Nat} {d : PyDict} {b : Bytes}
    (h : canonicalBytes maxDigits d = .ok b) : b ≠ [] := by
  obtain ⟨out, ho, rfl⟩ := canonicalBytes_eq_ok.1 h
  simpa using dumps_ne_nil ho

/-- **A verifier recovers the signed bytes**: the token splits on `.` into three non-empty
    segments, which decode to the header's canonical bytes, the claims' canonical bytes,
    and the HMAC-SHA256, keyed by `secret.encode()`, of the first two segments joined by
    `.`. -/
theorem encodeToken_roundtrip (rt : Runtime) (secret : PyStr) (claims : PyDict) (token : PyStr)
    (h : encodeToken rt secret claims = .ok token) :
    ∃ hs ps gs, token.splitOn 46 = [hs, ps, gs] ∧ hs ≠ [] ∧ ps ≠ [] ∧ gs ≠ [] ∧
      ∃ hb pb key, canonicalBytes rt.maxStrDigits header = .ok hb ∧
        canonicalBytes rt.maxStrDigits claims = .ok pb ∧ encodeUtf8 secret = .ok key ∧
        unb64urlStr hs = some hb ∧ unb64urlStr ps = some pb ∧
        unb64urlStr gs = some (rt.hmacSha256 key (asciiBytes hs ++ [46] ++ asciiBytes ps)).val := by
  obtain ⟨hb, pb, key, hh, hp, hk, rfl⟩ := encodeToken_eq_ok.1 h
  let sig := rt.hmacSha256 key (b64url hb ++ [46] ++ b64url pb)
  have hsig : sig.val ≠ [] := fun h => by simpa [h] using sig.property
  refine ⟨_, _, _, List.splitOn_intercalate _ _ ?_ (List.cons_ne_nil _ _), segment_ne_nil
    (canonicalBytes_ne_nil hh), segment_ne_nil (canonicalBytes_ne_nil hp), segment_ne_nil hsig,
    hb, pb, key, hh, hp, hk, unb64urlStr_segment hb, unb64urlStr_segment pb, ?_⟩
  · simp only [List.mem_cons, List.not_mem_nil, or_false]
    rintro l (rfl | rfl | rfl) <;> exact dot_not_mem_segment _
  · rw [asciiBytes_segment, asciiBytes_segment, unb64urlStr_segment]

theorem encodeToken_roundtrip_header :
    let rt : Runtime := ⟨4300, .inr (by norm_num), fun _ => none, fun _ _ => ⟨List.replicate 32 0, rfl⟩⟩
    ∃ token, encodeToken rt "k" header = .ok token ∧
      ∃ hs ps gs, token.splitOn 46 = [hs, ps, gs] ∧ hs ≠ [] ∧ ps ≠ [] ∧ gs ≠ [] ∧
        ∃ hb pb key, canonicalBytes rt.maxStrDigits header = .ok hb ∧
          canonicalBytes rt.maxStrDigits header = .ok pb ∧ encodeUtf8 "k" = .ok key ∧
          unb64urlStr hs = some hb ∧ unb64urlStr ps = some pb ∧
          unb64urlStr gs = some (rt.hmacSha256 key (asciiBytes hs ++ [46] ++ asciiBytes ps)).val :=
  let rt : Runtime := ⟨4300, .inr (by norm_num), fun _ => none, fun _ _ => ⟨List.replicate 32 0, rfl⟩⟩
  have ⟨token, h⟩ : ∃ token, encodeToken rt "k" header = .ok token :=
    encodeToken_ok_iff.2 ⟨header_dumps_ok _, _, rfl⟩
  ⟨token, h, encodeToken_roundtrip rt "k" header token h⟩

/-- **The token's alphabet**: two `.`, and every other character URL-safe base64, so no
    `=`, `+`, `/` or white space. -/
theorem encodeToken_alphabet (rt : Runtime) (secret : PyStr) (claims : PyDict) (token : PyStr)
    (h : encodeToken rt secret claims = .ok token) :
    token.count 46 = 2 ∧ ∀ c ∈ token, c ≠ 46 → isUrlSafe c.val := by
  obtain ⟨hb, pb, key, -, -, -, rfl⟩ := encodeToken_eq_ok.1 h
  rw [intercalate_cons_cons, intercalate_cons_cons, intercalate_singleton]
  refine ⟨by simp [List.count_eq_zero.2 (dot_not_mem_segment _)], fun c hc hne => ?_⟩
  simp only [List.mem_append, List.mem_singleton] at hc
  rcases hc with hc | rfl | hc | rfl | hc
  all_goals first | exact absurd rfl hne | exact urlSafe_of_mem_segment hc

theorem encodeToken_alphabet_header :
    let rt : Runtime := ⟨4300, .inr (by norm_num), fun _ => none, fun _ _ => ⟨List.replicate 32 0, rfl⟩⟩
    ∃ token, encodeToken rt "k" header = .ok token ∧
      token.count 46 = 2 ∧ ∀ c ∈ token, c ≠ 46 → isUrlSafe c.val :=
  let rt : Runtime := ⟨4300, .inr (by norm_num), fun _ => none, fun _ _ => ⟨List.replicate 32 0, rfl⟩⟩
  have ⟨token, h⟩ : ∃ token, encodeToken rt "k" header = .ok token :=
    encodeToken_ok_iff.2 ⟨header_dumps_ok _, _, rfl⟩
  ⟨token, h, encodeToken_alphabet rt "k" header token h⟩

/-! ## A verifier -/

/-- An HS256 verifier holding `key`: it splits the token on `.`, decodes the three
    segments, and accepts when the third is the HMAC-SHA256 of the first two joined by `.`;
    it then returns the header's and the payload's bytes. -/
def verify (rt : Runtime) (key : Bytes) (token : PyStr) : Option (Bytes × Bytes) :=
  match token.splitOn 46 with
  | [hs, ps, gs] => do
    let hb ← unb64urlStr hs
    let pb ← unb64urlStr ps
    let sig ← unb64urlStr gs
    if sig = (rt.hmacSha256 key (asciiBytes hs ++ [46] ++ asciiBytes ps)).val then some (hb, pb)
    else none
  | _ => none

/-- **The verifier accepts the token**: with the key `secret.encode()` it returns exactly
    the canonical bytes of the header and of the claims that were signed. -/
theorem verify_encodeToken {rt : Runtime} {secret : PyStr} {claims : PyDict} {token : PyStr}
    (h : encodeToken rt secret claims = .ok token) :
    ∃ key hb pb, encodeUtf8 secret = .ok key ∧ canonicalBytes rt.maxStrDigits header = .ok hb ∧
      canonicalBytes rt.maxStrDigits claims = .ok pb ∧ verify rt key token = some (hb, pb) := by
  obtain ⟨hb, pb, key, hh, hp, hk, rfl⟩ := encodeToken_eq_ok.1 h
  have hsplit : ([46].intercalate [segment hb, segment pb,
      segment (rt.hmacSha256 key (b64url hb ++ [46] ++ b64url pb)).val]).splitOn 46 =
      [segment hb, segment pb, segment (rt.hmacSha256 key (b64url hb ++ [46] ++ b64url pb)).val] :=
    List.splitOn_intercalate _ _ (by
      simp only [List.mem_cons, List.not_mem_nil, or_false]
      rintro l (rfl | rfl | rfl) <;> exact dot_not_mem_segment _) (List.cons_ne_nil _ _)
  refine ⟨key, hb, pb, hk, hh, hp, ?_⟩
  rw [verify, hsplit]
  simp [unb64urlStr_segment, asciiBytes_segment]

/-- **The verifier reads the objects back**: with the key `secret.encode()`, the two byte
    strings the verifier accepts read, as UTF-8 JSON, as the header's items and the claims'
    items sorted by key, when no string of the claims holds a surrogate. -/
theorem verify_reads_objects {rt : Runtime} {secret : PyStr} {claims : PyDict} {token : PyStr}
    (hs : NoSurrogates claims.items) (h : encodeToken rt secret claims = .ok token) :
    ∃ key hb pb, encodeUtf8 secret = .ok key ∧ verify rt key token = some (hb, pb) ∧
      readObject hb = some (sortItems header.items) ∧
      readObject pb = some (sortItems claims.items) := by
  obtain ⟨key, hb, pb, hk, hh, hp, hv⟩ := verify_encodeToken h
  exact ⟨key, hb, pb, hk, hv, readObject_canonicalBytes header_noSurrogates hh,
    readObject_canonicalBytes hs hp⟩

theorem verify_reads_objects_admin :
    let rt : Runtime := ⟨4300, .inr (by norm_num), fun _ => none, fun _ _ => ⟨List.replicate 32 0, rfl⟩⟩
    let claims := adminClaims (uuid4Str 0) (uuid4Str 0) 0 3600
    ∃ token, NoSurrogates claims.items ∧ encodeToken rt "k" claims = .ok token ∧
      ∃ key hb pb, encodeUtf8 "k" = .ok key ∧ verify rt key token = some (hb, pb) ∧
        readObject hb = some (sortItems header.items) ∧
        readObject pb = some (sortItems claims.items) :=
  let rt : Runtime := ⟨4300, .inr (by norm_num), fun _ => none, fun _ _ => ⟨List.replicate 32 0, rfl⟩⟩
  have hs := adminClaims_noSurrogates (uuidStr_ascii _) (uuidStr_ascii _) 0 3600
  have ⟨token, h⟩ : ∃ token, encodeToken rt "k" (adminClaims (uuid4Str 0) (uuid4Str 0) 0 3600) =
      .ok token := encodeToken_ok_iff.2 ⟨adminClaims_dumps_ok.2
        ⟨intRepr_ok_iff.2 (.inr (by decide)), intRepr_ok_iff.2 (.inr (by decide))⟩, _, rfl⟩
  ⟨token, hs, h, verify_reads_objects hs h⟩

end DevAdminToken
