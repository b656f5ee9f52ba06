/-
  DevAdminToken formalization — `b64url` (lines 100–101): `base64.urlsafe_b64encode` with
  the trailing `=` stripped, and the decoding a verifier applies to its output.

  * `b64encode` is `base64.b64encode`, `urlsafeB64encode` translates `+/` to `-_`, and
    `rstrip` is `bytes.rstrip`; `b64url` composes them as line 101 does.
  * `b64url_eq`: `b64url` is the unpadded URL-safe encoding `encodeNoPad`, three bytes to
    four characters and a last one or two bytes to two or three.
  * `unb64url` re-appends the stripped `=` and decodes (RFC 4648 §5).
    `b64url_spec`: `b64url b` has `⌈4|b|/3⌉` characters, never `1` mod 4, and `unb64url`
    returns `b` from it; so `b64url` is injective.
-/
import DevAdminToken.Str

namespace DevAdminToken

/-! ## Encoding -/

/-- The character of a sextet `i < 64` in the standard alphabet `A–Z a–z 0–9 + /`. -/
def b64Char (i : Nat) : UInt8 :=
  (if i < 26 then 65 + i else if i < 52 then 71 + i else if i < 62 then i - 4
    else if i = 62 then 43 else 47).toUInt8

/-- `=`. -/
def padChar : UInt8 := 61

/-- `base64.b64encode` (`binascii.b2a_base64(s, newline=False)`): three bytes to four
    characters; a last one or two bytes to two or three, padded with `=` to four. -/
def b64encode : Bytes → Bytes
  | [] => []
  | [a] => [b64Char (a.toNat / 4), b64Char (a.toNat % 4 * 16), padChar, padChar]
  | [a, b] =>
    [b64Char (a.toNat / 4), b64Char (a.toNat % 4 * 16 + b.toNat / 16),
      b64Char (b.toNat % 16 * 4), padChar]
  | a :: b :: c :: rest =>
    [b64Char (a.toNat / 4), b64Char (a.toNat % 4 * 16 + b.toNat / 16),
      b64Char (b.toNat % 16 * 4 + c.toNat / 64), b64Char (c.toNat % 64)] ++ b64encode rest

/-- `bytes.maketrans(b'+/', b'-_')`, the translation of `urlsafe_b64encode`. -/
def urlsafeChar (c : UInt8) : UInt8 := if c = 43 then 45 else if c = 47 then 95 else c

/-- `base64.urlsafe_b64encode`. -/
def urlsafeB64encode (s : Bytes) : Bytes := (b64encode s).map urlsafeChar

/-- `bytes.rstrip` of one character. -/
def rstrip (c : UInt8) (bs : Bytes) : Bytes := (bs.reverse.dropWhile (· == c)).reverse

/-- `b64url` (lines 100–101). -/
def b64url (data : Bytes) : Bytes := rstrip padChar (urlsafeB64encode data)

/-! ## Decoding -/

/-- The sextet of a character of the standard alphabet. -/
def b64Index (c : UInt8) : Option Nat :=
  let n := c.toNat
  if 65 ≤ n ∧ n ≤ 90 then some (n - 65)
  else if 97 ≤ n ∧ n ≤ 122 then some (n - 71)
  else if 48 ≤ n ∧ n ≤ 57 then some (n + 4)
  else if n = 43 then some 62
  else if n = 47 then some 63
  else none

/-- Standard base64 decoding of padded text (RFC 4648 §4). -/
def b64decode : Bytes → Option Bytes
  | [] => some []
  | c0 :: c1 :: c2 :: c3 :: rest => do
    let i0 ← b64Index c0
    let i1 ← b64Index c1
    if c2 = padChar then
      if c3 = padChar ∧ rest = [] then some [(i0 * 4 + i1 / 16).toUInt8] else none
    else
      let i2 ← b64Index c2
      if c3 = padChar then
        if rest = [] then some [(i0 * 4 + i1 / 16).toUInt8, (i1 % 16 * 16 + i2 / 4).toUInt8]
        else none
      else
        let i3 ← b64Index c3
        let r ← b64decode rest
        some ([(i0 * 4 + i1 / 16).toUInt8, (i1 % 16 * 16 + i2 / 4).toUInt8,
          (i2 % 4 * 64 + i3).toUInt8] ++ r)
  | _ => none

/-- The translation `-_` to `+/` of `urlsafe_b64decode`. -/
def standardChar (c : UInt8) : UInt8 := if c = 45 then 43 else if c = 95 then 47 else c

/-- `base64.urlsafe_b64decode` on padded text. -/
def urlsafeB64decode (s : Bytes) : Option Bytes := b64decode (s.map standardChar)

/-- A verifier's decoding of a segment: re-append the `=` stripped from it
    (`-len mod 4` of them), then decode. -/
def unb64url (s : Bytes) : Option Bytes :=
  urlsafeB64decode (s ++ List.replicate ((4 - s.length % 4) % 4) padChar)

/-- The URL-safe alphabet `A–Z a–z 0–9 - _`. -/
def isUrlSafe (c : Nat) : Bool :=
  (65 ≤ c && c ≤ 90) || (97 ≤ c && c ≤ 122) || (48 ≤ c && c ≤ 57) || c == 45 || c == 95

/-! ## The alphabet -/

theorem b64Char_spec_fin : ∀ i : Fin 64,
    b64Index (b64Char i.val) = some i.val ∧ b64Char i.val ≠ padChar ∧
      urlsafeChar (b64Char i.val) ≠ padChar ∧
      standardChar (urlsafeChar (b64Char i.val)) = b64Char i.val ∧
      isUrlSafe (urlsafeChar (b64Char i.val)).toNat := by
  decide

theorem b64Char_spec {i : Nat} (hi : i < 64) :
    b64Index (b64Char i) = some i ∧ b64Char i ≠ padChar ∧ urlsafeChar (b64Char i) ≠ padChar ∧
      standardChar (urlsafeChar (b64Char i)) = b64Char i ∧
      isUrlSafe (urlsafeChar (b64Char i)).toNat :=
  b64Char_spec_fin ⟨i, hi⟩

/-- A sextet's character. -/
def IsB64Char (x : UInt8) : Prop := ∃ i < 64, x = b64Char i

theorem IsB64Char.index {x : UInt8} (h : IsB64Char x) : ∃ i < 64, b64Index x = some i ∧
    x ≠ padChar ∧ urlsafeChar x ≠ padChar ∧ standardChar (urlsafeChar x) = x ∧
      isUrlSafe (urlsafeChar x).toNat := by
  obtain ⟨i, hi, rfl⟩ := h
  exact ⟨i, hi, b64Char_spec hi⟩

theorem toUInt8_eq_iff {n : Nat} {a : UInt8} : n.toUInt8 = a ↔ n % 256 = a.toNat :=
  ⟨by rintro rfl; rfl, fun h => UInt8.toNat.inj h⟩

theorem toNat_lt (a : UInt8) : a.toNat < 256 := a.toNat_lt_size

/-! ## `b64url` is the unpadded encoding -/

/-- The unpadded standard encoding: three bytes to four characters, a last one or two
    bytes to two or three. -/
def encodeNoPad : Bytes → Bytes
  | [] => []
  | [a] => [b64Char (a.toNat / 4), b64Char (a.toNat % 4 * 16)]
  | [a, b] =>
    [b64Char (a.toNat / 4), b64Char (a.toNat % 4 * 16 + b.toNat / 16), b64Char (b.toNat % 16 * 4)]
  | a :: b :: c :: rest =>
    [b64Char (a.toNat / 4), b64Char (a.toNat % 4 * 16 + b.toNat / 16),
      b64Char (b.toNat % 16 * 4 + c.toNat / 64), b64Char (c.toNat % 64)] ++ encodeNoPad rest

theorem b64encode_eq (s : Bytes) :
    b64encode s = encodeNoPad s ++ List.replicate ((3 - s.length % 3) % 3) padChar := by
  induction s using b64encode.induct with
  | case1 => rfl
  | case2 a => rfl
  | case3 a b => rfl
  | case4 a b c rest ih =>
    simp only [b64encode, encodeNoPad, ih, List.cons_append, List.nil_append, List.length_cons]
    congr 6; omega

theorem encodeNoPad_chars (s : Bytes) : ∀ x ∈ encodeNoPad s, IsB64Char x := by
  induction s using encodeNoPad.induct with
  | case1 => simp [encodeNoPad]
  | case2 a =>
    have := toNat_lt a
    simp only [encodeNoPad, List.mem_cons, List.not_mem_nil, or_false]
    rintro x (rfl | rfl) <;> exact ⟨_, by omega, rfl⟩
  | case3 a b =>
    have := toNat_lt a; have := toNat_lt b
    simp only [encodeNoPad, List.mem_cons, List.not_mem_nil, or_false]
    rintro x (rfl | rfl | rfl) <;> exact ⟨_, by omega, rfl⟩
  | case4 a b c rest ih =>
    have := toNat_lt a; have := toNat_lt b; have := toNat_lt c
    simp only [encodeNoPad, List.cons_append, List.nil_append, List.mem_cons]
    rintro x (rfl | rfl | rfl | rfl | hx)
    iterate 4 exact ⟨_, by omega, rfl⟩
    exact ih x hx

theorem encodeNoPad_length (s : Bytes) : (encodeNoPad s).length = (4 * s.length + 2) / 3 := by
  induction s using encodeNoPad.induct with
  | case1 | case2 | case3 => simp [encodeNoPad]
  | case4 a b c rest ih => simp [encodeNoPad, ih]; omega

theorem rstrip_append_replicate {c : UInt8} {xs : Bytes} (h : ∀ x ∈ xs, x ≠ c) (n : Nat) :
    rstrip c (xs ++ List.replicate n c) = xs := by
  have hd : (xs.reverse.dropWhile (· == c)) = xs.reverse := by
    cases hx : xs.reverse with
    | nil => rfl
    | cons y ys =>
      have : (y == c) = false := by
        simpa using h y (List.mem_reverse.1 (hx ▸ List.mem_cons_self y ys))
      simp [List.dropWhile, this]
  simp [rstrip, List.reverse_append, List.dropWhile_append, hd]

theorem b64url_eq (s : Bytes) : b64url s = (encodeNoPad s).map urlsafeChar := by
  have hne : ∀ x ∈ (encodeNoPad s).map urlsafeChar, x ≠ padChar := by
    simp only [List.mem_map]
    rintro _ ⟨x, hx, rfl⟩
    exact (encodeNoPad_chars s x hx).index.choose_spec.2.2.2.1
  rw [b64url, urlsafeB64encode, b64encode_eq, List.map_append, List.map_replicate,
    show urlsafeChar padChar = padChar by decide, rstrip_append_replicate hne]

theorem b64url_length (s : Bytes) : (b64url s).length = (4 * s.length + 2) / 3 := by
  rw [b64url_eq, List.length_map, encodeNoPad_length]

/-- `b64url` writes only the URL-safe alphabet. -/
theorem b64url_urlSafe (s : Bytes) : ∀ x ∈ b64url s, isUrlSafe x.toNat := by
  rw [b64url_eq]
  simp only [List.mem_map]
  rintro _ ⟨x, hx, rfl⟩
  obtain ⟨_, -, -, -, -, -, h⟩ := (encodeNoPad_chars s x hx).index
  exact h

theorem isUrlSafe_lt {c : Nat} (h : isUrlSafe c) : c < 0x80 := by
  simp only [isUrlSafe, Bool.or_eq_true, Bool.and_eq_true, decide_eq_true_eq, beq_iff_eq] at h
  omega

/-! ## Decoding inverts `b64url` -/

theorem b64decode_b64encode (s : Bytes) : b64decode (b64encode s) = some s := by
  induction s using b64encode.induct with
  | case1 => rfl
  | case2 a =>
    have := toNat_lt a
    obtain ⟨h0, -⟩ := b64Char_spec (i := a.toNat / 4) (by omega)
    obtain ⟨h1, -⟩ := b64Char_spec (i := a.toNat % 4 * 16) (by omega)
    simp [b64encode, b64decode, h0, h1, toUInt8_eq_iff]; omega
  | case3 a b =>
    have := toNat_lt a; have := toNat_lt b
    obtain ⟨h0, -⟩ := b64Char_spec (i := a.toNat / 4) (by omega)
    obtain ⟨h1, -⟩ := b64Char_spec (i := a.toNat % 4 * 16 + b.toNat / 16) (by omega)
    obtain ⟨h2, hp2, -⟩ := b64Char_spec (i := b.toNat % 16 * 4) (by omega)
    simp [b64encode, b64decode, h0, h1, h2, hp2, toUInt8_eq_iff]; omega
  | case4 a b c rest ih =>
    have := toNat_lt a; have := toNat_lt b; have := toNat_lt c
    obtain ⟨h0, -⟩ := b64Char_spec (i := a.toNat / 4) (by omega)
    obtain ⟨h1, -⟩ := b64Char_spec (i := a.toNat % 4 * 16 + b.toNat / 16) (by omega)
    obtain ⟨h2, hp2, -⟩ := b64Char_spec (i := b.toNat % 16 * 4 + c.toNat / 64) (by omega)
    obtain ⟨h3, hp3, -⟩ := b64Char_spec (i := c.toNat % 64) (by omega)
    simp [b64encode, b64decode, h0, h1, h2, hp2, h3, hp3, ih, toUInt8_eq_iff]; omega

theorem pad_count (n : Nat) : (4 - (4 * n + 2) / 3 % 4) % 4 = (3 - n % 3) % 3 := by
  have h := Nat.mod_lt n (show 3 > 0 by norm_num)
  interval_cases hr : n % 3 <;> omega

theorem unb64url_b64url (s : Bytes) : unb64url (b64url s) = some s := by
  have hlen := encodeNoPad_length s
  have hmap : ((encodeNoPad s).map urlsafeChar).map standardChar = encodeNoPad s := by
    rw [List.map_map]
    exact (List.map_congr_left fun x hx =>
      (encodeNoPad_chars s x hx).index.choose_spec.2.2.2.2.1).trans (List.map_id _)
  rw [unb64url, urlsafeB64decode, b64url_eq, List.map_append, hmap, List.map_replicate,
    show standardChar padChar = padChar by decide, List.length_map, hlen,
    pad_count,
    ← b64encode_eq, b64decode_b64encode]

/-- **`b64url` loses nothing**: its output has `⌈4|b|/3⌉` characters, never `1` mod 4,
    and re-padding and decoding it returns `b`; hence `b64url` is injective. -/
theorem b64url_spec (b : Bytes) :
    (b64url b).length = (4 * b.length + 2) / 3 ∧ (b64url b).length % 4 ≠ 1 ∧
      urlsafeB64decode (b64url b ++ List.replicate ((4 - (b64url b).length % 4) % 4) padChar)
        = some b ∧
      ∀ b', b64url b' = b64url b → b' = b := by
  have hlen := b64url_length b
  refine ⟨hlen, by omega, unb64url_b64url b, fun b' h => ?_⟩
  have := unb64url_b64url b'
  rwa [h, unb64url_b64url, Option.some_inj, eq_comm] at this

end DevAdminToken
