/-
  DevAdminToken formalization — the Python values `scripts/dev_admin_token.py` works on.

  * A `str` is a list of code points (`PyStr`), lone surrogates included: `os.environ`
    decodes bytes that are not UTF-8 to them.  A `bytes` object is a list of `UInt8`.
  * `PyExc`: the exceptions that can reach `main`; `PyExc.isValueError` is what
    `except ValueError` catches.
  * `encodeUtf8` is `str.encode()` and `decodeUtf8` is `bytes.decode()`, both strict UTF-8;
    on ASCII text they only change the type (`encodeUtf8_ascii`, `decodeUtf8_ascii`), and
    decoding inverts encoding (`encodeUtf8_roundtrip`).
  * `strLe` is `<=` on `str`, the order in which `sorted` puts the keys of an object.
  * `OutErrors.prints`: whether `print` writes a text to `sys.stdout` or raises
    `UnicodeEncodeError`, under the error handler the locale gives it.
-/
import Mathlib.Data.List.Basic
import Mathlib.Order.Fin.Basic
import Mathlib.Tactic.IntervalCases

namespace DevAdminToken

/-- A code point of a Python `str`. -/
abbrev CodePoint := Fin 0x110000

/-- A Python `str`. -/
abbrev PyStr := List CodePoint

/-- A Python `bytes` object. -/
abbrev Bytes := List UInt8

theorem toNat_lt_codePoints (c : Char) : c.toNat < 0x110000 := by
  rcases c.valid with h | h <;> simp only [Char.toNat] <;> omega

/-- A string literal of the source as a Python `str`. -/
def PyStr.ofString (s : String) : PyStr :=
  s.toList.map fun c => ⟨c.toNat, toNat_lt_codePoints c⟩

instance : Coe String PyStr := ⟨PyStr.ofString⟩

/-- The code point of an ASCII byte. -/
def asciiChar (b : UInt8) : CodePoint :=
  ⟨b.toNat, by have : b.toNat < 256 := b.toNat_lt_size; omega⟩

/-! ## Exceptions -/

/-- The exceptions that can be raised on the way through `main`. -/
inductive PyExc
  /-- `open` on a path that does not exist. -/
  | fileNotFoundError
  /-- Any other `OSError` of `open` or of reading: a directory, no read permission. -/
  | osError
  /-- `tomllib.TOMLDecodeError`, or the `UnicodeDecodeError` of `tomllib.load` on bytes
      that are not UTF-8. -/
  | tomlDecodeError
  /-- `UnicodeEncodeError` of `str.encode()` on a lone surrogate. -/
  | unicodeEncodeError
  /-- `UnicodeDecodeError` of `bytes.decode()`. -/
  | unicodeDecodeError
  /-- `ValueError` of `int()` on a malformed literal, and of a conversion between `int` and
      `str` past `sys.get_int_max_str_digits()`. -/
  | valueError
  deriving DecidableEq, Repr

/-- Whether `except ValueError` catches the exception: all but the `OSError`s. -/
def PyExc.isValueError : PyExc → Bool
  | .fileNotFoundError | .osError => false
  | _ => true

/-! ## `Except` -/

section
variable {ε α β : Type} {x : Except ε α}

instance instDecidableEqExcept [DecidableEq ε] [DecidableEq α] : DecidableEq (Except ε α)
  | .ok a, .ok b => decidable_of_iff (a = b) (by simp)
  | .error a, .error b => decidable_of_iff (a = b) (by simp)
  | .ok _, .error _ => isFalse (by simp)
  | .error _, .ok _ => isFalse (by simp)

@[simp] theorem except_map_eq_ok {f : α → β} {b : β} :
    f <$> x = .ok b ↔ ∃ a, x = .ok a ∧ f a = b := by
  cases x <;> simp [Functor.map, Except.map]

@[simp] theorem except_bind_eq_ok {f : α → Except ε β} {b : β} :
    x >>= f = .ok b ↔ ∃ a, x = .ok a ∧ f a = .ok b := by
  cases x <;> simp [bind, Except.bind]

end

/-! ## UTF-8 -/

/-- The UTF-8 bytes of one code point; a lone surrogate raises. -/
def encodeChar (c : CodePoint) : Except PyExc Bytes :=
  let n := c.val
  if n < 0x80 then .ok [n.toUInt8]
  else if n < 0x800 then .ok [(0xC0 + n / 64).toUInt8, (0x80 + n % 64).toUInt8]
  else if n < 0x10000 then
    if 0xD800 ≤ n ∧ n < 0xE000 then .error .unicodeEncodeError
    else .ok [(0xE0 + n / 4096).toUInt8, (0x80 + n / 64 % 64).toUInt8, (0x80 + n % 64).toUInt8]
  else .ok [(0xF0 + n / 262144).toUInt8, (0x80 + n / 4096 % 64).toUInt8,
    (0x80 + n / 64 % 64).toUInt8, (0x80 + n % 64).toUInt8]

/-- `str.encode()`: UTF-8, strict. -/
def encodeUtf8 : PyStr → Except PyExc Bytes
  | [] => .ok []
  | c :: s => do
    let b ← encodeChar c
    let r ← encodeUtf8 s
    pure (b ++ r)

/-- A lead byte of UTF-8 (RFC 3629 §4): the continuation bytes it announces, the range of
    the first of them, and the bits it carries. -/
def utf8Lead (b : Nat) : Option (Nat × Nat × Nat × Nat) :=
  if b < 0x80 then some (0, 0x80, 0xBF, b)
  else if b < 0xC2 then none
  else if b < 0xE0 then some (1, 0x80, 0xBF, b - 0xC0)
  else if b = 0xE0 then some (2, 0xA0, 0xBF, 0)
  else if b = 0xED then some (2, 0x80, 0x9F, 0xD)
  else if b < 0xF0 then some (2, 0x80, 0xBF, b - 0xE0)
  else if b = 0xF0 then some (3, 0x90, 0xBF, 0)
  else if b < 0xF4 then some (3, 0x80, 0xBF, b - 0xF0)
  else if b = 0xF4 then some (3, 0x80, 0x8F, 4)
  else none

/-- Decoding with `k` continuation bytes owed, the next one in `lo..hi`, and the bits `v`
    of the code point read so far. -/
def decodeFrom : (k lo hi v : Nat) → Bytes → Except PyExc PyStr
  | 0, _, _, _, [] => .ok []
  | _ + 1, _, _, _, [] => .error .unicodeDecodeError
  | 0, _, _, _, b :: bs =>
    match utf8Lead b.toNat with
    | some (0, _, _, v) =>
      if h : v < 0x110000 then (⟨v, h⟩ :: ·) <$> decodeFrom 0 0 0 0 bs
      else .error .unicodeDecodeError
    | some (k + 1, lo, hi, v) => decodeFrom (k + 1) lo hi v bs
    | none => .error .unicodeDecodeError
  | k + 1, lo, hi, v, b :: bs =>
    if lo ≤ b.toNat ∧ b.toNat ≤ hi then
      let v' := v * 64 + (b.toNat - 0x80)
      match k with
      | 0 =>
        if h : v' < 0x110000 then (⟨v', h⟩ :: ·) <$> decodeFrom 0 0 0 0 bs
        else .error .unicodeDecodeError
      | k + 1 => decodeFrom (k + 1) 0x80 0xBF v' bs
    else .error .unicodeDecodeError

/-- `bytes.decode()`: UTF-8, strict. -/
def decodeUtf8 (bs : Bytes) : Except PyExc PyStr := decodeFrom 0 0 0 0 bs

/-- ASCII text: every code point below 0x80. -/
def IsAscii (s : PyStr) : Prop := ∀ c ∈ s, c.val < 0x80

instance : DecidablePred IsAscii := fun s =>
  decidable_of_iff (s.all fun c => c.val < 0x80) (by simp [IsAscii])

theorem encodeChar_ascii {c : CodePoint} (h : c.val < 0x80) :
    encodeChar c = .ok [c.val.toUInt8] := by
  simp [encodeChar, h]

theorem encodeUtf8_ascii : ∀ {s : PyStr}, IsAscii s →
    encodeUtf8 s = .ok (s.map fun c => c.val.toUInt8)
  | [], _ => rfl
  | c :: s, h => by
    have hs : IsAscii s := fun d hd => h d (List.mem_cons_of_mem c hd)
    simp [encodeUtf8, encodeChar_ascii (h c (List.mem_cons_self c s)), encodeUtf8_ascii hs]

theorem encodeChar_ne_nil {c : CodePoint} {b : Bytes} (h : encodeChar c = .ok b) : b ≠ [] := by
  dsimp only [encodeChar] at h; split_ifs at h <;> cases h <;> simp

/-- The bytes of a non-empty text are not empty. -/
theorem encodeUtf8_ne_nil {s : PyStr} {b : Bytes} (hs : s ≠ []) (h : encodeUtf8 s = .ok b) :
    b ≠ [] := by
  cases s with
  | nil => exact absurd rfl hs
  | cons c s =>
    simp only [encodeUtf8, except_bind_eq_ok] at h
    obtain ⟨bc, hc, r, -, h⟩ := h
    cases h
    simp [encodeChar_ne_nil hc]

theorem decodeUtf8_ascii : ∀ {bs : Bytes}, (∀ b ∈ bs, b.toNat < 0x80) →
    decodeUtf8 bs = .ok (bs.map asciiChar)
  | [], _ => rfl
  | b :: bs, h => by
    have hb : b.toNat < 0x80 := h b (List.mem_cons_self b bs)
    have ih := decodeUtf8_ascii fun c hc => h c (List.mem_cons_of_mem b hc)
    simp only [decodeUtf8] at ih
    simp [decodeUtf8, decodeFrom, utf8Lead, hb, ih, asciiChar, show b.toNat < 0x110000 by omega]

/-! ## UTF-8 round trip -/

theorem toNat_toUInt8 (n : Nat) : n.toUInt8.toNat = n % 256 := rfl

theorem toNat_toUInt8_of_lt {n : Nat} (h : n < 256) : n.toUInt8.toNat = n := by
  rw [toNat_toUInt8, Nat.mod_eq_of_lt h]

theorem utf8Lead_one {b : Nat} (h : b < 0x80) : utf8Lead b = some (0, 0x80, 0xBF, b) := by
  simp [utf8Lead, h]

theorem utf8Lead_two {b : Nat} (h₁ : 0xC2 ≤ b) (h₂ : b < 0xE0) :
    utf8Lead b = some (1, 0x80, 0xBF, b - 0xC0) := by
  unfold utf8Lead
  rw [if_neg (by omega), if_neg (by omega), if_pos h₂]

theorem utf8Lead_three {b : Nat} (h₁ : 0xE0 ≤ b) (h₂ : b < 0xF0) :
    utf8Lead b = some (2, if b = 0xE0 then 0xA0 else 0x80, if b = 0xED then 0x9F else 0xBF,
      b - 0xE0) := by
  interval_cases b <;> rfl

theorem utf8Lead_four {b : Nat} (h₁ : 0xF0 ≤ b) (h₂ : b ≤ 0xF4) :
    utf8Lead b = some (3, if b = 0xF0 then 0x90 else 0x80, if b = 0xF4 then 0x8F else 0xBF,
      b - 0xF0) := by
  interval_cases b <;> rfl

section
variable {b : UInt8} {bs : Bytes} {k lo hi v : Nat} {c : CodePoint}

theorem decodeFrom_single (h : utf8Lead b.toNat = some (0, lo, hi, c.val)) :
    decodeFrom 0 0 0 0 (b :: bs) = (c :: ·) <$> decodeFrom 0 0 0 0 bs := by
  simp only [decodeFrom, h, dif_pos c.isLt]

theorem decodeFrom_lead (h : utf8Lead b.toNat = some (k + 1, lo, hi, v)) :
    decodeFrom 0 0 0 0 (b :: bs) = decodeFrom (k + 1) lo hi v bs := by
  simp only [decodeFrom, h]

theorem decodeFrom_next (hb : lo ≤ b.toNat ∧ b.toNat ≤ hi) :
    decodeFrom (k + 2) lo hi v (b :: bs) =
      decodeFrom (k + 1) 0x80 0xBF (v * 64 + (b.toNat - 0x80)) bs := by
  simp only [decodeFrom, if_pos hb]

theorem decodeFrom_last (hb : lo ≤ b.toNat ∧ b.toNat ≤ hi)
    (hc : c.val = v * 64 + (b.toNat - 0x80)) :
    decodeFrom 1 lo hi v (b :: bs) = (c :: ·) <$> decodeFrom 0 0 0 0 bs := by
  rw [decodeFrom, if_pos hb]
  dsimp only
  rw [dif_pos (hc ▸ c.isLt)]
  have : (⟨v * 64 + (b.toNat - 0x80), hc ▸ c.isLt⟩ : CodePoint) = c := Fin.ext hc.symm
  rw [this]

end

/-- Decoding the bytes of one code point gives it back. -/
theorem decodeFrom_encodeChar {c : CodePoint} {b : Bytes} (h : encodeChar c = .ok b)
    (rest : Bytes) : decodeFrom 0 0 0 0 (b ++ rest) = (c :: ·) <$> decodeFrom 0 0 0 0 rest := by
  have hc := c.isLt
  dsimp only [encodeChar] at h
  split_ifs at h with h1 h2 h3 h4 <;> cases h <;> simp only [List.cons_append, List.nil_append]
  · exact decodeFrom_single (by rw [toNat_toUInt8_of_lt (by omega)]; exact utf8Lead_one h1)
  · rw [decodeFrom_lead
        (by rw [toNat_toUInt8_of_lt (by omega)]; exact utf8Lead_two (by omega) (by omega)),
      decodeFrom_last (c := c) (by simp (disch := omega) only [toNat_toUInt8_of_lt]; omega)
        (by simp (disch := omega) only [toNat_toUInt8_of_lt]; omega)]
  · rw [decodeFrom_lead
        (by rw [toNat_toUInt8_of_lt (by omega)]; exact utf8Lead_three (by omega) (by omega)),
      decodeFrom_next (by simp (disch := omega) only [toNat_toUInt8_of_lt]; split_ifs <;> omega),
      decodeFrom_last (c := c) (by simp (disch := omega) only [toNat_toUInt8_of_lt]; omega)
        (by simp (disch := omega) only [toNat_toUInt8_of_lt]; omega)]
  · rw [decodeFrom_lead
        (by rw [toNat_toUInt8_of_lt (by omega)]; exact utf8Lead_four (by omega) (by omega)),
      decodeFrom_next (by simp (disch := omega) only [toNat_toUInt8_of_lt]; split_ifs <;> omega),
      decodeFrom_next (by simp (disch := omega) only [toNat_toUInt8_of_lt]; omega),
      decodeFrom_last (c := c) (by simp (disch := omega) only [toNat_toUInt8_of_lt]; omega)
        (by simp (disch := omega) only [toNat_toUInt8_of_lt]; omega)]

theorem encodeChar_ok_iff {c : CodePoint} :
    (∃ b, encodeChar c = .ok b) ↔ ¬(0xD800 ≤ c.val ∧ c.val < 0xE000) := by
  dsimp only [encodeChar]
  split_ifs <;> simp <;> omega

/-- **`str.encode()` and `bytes.decode()`**: encoding raises exactly on a lone surrogate, and
    decoding the bytes gives the text back; so two texts that encode have the same bytes
    only if they are equal. -/
theorem encodeUtf8_roundtrip (s : PyStr) :
    ((∃ b, encodeUtf8 s = .ok b) ↔ ∀ c ∈ s, ¬(0xD800 ≤ c.val ∧ c.val < 0xE000)) ∧
      ∀ b, encodeUtf8 s = .ok b → decodeUtf8 b = .ok s := by
  induction s with
  | nil => exact ⟨by simp [encodeUtf8], fun b h => by cases h; rfl⟩
  | cons c s ih =>
    refine ⟨?_, fun b h => ?_⟩
    · rw [List.forall_mem_cons, ← ih.1, ← encodeChar_ok_iff]
      simp only [encodeUtf8]
      cases encodeChar c <;> cases encodeUtf8 s <;> simp [bind, Except.bind, pure, Except.pure]
    · simp only [encodeUtf8, except_bind_eq_ok] at h
      obtain ⟨bc, hc, r, hr, h⟩ := h
      cases h
      rw [decodeUtf8, decodeFrom_encodeChar hc, ← decodeUtf8, ih.2 r hr]
      rfl

/-! ## Comparison -/

/-- `a <= b` on `str` (`unicode_compare`): code point by code point, a proper prefix
    first. -/
def strLe : PyStr → PyStr → Bool
  | [], _ => true
  | _ :: _, [] => false
  | c :: s, d :: t => c < d || (c == d && strLe s t)

theorem strLe_total : ∀ a b : PyStr, strLe a b || strLe b a
  | [], _ => by simp [strLe]
  | _ :: _, [] => by simp [strLe]
  | c :: s, d :: t => by
    have := strLe_total s t
    rcases lt_trichotomy c d with h | rfl | h <;> simp_all [strLe]

theorem strLe_trans : ∀ {a b c : PyStr}, strLe a b → strLe b c → strLe a c
  | [], _, _, _, _ => by simp [strLe]
  | _ :: _, [], _, h, _ => by simp [strLe] at h
  | _ :: _, _ :: _, [], _, h => by simp [strLe] at h
  | x :: s, y :: t, z :: u, h₁, h₂ => by
    simp only [strLe, Bool.or_eq_true, decide_eq_true_eq, Bool.and_eq_true, beq_iff_eq] at *
    rcases h₁ with h₁ | ⟨rfl, h₁⟩ <;> rcases h₂ with h₂ | ⟨rfl, h₂⟩
    · exact .inl (h₁.trans h₂)
    · exact .inl h₁
    · exact .inl h₂
    · exact .inr ⟨rfl, strLe_trans h₁ h₂⟩

theorem strLe_antisymm : ∀ {a b : PyStr}, strLe a b → strLe b a → a = b
  | [], [], _, _ => rfl
  | [], _ :: _, _, h => by simp [strLe] at h
  | _ :: _, [], h, _ => by simp [strLe] at h
  | c :: s, d :: t, h₁, h₂ => by
    simp only [strLe, Bool.or_eq_true, decide_eq_true_eq, Bool.and_eq_true, beq_iff_eq] at *
    rcases h₁ with h₁ | ⟨rfl, h₁⟩
    · rcases h₂ with h₂ | ⟨rfl, _⟩
      · exact absurd (h₁.trans h₂) (lt_irrefl c)
      · exact absurd h₁ (lt_irrefl _)
    · rcases h₂ with h₂ | ⟨-, h₂⟩
      · exact absurd h₂ (lt_irrefl c)
      · rw [strLe_antisymm h₁ h₂]

/-! ## `print` -/

/-- The error handler of `sys.stdout`'s UTF-8 encoder: `strict` under a UTF-8 locale,
    `surrogateescape` under the C or POSIX locale. -/
inductive OutErrors
  | strict
  | surrogateescape
  deriving DecidableEq, Repr

/-- Whether `sys.stdout` writes a code point: a surrogate raises `UnicodeEncodeError`, except
    under `surrogateescape` one of `U+DC80` to `U+DCFF`, which is the byte it stands for. -/
def OutErrors.writes : OutErrors → CodePoint → Bool
  | .strict, c => !decide (0xD800 ≤ c.val ∧ c.val < 0xE000)
  | .surrogateescape, c =>
    !decide (0xD800 ≤ c.val ∧ c.val < 0xE000) || decide (0xDC80 ≤ c.val ∧ c.val < 0xDD00)

/-- Whether `print` writes a text, rather than raising `UnicodeEncodeError`. -/
def OutErrors.prints (out : OutErrors) (s : PyStr) : Bool := s.all out.writes

/-- Text with no surrogate prints under either handler. -/
theorem OutErrors.prints_of_lt {out : OutErrors} {s : PyStr}
    (h : ∀ c ∈ s, ¬(0xD800 ≤ c.val ∧ c.val < 0xE000)) : out.prints s := by
  refine List.all_eq_true.2 fun c hc => ?_
  cases out <;> simp [OutErrors.writes, h c hc]

/-- A string literal of the source prints: a Lean `Char` is never a surrogate. -/
theorem OutErrors.prints_ofString (out : OutErrors) (s : String) :
    out.prints (PyStr.ofString s) := by
  refine OutErrors.prints_of_lt fun c hc => ?_
  obtain ⟨ch, -, rfl⟩ := List.mem_map.1 hc
  rcases ch.valid with h | h <;> simp only [Char.toNat] <;> omega

end DevAdminToken
