/-
  DevAdminToken formalization — `int()` of a `str` and `str()` of an `int`, as CPython
  computes them, and what the model leaves to the interpreter.

  * `pyInt` is `int(s)`: other Unicode white space and decimal digits are first mapped to
    ASCII, then white space, a sign, digits grouped by single underscores, white space.
  * `intRepr` is `str(n)`.  Both raise `ValueError` past `sys.get_int_max_str_digits()`.
  * `Runtime`: the digit limit, the Unicode decimal digits, and HMAC-SHA256.
  * `intRepr_ok_of_pyInt`: what `int()` accepts, `str()` prints back; `pyInt_intRepr`:
    and `int()` reads back what `str()` prints.
-/
import DevAdminToken.Str
import Mathlib.Data.Nat.Digits

namespace DevAdminToken

/-- `Py_ISSPACE`: the ASCII white space `int()` skips around the digits. -/
def isAsciiSpace (c : Nat) : Bool := c == 0x20 || (0x09 ≤ c && c ≤ 0x0D)

/-- `Py_UNICODE_ISSPACE` above ASCII (`_PyUnicode_IsWhitespace`). -/
def isUnicodeSpace (c : Nat) : Bool :=
  c == 0x85 || c == 0xA0 || c == 0x1680 || (0x2000 ≤ c && c ≤ 0x200A) || c == 0x2028 ||
    c == 0x2029 || c == 0x202F || c == 0x205F || c == 0x3000

/-- `_PyUnicode_TransformDecimalAndSpaceToASCII`: code points below 127 are kept, other
    white space becomes a space and other decimal digits their ASCII digit; at any other
    code point the text ends with `?`. -/
def toAsciiDigits (decimal : CodePoint → Option (Fin 10)) : PyStr → List Nat
  | [] => []
  | c :: s =>
    if c.val < 127 then c.val :: toAsciiDigits decimal s
    else if isUnicodeSpace c.val then 0x20 :: toAsciiDigits decimal s
    else match decimal c with
      | some d => (0x30 + d.val) :: toAsciiDigits decimal s
      | none => [0x3F]

/-- An ASCII digit. -/
def isDigit (c : Nat) : Bool := 0x30 ≤ c && c ≤ 0x39

/-- What the scan of `long_from_string_base` runs over: digits and underscores. -/
def isDigitOrUnderscore (c : Nat) : Bool := isDigit c || c == 0x5F

/-- The value of a run of ASCII digits. -/
def digitsValue (ds : List Nat) : Nat := ds.foldl (fun n d => 10 * n + (d - 0x30)) 0

/-- `long_from_string_base` in base 10: groups of digits joined by single underscores
    (none leading, trailing or doubled), then only white space; more digits than
    `maxDigits` (unless it is 0) raise too. -/
def parseDigits (maxDigits : Nat) (s : List Nat) : Except PyExc Nat :=
  let body := s.takeWhile isDigitOrUnderscore
  let digits := body.filter isDigit
  if (body.splitOn 0x5F).all (· ≠ []) && (s.dropWhile isDigitOrUnderscore).all isAsciiSpace then
    if 0 < maxDigits ∧ maxDigits < digits.length then .error .valueError
    else .ok (digitsValue digits)
  else .error .valueError

/-- `PyLong_FromString` in base 10: white space, an optional sign, then the digits. -/
def parseInt (maxDigits : Nat) (s : List Nat) : Except PyExc Int :=
  match s.dropWhile isAsciiSpace with
  | 0x2D :: t => (fun n : Nat => -(n : Int)) <$> parseDigits maxDigits t
  | 0x2B :: t => (fun n : Nat => (n : Int)) <$> parseDigits maxDigits t
  | t => (fun n : Nat => (n : Int)) <$> parseDigits maxDigits t

/-- `str(n)` of an `int`: a `-` for a negative `n`, then its decimal digits; more digits
    than `maxDigits` (unless it is 0) raise `ValueError`. -/
def intRepr (maxDigits : Nat) (n : Int) : Except PyExc PyStr :=
  let digits := Nat.repr n.natAbs
  if 0 < maxDigits ∧ maxDigits < digits.length then .error .valueError
  else .ok (if n < 0 then ("-" : PyStr) ++ digits else digits)

/-! ## The runtime -/

/-- A digest of HMAC-SHA256: 32 bytes. -/
abbrev Digest := {d : Bytes // d.length = 32}

/-- What the model leaves to the interpreter and its libraries. -/
structure Runtime where
  /-- `sys.get_int_max_str_digits()`: 4300 unless configured, 0 for no limit. -/
  maxStrDigits : Nat
  /-- `sys.set_int_max_str_digits` takes only 0 and values from 640 on. -/
  maxStrDigits_valid : maxStrDigits = 0 ∨ 640 ≤ maxStrDigits
  /-- `unicodedata.decimal` on the code points above ASCII. -/
  decimal : CodePoint → Option (Fin 10)
  /-- `hmac.new(key, msg, digestmod=hashlib.sha256).digest()`. -/
  hmacSha256 : Bytes → Bytes → Digest

/-- `int(s)` (`PyLong_FromUnicodeObject` in base 10). -/
def pyInt (rt : Runtime) (s : PyStr) : Except PyExc Int :=
  parseInt rt.maxStrDigits (toAsciiDigits rt.decimal s)

/-! ## `str()` prints back what `int()` read -/

theorem foldl_digits_lt : ∀ (ds : List Nat) {acc k : Nat}, (∀ d ∈ ds, isDigit d) →
    acc < 10 ^ k → ds.foldl (fun n d => 10 * n + (d - 0x30)) acc < 10 ^ (k + ds.length)
  | [], _, _, _, h => by simpa using h
  | d :: ds, acc, k, hd, h => by
    have hd' : d - 0x30 < 10 := by
      have := hd d (List.mem_cons_self d ds); simp [isDigit] at this; omega
    have step : 10 * acc + (d - 0x30) < 10 ^ (k + 1) := by rw [pow_succ]; omega
    simpa [Nat.add_assoc, Nat.add_comm 1] using
      foldl_digits_lt ds (fun x hx => hd x (List.mem_cons_of_mem d hx)) step

theorem digitsValue_lt {ds : List Nat} (h : ∀ d ∈ ds, isDigit d) :
    digitsValue ds < 10 ^ max 1 ds.length :=
  (by simpa using foldl_digits_lt ds h (by norm_num : 0 < 10 ^ 0) :
    digitsValue ds < 10 ^ ds.length).trans_le
      (Nat.pow_le_pow_right (by norm_num) (le_max_right _ _))

theorem intRepr_ok {lim : Nat} {n : Int} {e : Nat}
    (he : n.natAbs < 10 ^ max 1 e) (hle : lim = 0 ∨ e ≤ lim) : ∃ t, intRepr lim n = .ok t := by
  have := Nat.repr_length n.natAbs (max 1 e) (by omega) he
  simp only [intRepr]
  rw [if_neg (by omega)]
  exact ⟨_, rfl⟩

theorem parseDigits_bound {lim : Nat} {s : List Nat} {v : Nat} (h : parseDigits lim s = .ok v) :
    ∃ e, v < 10 ^ max 1 e ∧ (lim = 0 ∨ e ≤ lim) := by
  simp only [parseDigits] at h
  split_ifs at h with h₁ h₂
  cases h
  refine ⟨_, digitsValue_lt fun d hd => (List.mem_filter.1 hd).2, by omega⟩

/-- **What `int()` accepts, `str()` prints back**: the digit limit never rejects the
    printing of a value that `int()` read under it. -/
theorem intRepr_ok_of_pyInt (rt : Runtime) {s : PyStr} {n : Int} (h : pyInt rt s = .ok n) :
    ∃ t, intRepr rt.maxStrDigits n = .ok t := by
  simp only [pyInt, parseInt] at h
  split at h <;>
  · obtain ⟨v, hv, rfl⟩ := except_map_eq_ok.1 h
    obtain ⟨e, he, hle⟩ := parseDigits_bound hv
    exact intRepr_ok (by simpa using he) hle

/-! ## Facts `main` uses -/

theorem toAsciiDigits_ascii (decimal : CodePoint → Option (Fin 10)) :
    ∀ {s : PyStr}, s.all (fun c => c.val < 127) → toAsciiDigits decimal s = s.map (·.val)
  | [], _ => rfl
  | c :: s, h => by
    simp only [List.all_cons, Bool.and_eq_true, decide_eq_true_eq] at h
    simp [toAsciiDigits, h.1, toAsciiDigits_ascii decimal h.2]

/-- `int()` raises nothing but `ValueError`. -/
theorem pyInt_error {rt : Runtime} {s : PyStr} {e : PyExc} (h : pyInt rt s = .error e) :
    e = .valueError := by
  have hd : ∀ {t} {e}, parseDigits rt.maxStrDigits t = .error e → e = .valueError := by
    intro t e h; simp only [parseDigits] at h; split_ifs at h <;> cases h <;> rfl
  simp only [pyInt, parseInt] at h
  split at h <;>
  · revert h; cases hp : parseDigits _ _ <;> intro h <;> cases h
    exact hd hp

/-- The default of line 112. -/
theorem pyInt_3600 (rt : Runtime) : pyInt rt "3600" = .ok 3600 := by
  rw [pyInt, toAsciiDigits_ascii _ (by decide)]
  have : parseInt rt.maxStrDigits ((PyStr.ofString "3600").map (·.val)) =
      (fun n : Nat => (n : Int)) <$>
        (if 0 < rt.maxStrDigits ∧ rt.maxStrDigits < 4 then .error .valueError else .ok 3600) := rfl
  rw [this, if_neg (by have := rt.maxStrDigits_valid; omega)]; rfl

theorem intRepr_ok_iff {maxDigits : Nat} {n : Int} :
    (∃ t, intRepr maxDigits n = .ok t) ↔
      (maxDigits = 0 ∨ (Nat.repr n.natAbs).length ≤ maxDigits) := by
  simp only [intRepr]
  split_ifs with h
  · simp only [exists_false, false_iff]; omega
  all_goals simp only [Except.ok.injEq, exists_eq', true_iff]; omega

/-! ## `int()` reads back what `str()` prints -/

theorem digitChar_toNat : ∀ d : Fin 10, (Nat.digitChar d).toNat = 48 + d := by decide

theorem toDigitsCore_digits : ∀ (fuel n : Nat) {ds : List Char}, (∀ c ∈ ds, isDigit c.toNat) →
    ∀ c ∈ Nat.toDigitsCore 10 fuel n ds, isDigit c.toNat
  | 0, _, _, h => h
  | fuel + 1, n, ds, h => by
    have hd : ∀ c ∈ Nat.digitChar (n % 10) :: ds, isDigit c.toNat := by
      intro c hc
      rcases List.mem_cons.1 hc with rfl | hc
      · have := digitChar_toNat ⟨n % 10, Nat.mod_lt _ (by omega)⟩
        simp only [Fin.val_mk] at this
        simp only [isDigit, this, Bool.and_eq_true, decide_eq_true_eq]; omega
      · exact h c hc
    simp only [Nat.toDigitsCore]
    split
    · exact hd
    · exact toDigitsCore_digits fuel _ hd

/-- The characters `str()` prints for a natural number are ASCII digits. -/
theorem repr_digits (m : Nat) : ∀ c ∈ (Nat.repr m).toList, isDigit c.toNat :=
  toDigitsCore_digits (m + 1) m (by simp)

theorem toDigitsCore_ne_nil : ∀ (fuel n : Nat) (ds : List Char), (0 < fuel ∨ ds ≠ []) →
    Nat.toDigitsCore 10 fuel n ds ≠ []
  | 0, _, _, h => by simpa using h
  | fuel + 1, n, ds, _ => by
    simp only [Nat.toDigitsCore]
    split
    · exact List.cons_ne_nil _ _
    · exact toDigitsCore_ne_nil fuel _ _ (.inr (List.cons_ne_nil _ _))

/-- Reading the digits `toDigitsCore` prepends to `ds` continues from `n`. -/
theorem toDigitsCore_value : ∀ (fuel n : Nat) (ds : List Char), n < fuel →
    digitsValue ((Nat.toDigitsCore 10 fuel n ds).map Char.toNat) =
      (ds.map Char.toNat).foldl (fun n d => 10 * n + (d - 0x30)) n
  | 0, _, _, h => absurd h (Nat.not_lt_zero _)
  | fuel + 1, n, ds, h => by
    have hd : (Nat.digitChar (n % 10)).toNat - 0x30 = n % 10 := by
      have := digitChar_toNat ⟨n % 10, Nat.mod_lt _ (by omega)⟩
      simp only [Fin.val_mk] at this
      omega
    simp only [Nat.toDigitsCore]
    split
    · simp only [digitsValue, List.map_cons, List.foldl_cons, hd]
      congr 1; omega
    · rw [toDigitsCore_value fuel (n / 10) _ (by omega)]
      simp only [List.map_cons, List.foldl_cons, hd]
      congr 1; omega

theorem digitsValue_repr (m : Nat) : digitsValue ((Nat.repr m).toList.map Char.toNat) = m :=
  toDigitsCore_value (m + 1) m [] (by omega)

theorem intRepr_ne_nil {maxDigits : Nat} {n : Int} {t : PyStr} (h : intRepr maxDigits n = .ok t) :
    t ≠ [] := by
  simp only [intRepr] at h
  split_ifs at h <;> cases h
  · exact List.append_ne_nil_of_left_ne_nil (by decide) _
  · simpa [PyStr.ofString] using toDigitsCore_ne_nil (n.natAbs + 1) n.natAbs [] (.inl (by omega))

/-- A run of digits within the limit parses to its value. -/
theorem parseDigits_of_digits {maxDigits : Nat} {ds : List Nat} (hd : ∀ d ∈ ds, isDigit d)
    (hne : ds ≠ []) (hlim : ¬(0 < maxDigits ∧ maxDigits < ds.length)) :
    parseDigits maxDigits ds = .ok (digitsValue ds) := by
  have hdu : ∀ d ∈ ds, isDigitOrUnderscore d := fun d h => by
    simp [isDigitOrUnderscore, hd d h]
  have hsplit : ds.splitOn 0x5F = [ds] := List.splitOnP_eq_single _ _ fun d h => by
    have := hd d h
    simp only [isDigit, Bool.and_eq_true, decide_eq_true_eq] at this
    simp only [beq_iff_eq]; omega
  simp only [parseDigits, List.takeWhile_eq_self_iff.2 hdu, List.dropWhile_eq_nil_iff.2 hdu,
    List.filter_eq_self.2 hd, hsplit]
  simp [hne, hlim]

theorem map_val_ofString (s : String) :
    (PyStr.ofString s).map (·.val) = s.toList.map Char.toNat := by
  simp [PyStr.ofString]

/-- **`int()` reads back what `str()` prints**: the text of `n` parses to `n`. -/
theorem pyInt_intRepr (rt : Runtime) {n : Int} {t : PyStr}
    (h : intRepr rt.maxStrDigits n = .ok t) : pyInt rt t = .ok n := by
  have hdig : ∀ d ∈ (Nat.repr n.natAbs).toList.map Char.toNat, isDigit d := by
    simp only [List.mem_map]
    rintro _ ⟨c, hc, rfl⟩
    exact repr_digits _ c hc
  have hascii : (PyStr.ofString (Nat.repr n.natAbs)).all (fun c => c.val < 127) := by
    simp only [List.all_eq_true, decide_eq_true_eq, PyStr.ofString, List.mem_map]
    rintro _ ⟨c, hc, rfl⟩
    have := repr_digits _ c hc
    simp only [isDigit, Bool.and_eq_true, decide_eq_true_eq] at this
    simp only; omega
  have hne : (Nat.repr n.natAbs).toList.map Char.toNat ≠ [] := by
    simpa using toDigitsCore_ne_nil (n.natAbs + 1) n.natAbs [] (.inl (by omega))
  have hfirst : ∀ d ∈ (Nat.repr n.natAbs).toList.map Char.toNat, isAsciiSpace d = false ∧
      d ≠ 0x2D ∧ d ≠ 0x2B := fun d hd' => by
    have := hdig d hd'
    simp only [isDigit, Bool.and_eq_true, decide_eq_true_eq] at this
    simp only [isAsciiSpace, Bool.or_eq_false_iff, beq_eq_false_iff_ne, Bool.and_eq_false_iff,
      decide_eq_false_iff_not]
    omega
  simp only [intRepr] at h
  split_ifs at h with hlim hneg <;> cases h
  · have hp := parseDigits_of_digits hdig hne (by
      rwa [List.length_map, show (Nat.repr n.natAbs).toList.length = (Nat.repr n.natAbs).length
        from rfl])
    rw [pyInt, toAsciiDigits_ascii _ (by rw [List.all_append, hascii]; rfl), List.map_append,
      map_val_ofString, map_val_ofString,
      show (String.toList "-").map Char.toNat = [0x2D] from rfl, List.singleton_append, parseInt,
      List.dropWhile_cons_of_neg (by decide)]
    rw [digitsValue_repr] at hp
    split
    · next t' ht =>
      rw [← (List.cons.inj ht).2, hp]; simp only [Functor.map, Except.map]; congr 1; omega
    · next t' ht => exact absurd (List.cons.inj ht).1 (by decide)
    · next t' h45 _ => exact absurd rfl (h45 _)
  · have hp := parseDigits_of_digits hdig hne (by
      rwa [List.length_map, show (Nat.repr n.natAbs).toList.length = (Nat.repr n.natAbs).length
        from rfl])
    rw [pyInt, toAsciiDigits_ascii _ hascii, map_val_ofString]
    obtain ⟨d, ds, hds⟩ := List.exists_cons_of_ne_nil hne
    obtain ⟨hsp, h2d, h2b⟩ := hfirst d (hds ▸ List.mem_cons_self d ds)
    rw [digitsValue_repr, hds] at hp
    rw [hds, parseInt, List.dropWhile_cons_of_neg (by simp [hsp])]
    split
    · next t' ht => exact absurd (List.cons.inj ht).1 h2d
    · next t' ht => exact absurd (List.cons.inj ht).1 h2b
    · rw [hp]; simp only [Functor.map, Except.map]; congr 1; omega

end DevAdminToken
