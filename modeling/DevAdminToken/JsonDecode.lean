/-
  DevAdminToken formalization — reading the canonical JSON back: a reader of JSON texts
  (RFC 8259) for the values `main` writes, as the party that checks a token runs it on the
  token's first two segments.  The script has no reader; this is the meaning its output is
  written for.

  * `strChar`, `strBody`, `parseStr`: a string literal with the escapes of RFC 8259 §7.  A
    `\u` escape of a high surrogate must be followed by one of a low surrogate, and the
    pair reads as one code point; a lone surrogate is refused, so what is read is a string
    of Unicode scalar values.
  * `parseNumber`, `parseValue`, `parseObject`: integers, `null`, strings and arrays of
    strings, and a text that is one object with nothing after it, with no white space
    between tokens.  A function that loops takes fuel; the length of its input is enough.
  * `parseObject_dumps`: the text `dumps` writes of a dict whose strings hold no surrogate
    reads back as the dict's items sorted by key.
-/
import DevAdminToken.Json

namespace DevAdminToken

/-! ## The reader -/

/-- The value of a hex digit, either case. -/
def hexVal (c : CodePoint) : Option Nat :=
  if 0x30 ≤ c.val ∧ c.val ≤ 0x39 then some (c.val - 0x30)
  else if 0x61 ≤ c.val ∧ c.val ≤ 0x66 then some (c.val - 0x57)
  else if 0x41 ≤ c.val ∧ c.val ≤ 0x46 then some (c.val - 0x37)
  else none

/-- Four hex digits, as the number they write. -/
def hex4 : PyStr → Option (Nat × PyStr)
  | a :: b :: c :: d :: rest =>
    match hexVal a, hexVal b, hexVal c, hexVal d with
    | some a, some b, some c, some d => some (a * 4096 + b * 256 + c * 16 + d, rest)
    | _, _, _, _ => none
  | _ => none

/-- The code point `\e` stands for, for `e` other than `u` (RFC 8259 §7). -/
def escapeVal (e : CodePoint) : Option CodePoint :=
  if e.val = 0x22 ∨ e.val = 0x5C ∨ e.val = 0x2F then some e
  else if e.val = 0x62 then some 0x08
  else if e.val = 0x66 then some 0x0C
  else if e.val = 0x6E then some 0x0A
  else if e.val = 0x72 then some 0x0D
  else if e.val = 0x74 then some 0x09
  else none

/-- What follows `\u`: four hex digits; those of a high surrogate, then `\u` and those of a
    low surrogate, stand together for the code point of the pair. -/
def unicodeEscape (s : PyStr) : Option (CodePoint × PyStr) := do
  let (h, rest) ← hex4 s
  if 0xDC00 ≤ h ∧ h < 0xE000 then none
  else if 0xD800 ≤ h ∧ h < 0xDC00 then
    match rest with
    | b :: u :: rest =>
      if b.val = 0x5C ∧ u.val = 0x75 then do
        let (l, rest) ← hex4 rest
        if 0xDC00 ≤ l ∧ l < 0xE000 then
          pure (((0x10000 + (h - 0xD800) * 0x400 + (l - 0xDC00) : Nat) : CodePoint), rest)
        else none
      else none
    | _ => none
  else pure ((h : CodePoint), rest)

/-- One character of a string literal's body: an escape, or a code point that need not be
    escaped (not `"`, `\` or a control character). -/
def strChar : PyStr → Option (CodePoint × PyStr)
  | [] => none
  | c :: rest =>
    if c.val = 0x5C then
      match rest with
      | [] => none
      | e :: rest =>
        if e.val = 0x75 then unicodeEscape rest else (escapeVal e).map fun x => (x, rest)
    else if c.val = 0x22 ∨ c.val < 0x20 then none
    else some (c, rest)

/-- A string literal's body, up to and past its closing `"`. -/
def strBody : Nat → PyStr → Option (PyStr × PyStr)
  | 0, _ => none
  | _ + 1, [] => none
  | fuel + 1, c :: rest =>
    if c.val = 0x22 then some ([], rest)
    else do
      let (x, rest) ← strChar (c :: rest)
      let (xs, rest) ← strBody fuel rest
      pure (x :: xs, rest)

/-- A string literal. -/
def parseStr (fuel : Nat) : PyStr → Option (PyStr × PyStr)
  | [] => none
  | c :: rest => if c.val = 0x22 then strBody fuel rest else none

/-- A run of decimal digits, as the number it writes. -/
def parseNat (s : PyStr) : Option (Nat × PyStr) :=
  let ds := s.takeWhile fun c => isDigit c.val
  if ds = [] then none else some (digitsValue (ds.map (·.val)), s.drop ds.length)

/-- An integer: an optional `-` and digits. -/
def parseNumber : PyStr → Option (Int × PyStr)
  | [] => none
  | c :: rest =>
    if c.val = 0x2D then (parseNat rest).map fun (n, r) => (-(n : Int), r)
    else (parseNat (c :: rest)).map fun (n, r) => ((n : Int), r)

/-- The rest of an array of strings after its first element: `,` and a string, again and
    again, up to `]`. -/
def parseStrs : Nat → PyStr → Option (List PyStr × PyStr)
  | 0, _ => none
  | _ + 1, [] => none
  | fuel + 1, c :: rest =>
    if c.val = 0x5D then some ([], rest)
    else if c.val = 0x2C then do
      let (x, rest) ← parseStr fuel rest
      let (xs, rest) ← parseStrs fuel rest
      pure (x :: xs, rest)
    else none

/-- One value: `null`, an integer, a string, or an array of strings. -/
def parseValue (fuel : Nat) : PyStr → Option (JsonValue × PyStr)
  | [] => none
  | c :: rest =>
    if c.val = 0x6E then
      if rest.take 3 = [117, 108, 108] then some (.null, rest.drop 3) else none
    else if c.val = 0x22 then (parseStr fuel (c :: rest)).map fun (s, r) => (.str s, r)
    else if c.val = 0x5B then
      if rest.head?.map (·.val) = some 0x5D then some (.strs [], rest.tail)
      else do
        let (x, rest) ← parseStr fuel rest
        let (xs, rest) ← parseStrs fuel rest
        pure (.strs (x :: xs), rest)
    else (parseNumber (c :: rest)).map fun (n, r) => (.int n, r)

/-- One member of an object: a key, `:`, and a value. -/
def parseMember (fuel : Nat) (s : PyStr) : Option ((PyStr × JsonValue) × PyStr) := do
  let (k, rest) ← parseStr fuel s
  match rest with
  | [] => none
  | c :: rest =>
    if c.val = 0x3A then do
      let (v, rest) ← parseValue fuel rest
      pure ((k, v), rest)
    else none

/-- The rest of an object after its first member: `,` and a member, again and again, up to
    `}`. -/
def parseMembers : Nat → PyStr → Option (List (PyStr × JsonValue) × PyStr)
  | 0, _ => none
  | _ + 1, [] => none
  | fuel + 1, c :: rest =>
    if c.val = 0x7D then some ([], rest)
    else if c.val = 0x2C then do
      let (m, rest) ← parseMember fuel rest
      let (ms, rest) ← parseMembers fuel rest
      pure (m :: ms, rest)
    else none

/-- A text that is one object and nothing after it: its members in the order of the text. -/
def parseObject (s : PyStr) : Option (List (PyStr × JsonValue)) :=
  match s with
  | c :: d :: rest =>
    if c.val = 0x7B then
      if d.val = 0x7D then (if rest = [] then some [] else none)
      else do
        let (m, r) ← parseMember s.length (d :: rest)
        let (ms, r) ← parseMembers s.length r
        if r = [] then some (m :: ms) else none
    else none
  | _ => none

/-- What the checking party makes of a segment's bytes: UTF-8 text that is one object. -/
def readObject (b : Bytes) : Option (List (PyStr × JsonValue)) :=
  match decodeUtf8 b with
  | .ok s => parseObject s
  | .error _ => none

/-! ## Reading back what `dumps` writes

The reader inverts the encoder one layer at a time: a `\u` escape, an escaped code point,
a string literal, an integer, a value, the members, the object.  Each loop's lemma takes
fuel for the whole of its input, as the reader's own caller gives. -/

/-- A surrogate code point, which is no Unicode scalar value. -/
def IsSurrogate (c : CodePoint) : Prop := 0xD800 ≤ c.val ∧ c.val < 0xE000

instance instDecidableIsSurrogate : DecidablePred IsSurrogate := fun _ =>
  inferInstanceAs (Decidable (_ ∧ _))

/-- The strings a value holds. -/
def JsonValue.strings : JsonValue → List PyStr
  | .str s => [s]
  | .strs xs => xs
  | _ => []

/-- Every string of the items, key or value, holds no surrogate. -/
def NoSurrogates (items : List (PyStr × JsonValue)) : Prop :=
  ∀ kv ∈ items, ∀ s ∈ kv.1 :: kv.2.strings, ∀ c ∈ s, ¬IsSurrogate c

instance instDecidableNoSurrogates : DecidablePred NoSurrogates := fun items =>
  decidable_of_iff (items.all fun kv => (kv.1 :: kv.2.strings).all fun s => s.all fun c =>
    !decide (IsSurrogate c))
    (by simp only [NoSurrogates, List.all_eq_true, Bool.not_eq_true', decide_eq_false_iff_not])

theorem not_isSurrogate_of_ascii {s : PyStr} (hs : IsAscii s) : ∀ c ∈ s, ¬IsSurrogate c :=
  fun c hc h => by have := hs c hc; exact absurd h.1 (by omega)

/-! ### String literals -/

@[simp] theorem hexVal_hexDigit_mod (m : Nat) : hexVal (hexDigit (m % 16)) = some (m % 16) := by
  have h := Nat.mod_lt m (by norm_num : 16 > 0)
  unfold hexDigit
  split_ifs
  · rw [hexVal, Fin.val_natCast, Nat.mod_eq_of_lt (by omega), if_pos (by omega)]; congr 1; omega
  · rw [hexVal, Fin.val_natCast, Nat.mod_eq_of_lt (by omega), if_neg (by omega), if_pos (by omega)]
    congr 1; omega

theorem hex4_uEscape {n : Nat} (hn : n < 0x10000) (rest : PyStr) :
    hex4 ((uEscape n).drop 2 ++ rest) = some (n, rest) := by
  simp only [uEscape, List.drop, List.cons_append, List.nil_append, hex4, hexVal_hexDigit_mod]
  congr 2; omega

theorem uEscape_append (n : Nat) (rest : PyStr) :
    uEscape n ++ rest = 92 :: 117 :: ((uEscape n).drop 2 ++ rest) := rfl

theorem strChar_uEscape (n : Nat) (rest : PyStr) :
    strChar (uEscape n ++ rest) = unicodeEscape ((uEscape n).drop 2 ++ rest) := rfl

theorem unicodeEscape_bmp {n : Nat} (hn : n < 0x10000) (hs : ¬(0xD800 ≤ n ∧ n < 0xE000))
    (rest : PyStr) : unicodeEscape ((uEscape n).drop 2 ++ rest) = some ((n : CodePoint), rest) := by
  simp only [unicodeEscape, hex4_uEscape hn, Option.bind_eq_bind, Option.some_bind]
  rw [if_neg (by omega), if_neg (by omega)]
  rfl

theorem unicodeEscape_pair {n : Nat} (h₁ : 0x10000 ≤ n) (h₂ : n < 0x110000) (rest : PyStr) :
    unicodeEscape ((uEscape (0xD7C0 + n / 1024)).drop 2 ++ (uEscape (0xDC00 + n % 1024) ++ rest)) =
      some ((n : CodePoint), rest) := by
  simp only [unicodeEscape, hex4_uEscape (show 0xD7C0 + n / 1024 < 0x10000 by omega),
    Option.bind_eq_bind, Option.some_bind]
  rw [if_neg (by omega), if_pos (by omega)]
  rw [uEscape_append]
  simp only [hex4_uEscape (show 0xDC00 + n % 1024 < 0x10000 by omega)]
  rw [if_pos (by decide), Option.some_bind, if_pos (by omega)]
  have : 65536 + (55232 + n / 1024 - 55296) * 1024 + (56320 + n % 1024 - 56320) = n := by omega
  simp only [this]; rfl

theorem strChar_escapeChar {c : CodePoint} (hc : ¬IsSurrogate c) (rest : PyStr) :
    strChar (escapeChar c ++ rest) = some (c, rest) := by
  let P : PyStr → Prop := fun t => strChar (t ++ rest) = some (c, rest)
  show P (escapeChar c)
  dsimp only [escapeChar]
  refine iteInduction (fun h => ?_) fun _ => ?_
  · show strChar (c :: rest) = _
    simp only [strChar, if_neg h.2.2.1, if_neg (show ¬(c.val = 0x22 ∨ c.val < 0x20) by omega)]
  iterate 7 refine iteInduction (fun h => congrArg (some ∘ (·, rest)) (Fin.ext h.symm)) fun _ => ?_
  refine iteInduction (fun h => ?_) fun _ => ?_
  · show strChar (uEscape c.val ++ rest) = _
    rw [strChar_uEscape, unicodeEscape_bmp h hc, Fin.cast_val_eq_self]
  · show strChar ((_ ++ _) ++ rest) = _
    rw [List.append_assoc, strChar_uEscape, unicodeEscape_pair (by omega) c.isLt,
      Fin.cast_val_eq_self]

theorem strBody_of_strChar {s r : PyStr} {x : CodePoint} (h : strChar s = some (x, r))
    (fuel : Nat) : strBody (fuel + 1) s = (strBody fuel r).map fun (xs, r') => (x :: xs, r') := by
  match s, h with
  | c :: rest, h =>
    have hc : c.val ≠ 0x22 := fun hq => by simp [strChar, hq] at h
    simp only [strBody, hc, if_false, h, Option.bind_eq_bind, Option.some_bind]
    cases strBody fuel r <;> rfl

theorem escapeChar_ne_nil {c : CodePoint} (hc : ¬IsSurrogate c) : escapeChar c ≠ [] :=
  fun he => by simpa [he, strChar] using strChar_escapeChar hc []

/-- **A string literal's body reads back**: the escaped code points and the closing `"`
    read as the string, given fuel for each code point of the text. -/
theorem strBody_escaped {rest : PyStr} : ∀ {s : PyStr} {fuel : Nat}, (∀ c ∈ s, ¬IsSurrogate c) →
    (s.flatMap escapeChar ++ 34 :: rest).length ≤ fuel →
    strBody fuel (s.flatMap escapeChar ++ 34 :: rest) = some (s, rest)
  | [], 0, _, hf => absurd hf (by simp)
  | [], _ + 1, _, _ => rfl
  | c :: s, fuel, hs, hf => by
    have hc := hs c (List.mem_cons_self c s)
    have hl := List.length_pos.2 (escapeChar_ne_nil hc)
    rw [List.flatMap_cons, List.append_assoc] at hf ⊢
    obtain ⟨fuel, rfl⟩ : ∃ f, fuel = f + 1 := ⟨fuel - 1, by simp at hf; omega⟩
    rw [strBody_of_strChar (strChar_escapeChar hc _),
      strBody_escaped (fun d hd => hs d (List.mem_cons_of_mem c hd)) (by simp at hf ⊢; omega)]
    rfl

theorem parseStr_encodeString {s rest : PyStr} {fuel : Nat} (hs : ∀ c ∈ s, ¬IsSurrogate c)
    (hf : (encodeString s ++ rest).length ≤ fuel) :
    parseStr fuel (encodeString s ++ rest) = some (s, rest) := by
  have he : encodeString s ++ rest = 34 :: (s.flatMap escapeChar ++ 34 :: rest) := by
    simp [encodeString]
  rw [he] at hf ⊢
  exact strBody_escaped hs (by simp at hf ⊢; omega)

/-! ### Integers -/

theorem ofString_repr_digits (m : Nat) : ∀ c ∈ PyStr.ofString (Nat.repr m), isDigit c.val := by
  simp only [PyStr.ofString, List.mem_map]
  rintro _ ⟨ch, hch, rfl⟩
  exact repr_digits m ch hch

theorem ofString_repr_ne_nil (m : Nat) : PyStr.ofString (Nat.repr m) ≠ [] := by
  simpa [PyStr.ofString] using toDigitsCore_ne_nil (m + 1) m [] (.inl (by omega))

theorem parseNat_append {ds rest : PyStr} (hd : ∀ c ∈ ds, isDigit c.val) (hne : ds ≠ [])
    (hr : ∀ c ∈ rest.head?, isDigit c.val = false) :
    parseNat (ds ++ rest) = some (digitsValue (ds.map (·.val)), rest) := by
  have ht : (ds ++ rest).takeWhile (fun c => isDigit c.val) = ds := by
    rw [List.takeWhile_append_of_pos hd]
    cases rest with
    | nil => simp
    | cons c r => simp [hr c rfl]
  simp [parseNat, ht, hne]

/-- The digits `str()` prints read back as the number. -/
theorem parseNat_repr (m : Nat) {rest : PyStr} (hr : ∀ c ∈ rest.head?, isDigit c.val = false) :
    parseNat (PyStr.ofString (Nat.repr m) ++ rest) = some (m, rest) := by
  rw [parseNat_append (ofString_repr_digits m) (ofString_repr_ne_nil m) hr, map_val_ofString,
    digitsValue_repr]

theorem intRepr_eq_ok {maxDigits : Nat} {n : Int} {t : PyStr} (h : intRepr maxDigits n = .ok t) :
    t = (if n < 0 then [45] else []) ++ PyStr.ofString (Nat.repr n.natAbs) := by
  simp only [intRepr] at h
  split_ifs at h with _ hn <;> cases h
  · rw [if_pos hn]; rfl
  · rw [if_neg hn]; rfl

theorem intRepr_head {maxDigits : Nat} {n : Int} {t : PyStr} (h : intRepr maxDigits n = .ok t) :
    ∃ c t', t = c :: t' ∧ (c.val = 0x2D ∨ isDigit c.val) := by
  rw [intRepr_eq_ok h]
  split_ifs
  · exact ⟨_, _, rfl, .inl rfl⟩
  · obtain ⟨d, ds, hds⟩ := List.exists_cons_of_ne_nil (ofString_repr_ne_nil n.natAbs)
    exact ⟨d, ds, hds, .inr (ofString_repr_digits _ d (hds ▸ List.mem_cons_self d ds))⟩

/-- **What `str()` prints of an integer reads back as it.** -/
theorem parseNumber_intRepr {maxDigits : Nat} {n : Int} {t rest : PyStr}
    (h : intRepr maxDigits n = .ok t) (hr : ∀ c ∈ rest.head?, isDigit c.val = false) :
    parseNumber (t ++ rest) = some (n, rest) := by
  rw [intRepr_eq_ok h]
  split_ifs with hn
  · show (parseNat (PyStr.ofString (Nat.repr n.natAbs) ++ rest)).map _ = _
    rw [parseNat_repr _ hr]
    simp only [Option.map_some', Option.some.injEq, Prod.mk.injEq, and_true]; omega
  · obtain ⟨d, ds, hds⟩ := List.exists_cons_of_ne_nil (ofString_repr_ne_nil n.natAbs)
    have hd := ofString_repr_digits _ d (hds ▸ List.mem_cons_self d ds)
    simp only [isDigit, Bool.and_eq_true, decide_eq_true_eq] at hd
    rw [List.nil_append, hds, List.cons_append, parseNumber, if_neg (by omega), ← List.cons_append,
      ← hds, parseNat_repr _ hr]
    simp only [Option.map_some', Option.some.injEq, Prod.mk.injEq, and_true]; omega

/-! ### Values, members and objects -/

theorem intercalate_eq_flatMap (sep : CodePoint) : ∀ (p : PyStr) (ps : List PyStr),
    [sep].intercalate (p :: ps) = p ++ ps.flatMap (sep :: ·)
  | p, [] => by rw [intercalate_singleton]; simp
  | p, q :: ps => by rw [intercalate_cons_cons, intercalate_eq_flatMap sep q ps]; simp

theorem parseStrs_encode {rest : PyStr} : ∀ {xs : List PyStr} {fuel : Nat},
    (∀ x ∈ xs, ∀ c ∈ x, ¬IsSurrogate c) →
    ((xs.map encodeString).flatMap (44 :: ·) ++ 93 :: rest).length ≤ fuel →
    parseStrs fuel ((xs.map encodeString).flatMap (44 :: ·) ++ 93 :: rest) = some (xs, rest)
  | [], 0, _, hf => absurd hf (by simp)
  | [], _ + 1, _, _ => rfl
  | x :: xs, 0, _, hf => absurd hf (by simp)
  | x :: xs, fuel + 1, hs, hf => by
    simp only [List.map_cons, List.flatMap_cons, List.cons_append, List.append_assoc] at hf ⊢
    rw [parseStrs, if_neg (by decide), if_pos (by decide),
      parseStr_encodeString (hs x (List.mem_cons_self x xs)) (by simp at hf ⊢; omega)]
    simp only [Option.bind_eq_bind, Option.some_bind]
    rw [parseStrs_encode (fun y hy => hs y (List.mem_cons_of_mem x hy)) (by simp at hf ⊢; omega)]
    rfl

theorem parseValue_number {c : CodePoint} {rest : PyStr} (fuel : Nat)
    (hc : c.val = 0x2D ∨ isDigit c.val) :
    parseValue fuel (c :: rest) = (parseNumber (c :: rest)).map fun (n, r) => (.int n, r) := by
  have : c.val ≠ 0x6E ∧ c.val ≠ 0x22 ∧ c.val ≠ 0x5B := by
    simp only [isDigit, Bool.and_eq_true, decide_eq_true_eq] at hc; omega
  rw [parseValue, if_neg this.1, if_neg this.2.1, if_neg this.2.2]

/-- **A value reads back**, given fuel for the text and no digit right after it. -/
theorem parseValue_encodeValue {maxDigits fuel : Nat} {v : JsonValue} {t rest : PyStr}
    (hs : ∀ s ∈ v.strings, ∀ c ∈ s, ¬IsSurrogate c) (h : encodeValue maxDigits v = .ok t)
    (hr : ∀ c ∈ rest.head?, isDigit c.val = false) (hf : (t ++ rest).length ≤ fuel) :
    parseValue fuel (t ++ rest) = some (v, rest) := by
  cases v with
  | null => cases h; rfl
  | int n =>
    obtain ⟨c, t', rfl, hc⟩ := intRepr_head h
    rw [List.cons_append, parseValue_number fuel hc, ← List.cons_append, parseNumber_intRepr h hr]
    rfl
  | str s =>
    cases h
    exact congrArg (Option.map fun (x, r) => (JsonValue.str x, r))
      (parseStr_encodeString (hs s (List.mem_singleton_self s)) hf)
  | strs xs =>
    cases h
    cases xs with
    | nil => rfl
    | cons x xs =>
      simp only [List.map_cons, intercalate_eq_flatMap, List.cons_append, List.append_assoc] at hf ⊢
      have hx : ∀ y ∈ x :: xs, ∀ c ∈ y, ¬IsSurrogate c := hs
      have hhead : ∀ R : PyStr, (encodeString x ++ R).head?.map (·.val) ≠ some 0x5D := fun R => by
        rw [show (encodeString x ++ R).head?.map (·.val) = some 34 from rfl]; decide
      rw [parseValue, if_neg (by decide), if_neg (by decide), if_pos (by decide), if_neg (hhead _),
        parseStr_encodeString (hx x (List.mem_cons_self x xs)) (by simp at hf ⊢; omega)]
      simp only [Option.bind_eq_bind, Option.some_bind]
      rw [parseStrs_encode (fun y hy => hx y (List.mem_cons_of_mem x hy)) (by simp at hf ⊢; omega)]
      rfl

theorem parseMember_encode {maxDigits fuel : Nat} {k : PyStr} {v : JsonValue} {ev rest : PyStr}
    (hs : ∀ s ∈ k :: v.strings, ∀ c ∈ s, ¬IsSurrogate c) (hev : encodeValue maxDigits v = .ok ev)
    (hr : ∀ c ∈ rest.head?, isDigit c.val = false)
    (hf : (encodeString k ++ 58 :: (ev ++ rest)).length ≤ fuel) :
    parseMember fuel (encodeString k ++ 58 :: (ev ++ rest)) = some ((k, v), rest) := by
  rw [parseMember, parseStr_encodeString (hs k (List.mem_cons_self k _)) hf]
  simp only [Option.bind_eq_bind, Option.some_bind]
  rw [if_pos (by decide), parseValue_encodeValue (fun s h => hs s (List.mem_cons_of_mem k h)) hev hr
    (by simp at hf ⊢; omega)]
  rfl

/-- After a member comes `,` or `}`, neither a digit. -/
theorem members_head_not_digit (ps : List PyStr) (rest : PyStr) :
    ∀ c ∈ (ps.flatMap (44 :: ·) ++ 125 :: rest).head?, isDigit c.val = false := by
  cases ps <;> simp <;> decide

theorem parseMembers_encode {maxDigits : Nat} {rest : PyStr} :
    ∀ {items : List (PyStr × JsonValue)} {parts : List PyStr} {fuel : Nat}, NoSurrogates items →
      encodeItems maxDigits items = .ok parts →
      (parts.flatMap (44 :: ·) ++ 125 :: rest).length ≤ fuel →
      parseMembers fuel (parts.flatMap (44 :: ·) ++ 125 :: rest) = some (items, rest)
  | [], _, fuel, _, h, hf => by
    cases h
    obtain ⟨fuel, rfl⟩ : ∃ f, fuel = f + 1 := ⟨fuel - 1, by simp at hf; omega⟩
    rfl
  | (k, v) :: items, _, fuel, hs, h, hf => by
    simp only [encodeItems, except_bind_eq_ok] at h
    obtain ⟨ev, hev, ps, hps, h⟩ := h
    cases h
    obtain ⟨fuel, rfl⟩ : ∃ f, fuel = f + 1 := ⟨fuel - 1, by simp at hf; omega⟩
    simp only [List.flatMap_cons, List.cons_append, List.append_assoc] at hf ⊢
    rw [parseMembers, if_neg (by decide), if_pos (by decide),
      parseMember_encode (hs _ (List.mem_cons_self _ _)) hev (members_head_not_digit ps rest)
        (by simp at hf ⊢; omega)]
    simp only [Option.bind_eq_bind, Option.some_bind]
    rw [parseMembers_encode (fun kv h => hs kv (List.mem_cons_of_mem _ h)) hps
      (by simp at hf ⊢; omega)]
    rfl

theorem parseObject_open {s : PyStr} (hs : s.head?.map (·.val) ≠ some 0x7D) (hne : s ≠ []) :
    parseObject (123 :: s) = (do
      let (m, r) ← parseMember (s.length + 1) s
      let (ms, r) ← parseMembers (s.length + 1) r
      if r = [] then some (m :: ms) else none) := by
  match s, hs with
  | d :: rest, hs => rw [parseObject, if_pos (by decide), if_neg (by simpa using hs)]; rfl

/-- **The canonical JSON reads back**: the text `dumps` writes of a dict whose strings hold
    no surrogate is one object, its members the dict's items sorted by key. -/
theorem parseObject_dumps {maxDigits : Nat} {d : PyDict} {out : PyStr}
    (hs : NoSurrogates d.items) (h : dumps maxDigits d = .ok out) :
    parseObject out = some (sortItems d.items) := by
  simp only [dumps, except_bind_eq_ok] at h
  obtain ⟨parts, hp, h⟩ := h
  cases h
  have hs' : NoSurrogates (sortItems d.items) := fun kv h => hs kv ((sortItems_perm _).subset h)
  generalize sortItems d.items = items at hp hs' ⊢
  match items, hp with
  | [], hp => cases hp; rfl
  | (k, v) :: items, hp =>
    simp only [encodeItems, except_bind_eq_ok] at hp
    obtain ⟨ev, hev, ps, hps, hp⟩ := hp
    cases hp
    rw [intercalate_eq_flatMap]
    simp only [List.cons_append, List.append_assoc, List.singleton_append]
    have hhead : ∀ R : PyStr, (encodeString k ++ R).head?.map (·.val) ≠ some 0x7D := fun R => by
      rw [show (encodeString k ++ R).head?.map (·.val) = some 34 from rfl]; decide
    rw [parseObject_open (hhead _) (by simp [encodeString]),
      parseMember_encode (hs' _ (List.mem_cons_self _ _)) hev (members_head_not_digit ps [])
        (by simp)]
    simp only [Option.bind_eq_bind, Option.some_bind]
    rw [parseMembers_encode (fun kv h => hs' kv (List.mem_cons_of_mem _ h)) hps (by simp; omega)]
    rfl

theorem decodeUtf8_map_toUInt8 {s : PyStr} (hs : IsAscii s) :
    decodeUtf8 (s.map fun c => c.val.toUInt8) = .ok s := by
  have hlt : ∀ c ∈ s, c.val.toUInt8.toNat = c.val := fun c hc => by
    rw [toNat_toUInt8]; exact Nat.mod_eq_of_lt (by have := hs c hc; omega)
  rw [decodeUtf8_ascii (by
    simp only [List.mem_map]; rintro _ ⟨c, hc, rfl⟩; rw [hlt c hc]; exact hs c hc), List.map_map]
  conv_rhs => rw [← List.map_id s]
  exact congrArg _ (List.map_congr_left fun c hc => Fin.ext (hlt c hc))

theorem readObject_canonicalBytes {maxDigits : Nat} {d : PyDict} {b : Bytes}
    (hs : NoSurrogates d.items) (h : canonicalBytes maxDigits d = .ok b) :
    readObject b = some (sortItems d.items) := by
  obtain ⟨out, ho, rfl⟩ := canonicalBytes_eq_ok.1 h
  rw [readObject, decodeUtf8_map_toUInt8 (dumps_tokens ho).1]
  exact parseObject_dumps hs ho

end DevAdminToken
