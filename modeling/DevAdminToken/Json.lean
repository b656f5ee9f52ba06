/-
  DevAdminToken formalization — `json.dumps(obj, separators=(",", ":"), sort_keys=True)`
  (lines 137–138), on the objects `main` builds.

  * `JsonValue`: `None`, `int`, `str` and lists of `str`.  `PyDict`: a `dict` with `str`
    keys in insertion order; its keys are distinct by construction.
  * `encodeString` is the `ensure_ascii` encoding of a `str`; `dumps` sorts the items by
    key and prints them with `,` and `:` and no other separator.
  * `sortItems_eq_of_perm`: with distinct keys every permutation of the items sorts to the
    same list, so `dumps` sees only the set of items (`dumps_canonical`).
  * `LexState`, `wsOutside`: a JSON lexer's position (outside, in a string literal, after a
    backslash) and whether it meets white space outside string literals; `dumps_tokens`:
    the text of `dumps` is ASCII and has none.
-/
import DevAdminToken.Int
import Mathlib.Data.List.Sort

namespace DevAdminToken

/-- The JSON values `main` serializes. -/
inductive JsonValue
  | null
  | int (n : Int)
  | str (s : PyStr)
  /-- A list of `str`, the only lists in the token's objects. -/
  | strs (xs : List PyStr)
  deriving DecidableEq

/-- A Python `dict` with `str` keys, its items in insertion order. -/
structure PyDict where
  items : List (PyStr × JsonValue)
  nodup : (items.map Prod.fst).Nodup

/-- `d.get(k)`. -/
def PyDict.get? (d : PyDict) (k : PyStr) : Option JsonValue := d.items.lookup k

/-! ## Encoding -/

/-- The lowercase hex digit of `n < 16`. -/
def hexDigit (n : Nat) : CodePoint :=
  if n < 10 then ((48 + n : Nat) : CodePoint) else ((87 + n : Nat) : CodePoint)

/-- `\u` and the four hex digits of `n`. -/
def uEscape (n : Nat) : PyStr :=
  [92, 117, hexDigit (n / 4096 % 16), hexDigit (n / 256 % 16), hexDigit (n / 16 % 16),
    hexDigit (n % 16)]

/-- How `ensure_ascii` writes a code point (`S_CHAR`, `ascii_escape_unichar`): printable
    ASCII other than `\` and `"` as itself; `\`, `"`, backspace, form feed, line feed,
    carriage return and tab as a two-character escape; any other code point below 0x10000
    as `\uXXXX`, and one above as the two `\uXXXX` of its UTF-16 surrogate pair. -/
def escapeChar (c : CodePoint) : PyStr :=
  let n := c.val
  if 0x20 ≤ n ∧ n ≤ 0x7E ∧ n ≠ 0x5C ∧ n ≠ 0x22 then [c]
  else if n = 0x5C then [92, 92]
  else if n = 0x22 then [92, 34]
  else if n = 0x08 then [92, 98]
  else if n = 0x0C then [92, 102]
  else if n = 0x0A then [92, 110]
  else if n = 0x0D then [92, 114]
  else if n = 0x09 then [92, 116]
  else if n < 0x10000 then uEscape n
  else uEscape (0xD7C0 + n / 1024) ++ uEscape (0xDC00 + n % 1024)

/-- `py_encode_basestring_ascii`: the escaped code points between double quotes. -/
def encodeString (s : PyStr) : PyStr := 34 :: s.flatMap escapeChar ++ [34]

/-- One value. -/
def encodeValue (maxDigits : Nat) : JsonValue → Except PyExc PyStr
  | .null => .ok "null"
  | .int n => intRepr maxDigits n
  | .str s => .ok (encodeString s)
  | .strs xs => .ok (91 :: [44].intercalate (xs.map encodeString) ++ [93])

/-- The items in order, each as its key, `:` and its value; the first value that cannot
    be printed raises. -/
def encodeItems (maxDigits : Nat) : List (PyStr × JsonValue) → Except PyExc (List PyStr)
  | [] => .ok []
  | (k, v) :: rest => do
    let ev ← encodeValue maxDigits v
    let r ← encodeItems maxDigits rest
    pure ((encodeString k ++ 58 :: ev) :: r)

/-- The order `sorted` puts the items in: by key, the keys being distinct. -/
def KeyLe (p q : PyStr × JsonValue) : Prop := strLe p.1 q.1

instance : DecidableRel KeyLe := fun p q => inferInstanceAs (Decidable (strLe p.1 q.1 = true))

/-- `sorted(d.items())`.  CPython sorts with Timsort; with distinct keys every sort gives the
    one permutation sorted by key (`sortItems_eq_of_perm`), here by insertion. -/
def sortItems (items : List (PyStr × JsonValue)) : List (PyStr × JsonValue) :=
  items.insertionSort KeyLe

/-- `json.dumps(d, separators=(",", ":"), sort_keys=True)`. -/
def dumps (maxDigits : Nat) (d : PyDict) : Except PyExc PyStr := do
  let parts ← encodeItems maxDigits (sortItems d.items)
  pure (123 :: [44].intercalate parts ++ [125])

/-! ## Sorting by distinct keys -/

instance : IsTotal (PyStr × JsonValue) KeyLe := ⟨fun a b => by simpa using strLe_total a.1 b.1⟩

instance : IsTrans (PyStr × JsonValue) KeyLe := ⟨fun _ _ _ => strLe_trans⟩

/-- Strictly increasing keys. -/
def KeyLt (p q : PyStr × JsonValue) : Prop := KeyLe p q ∧ p.1 ≠ q.1

instance : IsAntisymm (PyStr × JsonValue) KeyLt :=
  ⟨fun _ _ h₁ h₂ => absurd (strLe_antisymm h₁.1 h₂.1) h₁.2⟩

theorem sorted_keyLt {l : List (PyStr × JsonValue)} (hs : l.Sorted KeyLe)
    (hn : (l.map Prod.fst).Nodup) : l.Sorted KeyLt :=
  (hs.and (List.pairwise_map.1 hn)).imp fun h => h

theorem sortItems_perm (l : List (PyStr × JsonValue)) : (sortItems l).Perm l :=
  List.perm_insertionSort KeyLe l

/-- **With distinct keys, sorting forgets the order**: two permutations of one another
    sort to the same list. -/
theorem sortItems_eq_of_perm {l₁ l₂ : List (PyStr × JsonValue)} (hp : l₁.Perm l₂)
    (hn : (l₁.map Prod.fst).Nodup) : sortItems l₁ = sortItems l₂ := by
  have hn₂ : (l₂.map Prod.fst).Nodup := (hp.map Prod.fst).nodup_iff.1 hn
  refine List.eq_of_perm_of_sorted (r := KeyLt) ((sortItems_perm l₁).trans
    (hp.trans (sortItems_perm l₂).symm)) ?_ ?_
  · exact sorted_keyLt (List.sorted_insertionSort _ _)
      (((sortItems_perm l₁).map Prod.fst).nodup_iff.2 hn)
  · exact sorted_keyLt (List.sorted_insertionSort _ _)
      (((sortItems_perm l₂).map Prod.fst).nodup_iff.2 hn₂)

theorem dumps_eq_of_mem_iff (maxDigits : Nat) {d₁ d₂ : PyDict}
    (h : ∀ kv, kv ∈ d₁.items ↔ kv ∈ d₂.items) : dumps maxDigits d₁ = dumps maxDigits d₂ := by
  have hp : d₁.items.Perm d₂.items :=
    (List.perm_ext_iff_of_nodup (d₁.nodup.of_map _) (d₂.nodup.of_map _)).2 h
  simp only [dumps, sortItems_eq_of_perm hp d₁.nodup]

/-! ## No white space outside string literals -/

/-- Where a JSON lexer stands: between tokens, in a string literal, or just after a
    backslash in one. -/
inductive LexState
  | outside
  | inString
  | escaped
  deriving DecidableEq

/-- The lexer's move on one code point. -/
def lexStep : LexState → CodePoint → LexState
  | .outside, c => if c.val = 34 then .inString else .outside
  | .inString, c => if c.val = 92 then .escaped else if c.val = 34 then .outside else .inString
  | .escaped, _ => .inString

/-- JSON's insignificant white space (RFC 8259 §2). -/
def isJsonWs (c : CodePoint) : Bool :=
  c.val == 0x20 || c.val == 0x09 || c.val == 0x0A || c.val == 0x0D

/-- Whether the lexer, from `st`, meets white space outside a string literal. -/
def wsOutside : LexState → PyStr → Bool
  | _, [] => false
  | st, c :: s => (st == .outside && isJsonWs c) || wsOutside (lexStep st c) s

/-- The lexer reads the ASCII text `s` from `st` to `st'`, meeting no white space outside
    a string literal. -/
def Lexes (st st' : LexState) (s : PyStr) : Prop :=
  IsAscii s ∧ wsOutside st s = false ∧ s.foldl lexStep st = st'

instance {st st' : LexState} {s : PyStr} : Decidable (Lexes st st' s) :=
  inferInstanceAs (Decidable (IsAscii s ∧ _ ∧ _))

section
variable {st st' st'' : LexState}

theorem lexes_nil : Lexes st st [] := ⟨by simp [IsAscii], rfl, rfl⟩

theorem lexes_cons {c : CodePoint} {s : PyStr} (hc : c.val < 0x80)
    (hw : st = .outside → isJsonWs c = false) (hs : Lexes (lexStep st c) st' s) :
    Lexes st st' (c :: s) := by
  refine ⟨?_, ?_, hs.2.2⟩
  · intro d hd; rcases List.mem_cons.1 hd with rfl | hd
    exacts [hc, hs.1 d hd]
  · have := hs.2.1; cases st <;> simp_all [wsOutside]

theorem Lexes.append {a b : PyStr} (ha : Lexes st st' a) (hb : Lexes st' st'' b) :
    Lexes st st'' (a ++ b) := by
  induction a generalizing st with
  | nil => obtain ⟨-, -, rfl⟩ := ha; exact hb
  | cons c a ih =>
    refine lexes_cons (ha.1 c (List.mem_cons_self c a)) (fun h => ?_) (ih ⟨fun d hd => ha.1 d
      (List.mem_cons_of_mem c hd), ?_, ha.2.2⟩)
    · have := ha.2.1; subst h; simp_all [wsOutside]
    · have := ha.2.1; simp only [wsOutside, Bool.or_eq_false_iff] at this; exact this.2

theorem lexes_flatMap {f : CodePoint → PyStr} :
    ∀ {s : PyStr}, (∀ c ∈ s, Lexes st st (f c)) → Lexes st st (s.flatMap f)
  | [], _ => lexes_nil
  | c :: s, h => by
    rw [List.flatMap_cons]
    exact (h c (List.mem_cons_self c s)).append
      (lexes_flatMap fun d hd => h d (List.mem_cons_of_mem c hd))

theorem intercalate_singleton (sep p : PyStr) : sep.intercalate [p] = p := by
  simp [List.intercalate]

theorem intercalate_cons_cons (sep p q : PyStr) (ps : List PyStr) :
    sep.intercalate (p :: q :: ps) = p ++ (sep ++ sep.intercalate (q :: ps)) := by
  simp [List.intercalate]

theorem lexes_intercalate {sep : PyStr} (hs : Lexes st st sep) :
    ∀ {parts : List PyStr}, (∀ p ∈ parts, Lexes st st p) → Lexes st st (sep.intercalate parts)
  | [], _ => lexes_nil
  | [p], h => by rw [intercalate_singleton]; exact h p (List.mem_singleton_self p)
  | p :: q :: ps, h => by
    rw [intercalate_cons_cons]
    exact (h p (List.mem_cons_self _ _)).append (hs.append
      (lexes_intercalate hs fun r hr => h r (List.mem_cons_of_mem p hr)))

end

theorem hexDigit_val {n : Nat} (h : n < 16) :
    48 ≤ (hexDigit n).val ∧ (hexDigit n).val ≤ 102 ∧ (hexDigit n).val ≠ 92 := by
  unfold hexDigit; split_ifs <;> simp only [Fin.val_natCast] <;> omega

theorem lexes_uEscape (n : Nat) : Lexes .inString .inString (uEscape n) := by
  have h : ∀ m < 16, Lexes .inString .inString [hexDigit m] := fun m hm => by
    obtain ⟨h₁, h₂, h₃⟩ := hexDigit_val hm
    exact lexes_cons (by omega) (by simp) (by
      simp only [lexStep, h₃, (show (hexDigit m).val ≠ 34 by omega), if_false]; exact lexes_nil)
  exact lexes_cons (by decide) (by decide) <| lexes_cons (by decide) (by decide) <|
    (h _ (by omega)).append <| (h _ (by omega)).append <| (h _ (by omega)).append
      (h _ (Nat.mod_lt _ (by omega)))

theorem lexes_escapeChar (c : CodePoint) : Lexes .inString .inString (escapeChar c) := by
  unfold escapeChar
  refine iteInduction (fun h₁ => ?_) fun _ => ?_
  · exact lexes_cons (by omega) (by simp) (by simp [lexStep, h₁.2.2.1, h₁.2.2.2]; exact lexes_nil)
  iterate 7 refine iteInduction (fun _ => by decide) fun _ => ?_
  exact iteInduction (fun _ => lexes_uEscape _) fun _ => (lexes_uEscape _).append (lexes_uEscape _)

theorem lexes_encodeString (s : PyStr) : Lexes .outside .outside (encodeString s) :=
  lexes_cons (by decide) (by decide) <| (lexes_flatMap fun c _ => lexes_escapeChar c).append
    (lexes_cons (by decide) (by decide) lexes_nil)

/-- Text of code points that leave the lexer between tokens: ASCII, no `"`, no white
    space. -/
theorem lexes_of_forall : ∀ {s : PyStr}, (∀ c ∈ s, c.val < 0x80 ∧ c.val ≠ 34 ∧ isJsonWs c = false) →
    Lexes .outside .outside s
  | [], _ => lexes_nil
  | c :: s, h => by
    obtain ⟨h₁, h₂, h₃⟩ := h c (List.mem_cons_self c s)
    exact lexes_cons h₁ (fun _ => h₃) (by
      simpa only [lexStep, h₂, if_false] using
        lexes_of_forall fun d hd => h d (List.mem_cons_of_mem c hd))

theorem lexes_intRepr {maxDigits : Nat} {n : Int} {t : PyStr} (h : intRepr maxDigits n = .ok t) :
    Lexes .outside .outside t := by
  have hd : ∀ c ∈ PyStr.ofString (Nat.repr n.natAbs),
      c.val < 0x80 ∧ c.val ≠ 34 ∧ isJsonWs c = false := by
    simp only [PyStr.ofString, List.mem_map]
    rintro _ ⟨ch, hch, rfl⟩
    have := repr_digits n.natAbs ch hch
    simp only [isDigit, Bool.and_eq_true, decide_eq_true_eq] at this
    refine ⟨by simp only; omega, by simp only; omega, by simp [isJsonWs]; omega⟩
  simp only [intRepr] at h
  split_ifs at h <;> cases h
  · exact (show Lexes .outside .outside ("-" : PyStr) by decide).append (lexes_of_forall hd)
  · exact lexes_of_forall hd

theorem lexes_encodeValue {maxDigits : Nat} {v : JsonValue} {t : PyStr}
    (h : encodeValue maxDigits v = .ok t) : Lexes .outside .outside t := by
  cases v with
  | null => cases h; decide
  | int n => exact lexes_intRepr h
  | str s => cases h; exact lexes_encodeString s
  | strs xs =>
    cases h
    refine lexes_cons (by decide) (by decide) ((lexes_intercalate (by decide) ?_).append
      (lexes_cons (by decide) (by decide) lexes_nil))
    simp only [List.mem_map]
    rintro _ ⟨x, -, rfl⟩
    exact lexes_encodeString x

theorem lexes_encodeItems {maxDigits : Nat} :
    ∀ {items : List (PyStr × JsonValue)} {parts : List PyStr},
      encodeItems maxDigits items = .ok parts → ∀ p ∈ parts, Lexes .outside .outside p
  | [], _, h => by cases h; simp
  | (k, v) :: rest, parts, h => by
    simp only [encodeItems, except_bind_eq_ok] at h
    obtain ⟨ev, hev, r, hr, h⟩ := h
    cases h
    intro p hp
    rcases List.mem_cons.1 hp with rfl | hp
    · exact (lexes_encodeString k).append
        (lexes_cons (by decide) (by decide) (lexes_encodeValue hev))
    · exact lexes_encodeItems hr p hp

/-- The text of `dumps`: ASCII, and no white space outside string literals. -/
theorem dumps_tokens {maxDigits : Nat} {d : PyDict} {out : PyStr}
    (h : dumps maxDigits d = .ok out) : Lexes .outside .outside out := by
  simp only [dumps, except_bind_eq_ok] at h
  obtain ⟨parts, hp, h⟩ := h
  cases h
  exact lexes_cons (by decide) (by decide) ((lexes_intercalate (by decide)
    (lexes_encodeItems hp)).append (lexes_cons (by decide) (by decide) lexes_nil))

/-! ## What `dumps` accepts, and its bytes -/

/-- Only an `int` past the digit limit fails to print. -/
theorem encodeValue_ok_iff {maxDigits : Nat} {v : JsonValue} :
    (∃ t, encodeValue maxDigits v = .ok t) ↔
      ∀ n, v = .int n → ∃ t, intRepr maxDigits n = .ok t := by
  cases v <;> simp [encodeValue]

theorem encodeItems_ok_iff {maxDigits : Nat} : ∀ {items : List (PyStr × JsonValue)},
    (∃ parts, encodeItems maxDigits items = .ok parts) ↔
      ∀ kv ∈ items, ∃ t, encodeValue maxDigits kv.2 = .ok t
  | [] => by simp [encodeItems]
  | (k, v) :: rest => by
    rw [List.forall_mem_cons, ← encodeItems_ok_iff]
    simp only [encodeItems]
    cases encodeValue maxDigits v <;> cases encodeItems maxDigits rest <;>
      simp [bind, Except.bind, pure, Except.pure]

/-- `dumps` raises exactly when a value of the object cannot be printed. -/
theorem dumps_ok_iff {maxDigits : Nat} {d : PyDict} :
    (∃ out, dumps maxDigits d = .ok out) ↔
      ∀ kv ∈ d.items, ∃ t, encodeValue maxDigits kv.2 = .ok t := by
  have h : (∃ out, dumps maxDigits d = .ok out) ↔
      ∃ parts, encodeItems maxDigits (sortItems d.items) = .ok parts := by
    simp only [dumps]
    cases encodeItems maxDigits (sortItems d.items) <;> simp [bind, Except.bind, pure, Except.pure]
  rw [h, encodeItems_ok_iff]
  exact forall_congr' fun kv => imp_congr (sortItems_perm _).mem_iff Iff.rfl

theorem dumps_ne_nil {maxDigits : Nat} {d : PyDict} {out : PyStr}
    (h : dumps maxDigits d = .ok out) : out ≠ [] := by
  simp only [dumps, except_bind_eq_ok] at h
  obtain ⟨_, -, h⟩ := h
  cases h
  simp

/-- `json.dumps(d, separators=(",", ":"), sort_keys=True).encode()` (lines 137–138). -/
def canonicalBytes (maxDigits : Nat) (d : PyDict) : Except PyExc Bytes :=
  (dumps maxDigits d).bind encodeUtf8

/-- The text of `dumps` is ASCII, so `.encode()` only changes its type. -/
theorem canonicalBytes_eq_ok {maxDigits : Nat} {d : PyDict} {b : Bytes} :
    canonicalBytes maxDigits d = .ok b ↔
      ∃ out, dumps maxDigits d = .ok out ∧ b = out.map fun c => c.val.toUInt8 := by
  rw [canonicalBytes]
  cases hd : dumps maxDigits d with
  | error e => simp [Except.bind]
  | ok out =>
    rw [Except.bind, encodeUtf8_ascii (dumps_tokens hd).1]
    simp [eq_comm]

/-- **The canonical encoding**: two dicts with the same items, inserted in any order,
    encode to the same bytes; and those bytes are the ASCII of a text with no white space
    outside string literals. -/
theorem dumps_canonical (maxDigits : Nat) (d₁ d₂ : PyDict)
    (h : ∀ kv, kv ∈ d₁.items ↔ kv ∈ d₂.items) :
    canonicalBytes maxDigits d₁ = canonicalBytes maxDigits d₂ ∧
      ∀ b, canonicalBytes maxDigits d₁ = .ok b →
        ∃ out, b = out.map (fun c => c.val.toUInt8) ∧ IsAscii out ∧
          wsOutside .outside out = false := by
  refine ⟨by rw [canonicalBytes, canonicalBytes, dumps_eq_of_mem_iff maxDigits h], fun b hb => ?_⟩
  obtain ⟨out, hout, rfl⟩ := canonicalBytes_eq_ok.1 hb
  exact ⟨out, rfl, (dumps_tokens hout).1, (dumps_tokens hout).2.1⟩

theorem dumps_canonical_swap :
    let d₁ : PyDict := ⟨[("alg", .str "HS256"), ("typ", .str "JWT")], by decide⟩
    let d₂ : PyDict := ⟨[("typ", .str "JWT"), ("alg", .str "HS256")], by decide⟩
    (∀ kv, kv ∈ d₁.items ↔ kv ∈ d₂.items) ∧
      canonicalBytes 4300 d₁ = canonicalBytes 4300 d₂ ∧
      ∀ b, canonicalBytes 4300 d₁ = .ok b →
        ∃ out, b = out.map (fun c => c.val.toUInt8) ∧ IsAscii out ∧
          wsOutside .outside out = false :=
  have h : ∀ kv, kv ∈ [(("alg" : PyStr), JsonValue.str "HS256"), ("typ", .str "JWT")] ↔
      kv ∈ [(("typ" : PyStr), JsonValue.str "JWT"), ("alg", .str "HS256")] := fun kv => by
    simp only [List.mem_cons, List.not_mem_nil, or_false]; exact or_comm
  ⟨h, dumps_canonical 4300 ⟨_, by decide⟩ ⟨_, by decide⟩ h⟩

end DevAdminToken
