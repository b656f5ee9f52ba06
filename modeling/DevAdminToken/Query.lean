/-
  DevAdminToken formalization — the query strings of the API clients, and what the server
  reads from them.

  * `readQuery` is what the server reads from the bytes of a query: the URL Standard's
    `application/x-www-form-urlencoded` parser (`formDecode`: the pieces between `&`s, empty
    ones skipped, each split at its first `=`, `+` read as a space, then percent-decoded),
    then UTF-8.  `sentQuery` is what `requests` sends of the text after a URL's `?`.
  * `encodeParams` is `requests`' encoding of `params=` (`_encode_params`, then `urlencode`
    with `quote_plus`), which `_get` in `demos/python_client/stateset_manufacturing.py` and
    `session.get` in `examples/manufacturing-client.py` use; `withFilters` builds the
    `params` of their list methods.  The server reads back every item that is not `None`,
    whatever its text (`readQuery_encodeParams`).
  * `joinQuery` is the query `examples/python-example.py` writes by hand,
    `'&'.join(f"{k}={v}" ...)`, for `list_orders` and `list_inventory` (`pageParams`), and
    `get_sales_trends` writes one as an f-string.  Such a query reads back only when no text
    holds `&`, `+`, `%` or `#` (`readQuery_pageParams`, `readQuery_getSalesTrends`): a `&` in
    a filter's value adds a filter the caller never passed (`listOrders_status_injects`).
-/
import Mathlib.Data.List.ReduceOption
import DevAdminToken.Token

namespace DevAdminToken.Query

/-! ## Values -/

/-- A value of `params` or of `**filters`: `None`, an `int` or a `str`. -/
inductive Arg
  | none
  | int (n : ℤ)
  | str (s : PyStr)
  deriving DecidableEq

/-- `str(v)`, which `f"{v}"` writes too. -/
def Arg.text (maxDigits : Nat) : Arg → Except PyExc PyStr
  | .none => .ok "None"
  | .int n => intRepr maxDigits n
  | .str s => .ok s

/-- The `str`s a value holds. -/
def Arg.strings : Arg → List PyStr
  | .str s => [s]
  | _ => []

/-- An optional `str` argument as a value. -/
def Arg.ofOption : Option PyStr → Arg
  | Option.none => .none
  | Option.some s => .str s

/-! ## What the server reads -/

/-- `+` read as a space, before percent-decoding. -/
def plusToSpace (bs : Bytes) : Bytes := bs.map fun b => if b = 43 then 32 else b

/-- Percent-decoding: `%` and two hex digits is the byte they spell; any other byte, a `%`
    included, stays. -/
def percentDecode : Bytes → Bytes
  | b :: h :: l :: rest =>
    match b == 37, hexVal (asciiChar h), hexVal (asciiChar l) with
    | true, some x, some y => (16 * x + y).toUInt8 :: percentDecode rest
    | _, _, _ => b :: percentDecode (h :: l :: rest)
  | b :: t => b :: percentDecode t
  | [] => []

/-- A piece `name=value`, split at its first `=`; with no `=` the value is empty. -/
def splitPiece (s : Bytes) : Bytes × Bytes :=
  (s.takeWhile (· != 61), (s.dropWhile (· != 61)).drop 1)

/-- The URL Standard's `application/x-www-form-urlencoded` parser up to its last step: the
    name and value bytes of each piece. -/
def formDecode (q : Bytes) : List (Bytes × Bytes) :=
  ((q.splitOn 38).filter (!·.isEmpty)).map fun s =>
    (percentDecode (plusToSpace (splitPiece s).1), percentDecode (plusToSpace (splitPiece s).2))

/-- The parser's last step: a name and a value decoded as UTF-8.  The standard puts U+FFFD
    for a malformed sequence where this fails; no client here sends one. -/
def decodePair (p : Bytes × Bytes) : Except PyExc (PyStr × PyStr) := do
  pure (← decodeUtf8 p.1, ← decodeUtf8 p.2)

/-- The name-value pairs the server reads from the bytes of a query. -/
def readQuery (q : Bytes) : Except PyExc (List (PyStr × PyStr)) := (formDecode q).mapM decodePair

/-- The query `requests` sends for a URL whose text after its `?` is `qs`: up to the first `#`,
    which starts the fragment, in UTF-8.  On the way `requests` percent-encodes what a URL
    cannot hold, which the server's percent-decoding turns back into the UTF-8; that holds for a
    text with no `%`, the only texts the theorems below send.  `urllib3` encodes with
    `surrogatepass`, which writes a lone surrogate as three bytes where strict UTF-8 raises:
    the two agree on a text with no surrogate, and every theorem below that sends a text asks
    for one (`Encodable`, `Plain`). -/
def sentQuery (qs : PyStr) : Except PyExc Bytes := encodeUtf8 (qs.takeWhile (· != 35))

/-! ## `requests`: `params=` -/

/-- The bytes `quote` never escapes: ASCII letters and digits, and `_.-~`. -/
def alwaysSafe (b : UInt8) : Bool :=
  (0x30 ≤ b.toNat && b.toNat ≤ 0x39) || (0x41 ≤ b.toNat && b.toNat ≤ 0x5A) ||
    (0x61 ≤ b.toNat && b.toNat ≤ 0x7A) || b.toNat == 0x5F || b.toNat == 0x2E ||
    b.toNat == 0x2D || b.toNat == 0x7E

/-- An upper-case hex digit, as `'%{:02X}'` writes it. -/
def hexUpper (n : Nat) : CodePoint :=
  if n < 10 then ((48 + n : Nat) : CodePoint) else ((55 + n : Nat) : CodePoint)

/-- `quote_plus` of one byte: a safe byte stays, a space is `+`, any other byte is `%XX`. -/
def quoteByte (b : UInt8) : PyStr :=
  if alwaysSafe b then [asciiChar b]
  else if b = 32 then [43]
  else [37, hexUpper (b.toNat / 16), hexUpper (b.toNat % 16)]

/-- `quote_plus(bs)` of `bytes`. -/
def quotePlus (bs : Bytes) : PyStr := bs.flatMap quoteByte

/-- `'&'.join(k + '=' + v ...)` of the quoted keys and values. -/
def quotePairs (pairs : List (Bytes × Bytes)) : PyStr :=
  [38].intercalate (pairs.map fun p => quotePlus p.1 ++ [61] ++ quotePlus p.2)

/-- The loop of `_encode_params` on one item: a `None` value is dropped; a `str` key or value
    is encoded to UTF-8 (`UnicodeEncodeError` on a lone surrogate); an `int` value stays. -/
def encodeItem : PyStr × Arg → Except PyExc (Option (Bytes × (Bytes ⊕ ℤ)))
  | (_, .none) => pure none
  | (k, .int n) => do pure (some (← encodeUtf8 k, .inr n))
  | (k, .str s) => do pure (some (← encodeUtf8 k, .inl (← encodeUtf8 s)))

/-- The loop of `urlencode(..., doseq=True)` on one item: an `int` value through `str()`
    (`ValueError` past the digit limit), as UTF-8. -/
def itemBytes (maxDigits : Nat) (item : Bytes × (Bytes ⊕ ℤ)) : Except PyExc (Bytes × Bytes) :=
  (item.1, ·) <$> match item.2 with
    | .inl b => pure b
    | .inr n => intRepr maxDigits n >>= encodeUtf8

/-- `urlencode(items, doseq=True)`.  Quoting cannot fail, so quoting after the whole loop
    gives the result and the exception of quoting inside it. -/
def urlencode (maxDigits : Nat) (items : List (Bytes × (Bytes ⊕ ℤ))) : Except PyExc PyStr :=
  quotePairs <$> items.mapM (itemBytes maxDigits)

/-- `RequestEncodingMixin._encode_params(params)` of a dict. -/
def encodeParams (maxDigits : Nat) (params : List (PyStr × Arg)) : Except PyExc PyStr := do
  let items ← params.mapM encodeItem
  urlencode maxDigits items.reduceOption

/-- What `params` says: the items whose value is not `None`, each value as `str()` writes
    it. -/
def paramTexts (maxDigits : Nat) (params : List (PyStr × Arg)) :
    Except PyExc (List (PyStr × PyStr)) :=
  (params.filter (·.2 ≠ .none)).mapM fun p => (p.1, ·) <$> p.2.text maxDigits

/-! ## The clients' list methods -/

/-- `params = {...}`, then `if arg: params[key] = arg` for each optional filter, in order.  A
    filter is its text: a `str`, an enum member's `value` or a date's `isoformat()`; `None`
    and `''` are falsy, and an enum member or a date is truthy with a text that is not
    empty. -/
def withFilters (fixed : List (PyStr × Arg)) (filters : List (PyStr × Option PyStr)) :
    List (PyStr × Arg) :=
  fixed ++ filters.filterMap fun f => (f.2.filter (!·.isEmpty)).map fun s => (f.1, .str s)

/-- `RobotStatus` -/
inductive RobotStatus
  | inProduction | testing | ready | shipped | inService | returned | decommissioned

/-- `RobotStatus.value` -/
def RobotStatus.value : RobotStatus → PyStr
  | .inProduction => "in_production"
  | .testing => "testing"
  | .ready => "ready"
  | .shipped => "shipped"
  | .inService => "in_service"
  | .returned => "returned"
  | .decommissioned => "decommissioned"

/-- `RobotType` -/
inductive RobotType
  | articulatedArm | cobot | amr | specialized

/-- `RobotType.value` -/
def RobotType.value : RobotType → PyStr
  | .articulatedArm => "articulated_arm"
  | .cobot => "cobot"
  | .amr => "amr"
  | .specialized => "specialized"

/-- `NcrSeverity` -/
inductive NcrSeverity
  | critical | major | minor

/-- `NcrSeverity.value` -/
def NcrSeverity.value : NcrSeverity → PyStr
  | .critical => "critical"
  | .major => "major"
  | .minor => "minor"

/-- `x.value if isinstance(x, E) else x` -/
def enumText {E : Type} (value : E → PyStr) : E ⊕ PyStr → PyStr := Sum.elim value id

/-- The `params` of `RobotsAPI.list(status, robot_type, robot_model, customer_id, limit,
    offset)` (`limit` 50 and `offset` 0 unless given). -/
def RobotsAPI.list (status : Option (RobotStatus ⊕ PyStr)) (robotType : Option (RobotType ⊕ PyStr))
    (robotModel customerId : Option PyStr) (limit offset : ℤ) : List (PyStr × Arg) :=
  withFilters [("limit", .int limit), ("offset", .int offset)]
    [("status", status.map (enumText RobotStatus.value)),
      ("robot_type", robotType.map (enumText RobotType.value)),
      ("robot_model", robotModel), ("customer_id", customerId)]

/-- The `params` of `NCRsAPI.list(status, severity, robot_serial_id, assigned_to, limit,
    offset)`. -/
def NCRsAPI.list (status : Option PyStr) (severity : Option (NcrSeverity ⊕ PyStr))
    (robotSerialId assignedTo : Option PyStr) (limit offset : ℤ) : List (PyStr × Arg) :=
  withFilters [("limit", .int limit), ("offset", .int offset)]
    [("status", status), ("severity", severity.map (enumText NcrSeverity.value)),
      ("robot_serial_id", robotSerialId), ("assigned_to", assignedTo)]

/-- The `params` of `ProductionAPI.get_metrics(production_date, production_line_id)`. -/
def ProductionAPI.getMetrics (productionDate productionLineId : Option PyStr) :
    List (PyStr × Arg) :=
  withFilters [] [("production_date", productionDate), ("production_line_id", productionLineId)]

/-- The `params` of `ManufacturingClient.list_work_orders(status, page, limit)` (`page` 1 and
    `limit` 20 unless given). -/
def ManufacturingClient.listWorkOrders (status : Option PyStr) (page limit : ℤ) :
    List (PyStr × Arg) :=
  withFilters [("page", .int page), ("limit", .int limit)] [("status", status)]

/-- The `params` of `ManufacturingClient.get_yield_analysis(product_id)`. -/
def ManufacturingClient.getYieldAnalysis (productId : Option PyStr) : List (PyStr × Arg) :=
  withFilters [] [("product_id", productId)]

/-- The `params` of `ManufacturingClient.get_production_metrics(start_date, end_date)`: both
    dates, with no truthiness test. -/
def ManufacturingClient.getProductionMetrics (startDate endDate : Option PyStr) :
    List (PyStr × Arg) :=
  [("start_date", .ofOption startDate), ("end_date", .ofOption endDate)]

/-! ## `python-example.py`: the query by hand -/

/-- The `params` of `list_orders` and `list_inventory`: `page` and `limit` from the filters
    (1 and 20 if absent), then each of the method's own two filters that is present
    (`'k' in filters`), a `None` included; every other filter is dropped. -/
def pageParams (keys : List PyStr) (filters : List (PyStr × Arg)) : List (PyStr × Arg) :=
  ([("page", (List.lookup ("page" : PyStr) filters).getD (.int 1)),
    ("limit", (List.lookup ("limit" : PyStr) filters).getD (.int 20))] : List (PyStr × Arg)) ++
  keys.filterMap fun k => (filters.lookup k).map (k, ·)

/-- `'&'.join([f"{k}={v}" for k, v in params.items()])` -/
def joinQuery (maxDigits : Nat) (params : List (PyStr × Arg)) : Except PyExc PyStr :=
  ([38].intercalate ·) <$> params.mapM fun p => (p.1 ++ [61] ++ ·) <$> p.2.text maxDigits

/-- The `query_string` of `StateSetClient.list_orders(**filters)`. -/
def StateSetClient.listOrders (maxDigits : Nat) (filters : List (PyStr × Arg)) :
    Except PyExc PyStr :=
  joinQuery maxDigits (pageParams ["status", "customer_id"] filters)

/-- The `query_string` of `StateSetClient.list_inventory(**filters)`. -/
def StateSetClient.listInventory (maxDigits : Nat) (filters : List (PyStr × Arg)) :
    Except PyExc PyStr :=
  joinQuery maxDigits (pageParams ["product_id", "location_id"] filters)

/-- The query of `StateSetClient.get_sales_trends(start_date, end_date, interval='month')`,
    an f-string. -/
def StateSetClient.getSalesTrends (startDate endDate interval : PyStr) : PyStr :=
  "start_date=" ++ startDate ++ "&end_date=" ++ endDate ++ "&interval=" ++ interval

/-! ## Percent-decoding -/

@[simp] theorem plusToSpace_append (a b : Bytes) :
    plusToSpace (a ++ b) = plusToSpace a ++ plusToSpace b := List.map_append _ _ _

@[simp] theorem asciiBytes_append (a b : PyStr) :
    asciiBytes (a ++ b) = asciiBytes a ++ asciiBytes b := List.map_append _ _ _

theorem plusToSpace_cons_of_ne {b : UInt8} (h : b ≠ 43) (t : Bytes) :
    plusToSpace (b :: t) = b :: plusToSpace t := by simp [plusToSpace, h]

theorem percentDecode_cons_of_ne {b : UInt8} (h : b ≠ 37) (t : Bytes) :
    percentDecode (b :: t) = b :: percentDecode t := by
  match t with
  | [] => rfl
  | [_] => rfl
  | _ :: _ :: _ => simp [percentDecode, h]

theorem percentDecode_escape {h l : UInt8} {x y : Nat} (hx : hexVal (asciiChar h) = some x)
    (hy : hexVal (asciiChar l) = some y) (rest : Bytes) :
    percentDecode (37 :: h :: l :: rest) = (16 * x + y).toUInt8 :: percentDecode rest := by
  simp [percentDecode, hx, hy]

theorem plusToSpace_of_not_mem : ∀ {bs : Bytes}, (43 : UInt8) ∉ bs → plusToSpace bs = bs
  | [], _ => rfl
  | b :: bs, h => by
    rw [List.mem_cons, not_or] at h
    rw [plusToSpace_cons_of_ne (Ne.symm h.1), plusToSpace_of_not_mem h.2]

theorem percentDecode_of_not_mem : ∀ {bs : Bytes}, (37 : UInt8) ∉ bs → percentDecode bs = bs
  | [], _ => rfl
  | b :: bs, h => by
    rw [List.mem_cons, not_or] at h
    rw [percentDecode_cons_of_ne (Ne.symm h.1), percentDecode_of_not_mem h.2]

theorem toUInt8_toNat (b : UInt8) : b.toNat.toUInt8 = b :=
  toUInt8_eq_iff.2 (Nat.mod_eq_of_lt (toNat_lt b))

/-- What the server needs of an upper-case hex digit: it reads back, and it is no `+`. -/
theorem hexUpper_read {n : Nat} (h : n < 16) :
    hexVal (asciiChar (hexUpper n).val.toUInt8) = some n ∧ (hexUpper n).val.toUInt8 ≠ 43 := by
  interval_cases n <;> decide

theorem percentDecode_quoteByte (b : UInt8) (rest : Bytes) :
    percentDecode (plusToSpace (asciiBytes (quoteByte b) ++ rest)) =
      b :: percentDecode (plusToSpace rest) := by
  have hb := toNat_lt b
  unfold quoteByte
  split_ifs with hs hsp
  · -- a safe byte stays
    have h43 : b ≠ 43 := fun h => by subst h; exact absurd hs (by decide)
    have h37 : b ≠ 37 := fun h => by subst h; exact absurd hs (by decide)
    simp only [asciiBytes, List.map_cons, List.map_nil, List.cons_append, List.nil_append]
    rw [show (asciiChar b).val.toUInt8 = b from toUInt8_toNat b, plusToSpace_cons_of_ne h43,
      percentDecode_cons_of_ne h37]
  · -- a space is `+`, read back as a space
    subst hsp
    show percentDecode (plusToSpace (43 :: rest)) = _
    rw [show plusToSpace (43 :: rest) = 32 :: plusToSpace rest by simp [plusToSpace],
      percentDecode_cons_of_ne (by decide)]
  · -- any other byte is `%XX`
    obtain ⟨hx, hx43⟩ := hexUpper_read (n := b.toNat / 16) (by omega)
    obtain ⟨hy, hy43⟩ := hexUpper_read (n := b.toNat % 16) (by omega)
    simp only [asciiBytes, List.map_cons, List.map_nil, List.cons_append, List.nil_append]
    rw [plusToSpace_cons_of_ne (by decide), plusToSpace_cons_of_ne hx43,
      plusToSpace_cons_of_ne hy43, show ((37 : CodePoint).val.toUInt8) = 37 from rfl,
      percentDecode_escape hx hy, Nat.div_add_mod, toUInt8_toNat]

/-- **`quote_plus` reads back**: `+` as a space, then percent-decoding, give the bytes. -/
theorem percentDecode_quotePlus (bs rest : Bytes) :
    percentDecode (plusToSpace (asciiBytes (quotePlus bs) ++ rest)) =
      bs ++ percentDecode (plusToSpace rest) := by
  induction bs with
  | nil => rfl
  | cons b bs ih =>
    rw [quotePlus, List.flatMap_cons, asciiBytes_append, List.append_assoc,
      percentDecode_quoteByte, ← quotePlus, ih, List.cons_append]

/-- The characters `quote_plus` writes: ASCII, and none of `&`, `=` and `#`. -/
theorem mem_quotePlus {bs : Bytes} {c : CodePoint} (hc : c ∈ quotePlus bs) :
    c.val < 128 ∧ c.val ≠ 38 ∧ c.val ≠ 61 ∧ c.val ≠ 35 := by
  obtain ⟨b, -, hc⟩ := List.mem_flatMap.1 hc
  have hb := toNat_lt b
  have hex : ∀ n < 16, (hexUpper n).val < 128 ∧ (hexUpper n).val ≠ 38 ∧
      (hexUpper n).val ≠ 61 ∧ (hexUpper n).val ≠ 35 := by decide
  unfold quoteByte at hc
  split_ifs at hc with hs
  · rw [List.mem_singleton.1 hc]
    simp only [alwaysSafe, Bool.or_eq_true, Bool.and_eq_true, decide_eq_true_eq,
      beq_iff_eq] at hs
    show b.toNat < 128 ∧ b.toNat ≠ 38 ∧ b.toNat ≠ 61 ∧ b.toNat ≠ 35
    omega
  · rw [List.mem_singleton.1 hc]; decide
  · simp only [List.mem_cons, List.not_mem_nil, or_false] at hc
    rcases hc with rfl | rfl | rfl
    · decide
    · exact hex _ (by omega)
    · exact hex _ (by omega)

/-! ## Splitting at `&` and `=` -/

section
variable {α β : Type} (x : α)

theorem join_eq_flatMap (l : List α) (ls : List (List α)) :
    [x].intercalate (l :: ls) = l ++ ls.flatMap (x :: ·) := by
  induction ls generalizing l with
  | nil => simp [List.intercalate]
  | cons m ls ih => simp [List.intercalate] at ih ⊢; simp [ih]

theorem map_join (f : α → β) (ls : List (List α)) :
    ([x].intercalate ls).map f = [f x].intercalate (ls.map (List.map f)) := by
  cases ls with
  | nil => rfl
  | cons l ls => simp [join_eq_flatMap, List.map_flatMap, List.flatMap_map]

theorem mem_join {c : α} {ls : List (List α)} (h : c ∈ [x].intercalate ls) :
    c = x ∨ ∃ l ∈ ls, c ∈ l := by
  cases ls with
  | nil => simp [List.intercalate] at h
  | cons l ls =>
    rw [join_eq_flatMap] at h
    simp only [List.mem_append, List.mem_flatMap, List.mem_cons] at h
    rcases h with h | ⟨m, hm, rfl | h⟩
    · exact .inr ⟨l, List.mem_cons_self _ _, h⟩
    · exact .inl rfl
    · exact .inr ⟨m, List.mem_cons_of_mem _ hm, h⟩

end

theorem splitPiece_append {k : Bytes} (hk : 61 ∉ k) (v : Bytes) :
    splitPiece (k ++ 61 :: v) = (k, v) := by
  have h : ∀ a ∈ k, (a != 61) = true := fun a ha => bne_iff_ne.2 fun he => hk (he ▸ ha)
  simp [splitPiece, List.takeWhile_append_of_pos h, List.dropWhile_append_of_pos h]

/-- **The parser splits a join back**: pieces `name=value` joined with `&`, no name holding
    `&` or `=` and no value holding `&`, read as the pairs, each decoded. -/
theorem formDecode_join (ps : List (Bytes × Bytes)) (hk : ∀ p ∈ ps, 38 ∉ p.1 ∧ 61 ∉ p.1)
    (hv : ∀ p ∈ ps, 38 ∉ p.2) :
    formDecode ([38].intercalate (ps.map fun p => p.1 ++ 61 :: p.2)) =
      ps.map fun p => (percentDecode (plusToSpace p.1), percentDecode (plusToSpace p.2)) := by
  cases ps with
  | nil => rfl
  | cons p ps =>
    rw [formDecode, List.splitOn_intercalate]
    · rw [List.filter_eq_self.2 fun q hq => by obtain ⟨r, -, rfl⟩ := List.mem_map.1 hq; simp,
        List.map_map]
      refine List.map_congr_left fun q hq => ?_
      simp only [Function.comp, splitPiece_append (hk q hq).2]
    · simp only [List.mem_map]
      rintro _ ⟨q, hq, rfl⟩ h
      rcases List.mem_append.1 h with h | h
      · exact (hk q hq).1 h
      · exact hv q hq (List.mem_of_ne_of_mem (by decide) h)
    · simp

/-! ## `requests` reads back -/

theorem asciiBytes_quotePlus {bs : Bytes} {x : UInt8} (hx : x ∈ asciiBytes (quotePlus bs)) :
    x ≠ 38 ∧ x ≠ 61 := by
  obtain ⟨c, hc, rfl⟩ := List.mem_map.1 hx
  obtain ⟨h128, h38, h61, -⟩ := mem_quotePlus hc
  have hv : c.val.toUInt8.toNat = c.val := toNat_toUInt8_of_lt (by omega)
  exact ⟨fun h => h38 (by rw [← hv, h]; rfl), fun h => h61 (by rw [← hv, h]; rfl)⟩

theorem mem_quotePairs {bps : List (Bytes × Bytes)} {c : CodePoint} (hc : c ∈ quotePairs bps) :
    c.val < 128 ∧ c.val ≠ 35 := by
  rcases mem_join _ hc with rfl | ⟨l, hl, hc⟩
  · decide
  obtain ⟨p, -, rfl⟩ := List.mem_map.1 hl
  simp only [List.mem_append, List.mem_singleton] at hc
  rcases hc with (hc | rfl) | hc
  · exact ⟨(mem_quotePlus hc).1, (mem_quotePlus hc).2.2.2⟩
  · decide
  · exact ⟨(mem_quotePlus hc).1, (mem_quotePlus hc).2.2.2⟩

/-- **`requests`' query reads back**: the server gets every key's and value's bytes, in
    order. -/
theorem formDecode_quotePairs (bps : List (Bytes × Bytes)) :
    formDecode (asciiBytes (quotePairs bps)) = bps := by
  have hq : ∀ bs, percentDecode (plusToSpace (asciiBytes (quotePlus bs))) = bs := fun bs => by
    simpa using (percentDecode_quotePlus bs []).trans (List.append_nil bs)
  have hjoin : asciiBytes (quotePairs bps) = [38].intercalate
      ((bps.map fun p => (asciiBytes (quotePlus p.1), asciiBytes (quotePlus p.2))).map
        fun p => p.1 ++ 61 :: p.2) := by
    rw [quotePairs, asciiBytes, map_join, List.map_map, List.map_map]
    exact congrArg _ (List.map_congr_left fun p _ => by simp [asciiBytes]; rfl)
  rw [hjoin, formDecode_join]
  · simp [Function.comp_def, hq]
  · simp only [List.mem_map]
    rintro _ ⟨p, -, rfl⟩
    exact ⟨fun h => (asciiBytes_quotePlus h).1 rfl, fun h => (asciiBytes_quotePlus h).2 rfl⟩
  · simp only [List.mem_map]
    rintro _ ⟨p, -, rfl⟩ h
    exact (asciiBytes_quotePlus h).1 rfl

theorem sentQuery_quotePairs (bps : List (Bytes × Bytes)) :
    sentQuery (quotePairs bps) = .ok (asciiBytes (quotePairs bps)) := by
  rw [sentQuery, List.takeWhile_eq_self_iff.2 fun c hc =>
    bne_iff_ne.2 fun h => (mem_quotePairs hc).2 (by rw [h]; rfl)]
  exact encodeUtf8_ascii fun c hc => (mem_quotePairs hc).1

/-- `str()` of an `int` writes a `-` and decimal digits. -/
theorem intRepr_digits {maxDigits : Nat} {n : ℤ} {t : PyStr} (h : intRepr maxDigits n = .ok t) :
    ∀ c ∈ t, c.val = 45 ∨ (48 ≤ c.val ∧ c.val ≤ 57) := by
  have hd : ∀ c ∈ PyStr.ofString (Nat.repr n.natAbs), c.val = 45 ∨ (48 ≤ c.val ∧ c.val ≤ 57) :=
    fun c hc => by
      have := ofString_repr_digits _ c hc
      simp only [isDigit, Bool.and_eq_true, decide_eq_true_eq] at this
      omega
  simp only [intRepr] at h
  split_ifs at h <;> cases h
  · exact fun c hc => (List.mem_append.1 hc).elim (fun hc => by
      rw [show PyStr.ofString "-" = [45] from rfl, List.mem_singleton] at hc; subst hc; decide)
      (hd c)
  · exact hd

theorem intRepr_ascii {maxDigits : Nat} {n : ℤ} {t : PyStr} (h : intRepr maxDigits n = .ok t) :
    IsAscii t := fun c hc => by have := intRepr_digits h c hc; omega

theorem decodePair_of_encode {k v : PyStr} {kb vb : Bytes} (hk : encodeUtf8 k = .ok kb)
    (hv : encodeUtf8 v = .ok vb) : decodePair (kb, vb) = .ok (k, v) := by
  simp [decodePair, (encodeUtf8_roundtrip k).2 kb hk, (encodeUtf8_roundtrip v).2 vb hv, bind,
    Except.bind, pure, Except.pure]

theorem encodeUtf8_of_plain {s : PyStr} (h : ∀ c ∈ s, ¬IsSurrogate c) :
    ∃ b, encodeUtf8 s = .ok b := (encodeUtf8_roundtrip s).1.2 h

/-- Keys and `str` values with no lone surrogate: what `requests` encodes without raising. -/
def Encodable (params : List (PyStr × Arg)) : Prop :=
  ∀ p ∈ params, ∀ s ∈ p.1 :: p.2.strings, ∀ c ∈ s, ¬IsSurrogate c

instance : DecidablePred Encodable := fun params =>
  decidable_of_iff (params.all fun p => (p.1 :: p.2.strings).all fun s => s.all fun c =>
    !decide (IsSurrogate c))
    (by simp only [Encodable, List.all_eq_true, Bool.not_eq_true', decide_eq_false_iff_not])

@[simp] theorem except_ok_bind {ε α β : Type} (a : α) (f : α → Except ε β) :
    (Except.ok a >>= f) = f a := rfl

@[simp] theorem except_error_bind {ε α β : Type} (e : ε) (f : α → Except ε β) :
    (Except.error e >>= f) = .error e := rfl

@[simp] theorem except_ok_map {ε α β : Type} (a : α) (f : α → β) :
    (f <$> Except.ok a : Except ε β) = .ok (f a) := rfl

theorem paramTexts_cons (maxDigits : Nat) (k : PyStr) {v : Arg} (hv : v ≠ .none)
    (params : List (PyStr × Arg)) :
    paramTexts maxDigits ((k, v) :: params) = (v.text maxDigits >>= fun t =>
      paramTexts maxDigits params >>= fun ts => pure ((k, t) :: ts)) := by
  rw [paramTexts, List.filter_cons_of_pos (by simpa using hv), List.mapM_cons]
  cases v.text maxDigits <;> rfl

/-- A list read in two passes, when the second cannot fail on the head. -/
theorem mapM_cons_bind_mapM {α β γ ε : Type} {f : α → Except ε β} {g : β → Except ε γ} {a : α}
    {b : β} {c : γ} (hf : f a = .ok b) (hg : g b = .ok c) (l : List α) :
    ((a :: l).mapM f >>= (·.mapM g)) = ((l.mapM f >>= (·.mapM g)) >>= fun cs => pure (c :: cs)) := by
  rw [List.mapM_cons, hf, except_ok_bind]
  cases l.mapM f with
  | error e => rfl
  | ok bs => simp only [except_ok_bind, pure_bind, List.mapM_cons, hg]

/-- `requests`' first pass encodes every item, and the bytes of its second pass decode to
    the texts of `params`. -/
theorem encodeItems_decode (maxDigits : Nat) :
    ∀ {params : List (PyStr × Arg)}, Encodable params → ∃ items,
      params.mapM encodeItem = .ok items ∧
      (items.reduceOption.mapM (itemBytes maxDigits) >>= (·.mapM decodePair)) =
        paramTexts maxDigits params
  | [], _ => ⟨[], rfl, rfl⟩
  | (k, v) :: params, h => by
    obtain ⟨items, hitems, ih⟩ := encodeItems_decode maxDigits fun p hp =>
      h p (List.mem_cons_of_mem _ hp)
    have hkv := h _ (List.mem_cons_self _ _)
    obtain ⟨kb, hkb⟩ := encodeUtf8_of_plain (hkv k (List.mem_cons_self _ _))
    cases v with
    | none =>
      refine ⟨none :: items, by rw [List.mapM_cons, hitems]; rfl, ?_⟩
      simpa [paramTexts, List.reduceOption] using ih
    | int n =>
      refine ⟨some (kb, .inr n) :: items, by
        rw [List.mapM_cons, hitems]; simp [encodeItem, hkb, bind, Except.bind, pure, Except.pure],
        ?_⟩
      rw [paramTexts_cons _ _ (by simp), List.reduceOption_cons_of_some, Arg.text]
      cases hr : intRepr maxDigits n with
      | error e =>
        rw [List.mapM_cons, show itemBytes maxDigits (kb, .inr n) = .error e by
          simp only [itemBytes, hr, except_error_bind]; rfl]
        rfl
      | ok t =>
        have htb := encodeUtf8_ascii (intRepr_ascii hr)
        rw [mapM_cons_bind_mapM (by simp [itemBytes, hr, htb, bind, Except.bind])
          (decodePair_of_encode hkb htb), ih, except_ok_bind]
    | str s =>
      obtain ⟨sb, hsb⟩ := encodeUtf8_of_plain (hkv s (by simp [Arg.strings]))
      refine ⟨some (kb, .inl sb) :: items, by
        rw [List.mapM_cons, hitems]; simp [encodeItem, hkb, hsb, bind, Except.bind, pure, Except.pure],
        ?_⟩
      rw [paramTexts_cons _ _ (by simp), List.reduceOption_cons_of_some, Arg.text,
        mapM_cons_bind_mapM (show itemBytes maxDigits (kb, .inl sb) = .ok (kb, sb) from rfl)
          (decodePair_of_encode hkb hsb), ih, except_ok_bind]

theorem encodeParams_read (maxDigits : Nat) {params : List (PyStr × Arg)} (h : Encodable params) :
    (encodeParams maxDigits params >>= sentQuery >>= readQuery) = paramTexts maxDigits params := by
  obtain ⟨items, hitems, hdec⟩ := encodeItems_decode maxDigits h
  rw [← hdec, encodeParams, hitems, except_ok_bind, urlencode]
  cases items.reduceOption.mapM (itemBytes maxDigits) with
  | error e => rfl
  | ok bps =>
    show (sentQuery (quotePairs bps) >>= readQuery) = _
    rw [sentQuery_quotePairs, except_ok_bind, readQuery, formDecode_quotePairs]
    rfl

/-- **`requests` sends `params` intact**: whatever their text, the server reads back the
    items whose value is not `None`, in order, each value as `str()` writes it; an `int` past
    the digit limit raises the same `ValueError` either way.  Only a lone surrogate, which
    `requests` refuses to encode, is excluded. -/
theorem readQuery_encodeParams (maxDigits : Nat) {params : List (PyStr × Arg)}
    (h : Encodable params) :
    (encodeParams maxDigits params >>= sentQuery >>= readQuery) = paramTexts maxDigits params :=
  encodeParams_read maxDigits h

theorem readQuery_encodeParams_filters :
    Encodable [("limit", .int 50), ("status", .none), ("robot_model", .str "IR-6000&x=1")] ∧
      (encodeParams 4300 [("limit", .int 50), ("status", .none),
        ("robot_model", .str "IR-6000&x=1")] >>= sentQuery >>= readQuery) =
      .ok [("limit", "50"), ("robot_model", "IR-6000&x=1")] :=
  ⟨by decide, (readQuery_encodeParams 4300 (by decide)).trans (by decide)⟩

/-! ## The list methods -/

theorem paramTexts_append (maxDigits : Nat) (l₁ l₂ : List (PyStr × Arg)) :
    paramTexts maxDigits (l₁ ++ l₂) = (paramTexts maxDigits l₁ >>= fun a =>
      paramTexts maxDigits l₂ >>= fun b => pure (a ++ b)) := by
  rw [paramTexts, List.filter_append, List.mapM_append]; rfl

/-- The filters `withFilters` keeps, as text: the non-empty ones. -/
def filterTexts (filters : List (PyStr × Option PyStr)) : List (PyStr × PyStr) :=
  filters.filterMap fun f => (f.2.filter (!·.isEmpty)).map (f.1, ·)

theorem paramTexts_filters (maxDigits : Nat) :
    ∀ filters : List (PyStr × Option PyStr), paramTexts maxDigits
      (filters.filterMap fun f => (f.2.filter (!·.isEmpty)).map fun s => (f.1, .str s)) =
      .ok (filterTexts filters)
  | [] => rfl
  | (k, none) :: filters => paramTexts_filters maxDigits filters
  | (k, some s) :: filters => by
    cases s with
    | nil => exact paramTexts_filters maxDigits filters
    | cons c s =>
      show paramTexts maxDigits ((k, .str (c :: s)) :: _) = _
      rw [paramTexts_cons _ _ (by simp), paramTexts_filters maxDigits filters]
      rfl

/-- **A list method's filters reach the server**: with `params` built by `withFilters`, the
    server reads the fixed entries, then every filter given with a text that is not empty, in
    order, that text whatever it holds; a `None` or an empty filter is not sent. -/
theorem readQuery_withFilters (maxDigits : Nat) (fixed : List (PyStr × Arg))
    (filters : List (PyStr × Option PyStr)) (h : Encodable (withFilters fixed filters)) :
    (encodeParams maxDigits (withFilters fixed filters) >>= sentQuery >>= readQuery) =
      (· ++ filterTexts filters) <$> paramTexts maxDigits fixed := by
  rw [encodeParams_read maxDigits h, withFilters, paramTexts_append, paramTexts_filters]
  cases paramTexts maxDigits fixed <;> rfl

theorem readQuery_robotsList :
    Encodable (RobotsAPI.list (some (.inl .ready)) none (some "") (some "c&1") 50 0) ∧
      (encodeParams 4300 (RobotsAPI.list (some (.inl .ready)) none (some "") (some "c&1") 50 0) >>=
        sentQuery >>= readQuery) =
      .ok [("limit", "50"), ("offset", "0"), ("status", "ready"), ("customer_id", "c&1")] :=
  ⟨by decide, (readQuery_withFilters 4300 _ _ (by decide)).trans (by decide)⟩

/-- **`get_production_metrics` sends an empty date**: each date reaches the server whenever it
    is not `None`, `''` included, where the list methods drop an empty filter. -/
theorem readQuery_getProductionMetrics (maxDigits : Nat) (startDate endDate : Option PyStr)
    (h : Encodable (ManufacturingClient.getProductionMetrics startDate endDate)) :
    (encodeParams maxDigits (ManufacturingClient.getProductionMetrics startDate endDate) >>=
      sentQuery >>= readQuery) =
      .ok ((startDate.map (("start_date" : PyStr), ·)).toList ++
        (endDate.map (("end_date" : PyStr), ·)).toList) := by
  rw [encodeParams_read maxDigits h]
  cases startDate <;> cases endDate <;> rfl

theorem readQuery_getProductionMetrics_empty :
    Encodable (ManufacturingClient.getProductionMetrics (some "") none) ∧
      (encodeParams 4300 (ManufacturingClient.getProductionMetrics (some "") none) >>= sentQuery >>=
        readQuery) = .ok [("start_date", "")] :=
  ⟨by decide, (readQuery_getProductionMetrics 4300 (some "") none (by decide)).trans rfl⟩

/-! ## The query by hand -/

/-- No code point of `s` is one of `cs`, and none is a lone surrogate. -/
def Avoids (cs : List Nat) (s : PyStr) : Prop := ∀ c ∈ s, c.val ∉ cs ∧ ¬IsSurrogate c

instance (cs : List Nat) : DecidablePred (Avoids cs) := fun s =>
  decidable_of_iff (s.all fun c => !cs.contains c.val && !decide (IsSurrogate c))
    (by simp [Avoids])

/-- A value the parser reads as itself: no `&`, `+`, `%` or `#`. -/
def Plain (s : PyStr) : Prop := Avoids [38, 43, 37, 35] s

/-- A name the parser reads as itself: no `=` either. -/
def PlainKey (s : PyStr) : Prop := Avoids [38, 43, 37, 35, 61] s

instance : DecidablePred Plain := fun s => inferInstanceAs (Decidable (Avoids _ s))

instance : DecidablePred PlainKey := fun s => inferInstanceAs (Decidable (Avoids _ s))

/-- An ASCII byte of a code point's UTF-8 is the code point itself. -/
theorem encodeChar_ascii_byte {c : CodePoint} {b : Bytes} {x : UInt8} (h : encodeChar c = .ok b)
    (hx : x ∈ b) (hlt : x.toNat < 0x80) : c.val = x.toNat := by
  have hc := c.isLt
  simp only [encodeChar] at h
  split_ifs at h <;> cases h <;>
    simp only [List.mem_cons, List.mem_singleton, List.not_mem_nil, or_false] at hx <;>
    rcases hx with rfl | rfl | rfl | rfl <;> rw [toNat_toUInt8] at hlt ⊢ <;> omega

theorem mem_encodeUtf8_ascii : ∀ {s : PyStr} {b : Bytes} {x : UInt8}, encodeUtf8 s = .ok b →
    x ∈ b → x.toNat < 0x80 → ∃ c ∈ s, c.val = x.toNat
  | [], _, _, h, hx, _ => by cases h; simp at hx
  | c :: s, _, _, h, hx, hlt => by
    simp only [encodeUtf8, except_bind_eq_ok] at h
    obtain ⟨bc, hc, r, hr, h⟩ := h
    cases h
    rcases List.mem_append.1 hx with hx | hx
    · exact ⟨c, List.mem_cons_self _ _, encodeChar_ascii_byte hc hx hlt⟩
    · obtain ⟨d, hd, he⟩ := mem_encodeUtf8_ascii hr hx hlt
      exact ⟨d, List.mem_cons_of_mem _ hd, he⟩

/-- The UTF-8 of a text that avoids some ASCII characters holds none of their bytes. -/
theorem not_mem_encodeUtf8 {cs : List Nat} {s : PyStr} {b : Bytes} (hs : Avoids cs s)
    (h : encodeUtf8 s = .ok b) {n : Nat} (hn : n ∈ cs) (hlt : n < 0x80) : n.toUInt8 ∉ b := by
  intro hx
  have hv : n.toUInt8.toNat = n := toNat_toUInt8_of_lt (by omega)
  obtain ⟨c, hc, he⟩ := mem_encodeUtf8_ascii h hx (by omega)
  exact (hs c hc).1 (by rw [he, hv]; exact hn)

theorem encodeUtf8_append : ∀ {a b : PyStr} {x y : Bytes}, encodeUtf8 a = .ok x →
    encodeUtf8 b = .ok y → encodeUtf8 (a ++ b) = .ok (x ++ y)
  | [], _, _, _, ha, hb => by cases ha; exact hb
  | c :: a, _, _, _, ha, hb => by
    simp only [encodeUtf8, except_bind_eq_ok] at ha
    obtain ⟨bc, hc, r, hr, ha⟩ := ha
    cases ha
    simp [encodeUtf8, hc, encodeUtf8_append hr hb, bind, Except.bind, pure, Except.pure]

theorem encodeUtf8_flatMap_sep : ∀ {ps : List PyStr} {bs : List Bytes}, ps.mapM encodeUtf8 = .ok bs →
    encodeUtf8 (ps.flatMap (38 :: ·)) = .ok (bs.flatMap (38 :: ·))
  | [], _, h => by cases h; rfl
  | p :: ps, _, h => by
    simp only [List.mapM_cons, except_bind_eq_ok] at h
    obtain ⟨b, hb, r, hr, h⟩ := h
    cases h
    show encodeUtf8 ([38] ++ (p ++ ps.flatMap (38 :: ·))) = .ok ([38] ++ (b ++ r.flatMap (38 :: ·)))
    exact encodeUtf8_append rfl (encodeUtf8_append hb (encodeUtf8_flatMap_sep hr))

theorem encodeUtf8_join {ps : List PyStr} {bs : List Bytes} (h : ps.mapM encodeUtf8 = .ok bs) :
    encodeUtf8 ([38].intercalate ps) = .ok ([38].intercalate bs) := by
  cases ps with
  | nil => cases h; rfl
  | cons p ps =>
    simp only [List.mapM_cons, except_bind_eq_ok] at h
    obtain ⟨b, hb, r, hr, h⟩ := h
    cases h
    rw [join_eq_flatMap, join_eq_flatMap]
    exact encodeUtf8_append hb (encodeUtf8_flatMap_sep hr)

/-- Bytes that a piece of a query carries as themselves: no `&`, `+` or `%`. -/
def PlainBytes (bs : Bytes) : Prop := 38 ∉ bs ∧ 43 ∉ bs ∧ 37 ∉ bs

theorem PlainBytes.read {bs : Bytes} (h : PlainBytes bs) : percentDecode (plusToSpace bs) = bs := by
  rw [plusToSpace_of_not_mem h.2.1, percentDecode_of_not_mem h.2.2]

theorem Avoids.encode {cs : List Nat} {s : PyStr} {b : Bytes} (hs : Avoids cs s)
    (h : encodeUtf8 s = .ok b) (hcs : 38 ∈ cs ∧ 43 ∈ cs ∧ 37 ∈ cs) : PlainBytes b :=
  ⟨not_mem_encodeUtf8 hs h hcs.1 (by decide), not_mem_encodeUtf8 hs h hcs.2.1 (by decide),
    not_mem_encodeUtf8 hs h hcs.2.2 (by decide)⟩

/-- The UTF-8 of plain pairs, pair by pair: it decodes back, and it is plain, the names
    with no `=` either. -/
theorem encodePieces : ∀ {ts : List (PyStr × PyStr)}, (∀ p ∈ ts, PlainKey p.1 ∧ Plain p.2) →
    ∃ bps : List (Bytes × Bytes), bps.mapM decodePair = .ok ts ∧
      (∀ p ∈ bps, (PlainBytes p.1 ∧ 61 ∉ p.1) ∧ PlainBytes p.2) ∧
      (ts.map fun p => p.1 ++ [61] ++ p.2).mapM encodeUtf8 =
        .ok (bps.map fun p => p.1 ++ 61 :: p.2)
  | [], _ => ⟨[], rfl, by simp, rfl⟩
  | (k, v) :: ts, h => by
    obtain ⟨bps, hdec, hbytes, henc⟩ := encodePieces fun p hp => h p (List.mem_cons_of_mem _ hp)
    obtain ⟨hk, hv⟩ := h _ (List.mem_cons_self _ _)
    obtain ⟨kb, hkb⟩ := encodeUtf8_of_plain fun c hc => (hk c hc).2
    obtain ⟨vb, hvb⟩ := encodeUtf8_of_plain fun c hc => (hv c hc).2
    refine ⟨(kb, vb) :: bps, ?_, ?_, ?_⟩
    · rw [List.mapM_cons, decodePair_of_encode hkb hvb, hdec]; rfl
    · simp only [List.mem_cons, forall_eq_or_imp]
      exact ⟨⟨⟨Avoids.encode hk hkb (by decide),
        not_mem_encodeUtf8 hk hkb (n := 61) (by decide) (by decide)⟩,
        Avoids.encode hv hvb (by decide)⟩, hbytes⟩
    · rw [List.map_cons, List.mapM_cons,
        encodeUtf8_append (encodeUtf8_append hkb (b := [61]) rfl) hvb, henc]
      simp only [except_ok_bind, List.append_assoc, List.map_cons]
      rfl

/-- **A join of plain pairs reads back**: `name=value` pieces joined with `&`, the names
    holding none of `&`, `=`, `+`, `%` and `#` and the values none but `=`, reach the server
    as the same pairs. -/
theorem readQuery_join {ts : List (PyStr × PyStr)} (h : ∀ p ∈ ts, PlainKey p.1 ∧ Plain p.2) :
    (sentQuery ([38].intercalate (ts.map fun p => p.1 ++ [61] ++ p.2)) >>= readQuery) =
      .ok ts := by
  obtain ⟨bps, hdec, hbytes, henc⟩ := encodePieces h
  have hhash : ∀ c ∈ [38].intercalate (ts.map fun p => p.1 ++ [61] ++ p.2), (c != 35) = true := by
    intro c hc
    refine bne_iff_ne.2 fun he => ?_
    subst he
    rcases mem_join _ hc with h38 | ⟨l, hl, hc⟩
    · exact absurd h38 (by decide)
    obtain ⟨p, hp, rfl⟩ := List.mem_map.1 hl
    simp only [List.mem_append, List.mem_singleton] at hc
    rcases hc with (hc | hc) | hc
    · exact (h p hp).1 _ hc |>.1 (by decide)
    · exact absurd hc (by decide)
    · exact (h p hp).2 _ hc |>.1 (by decide)
  rw [sentQuery, List.takeWhile_eq_self_iff.2 hhash, encodeUtf8_join henc, except_ok_bind,
    readQuery, formDecode_join _ (fun p hp => ⟨(hbytes p hp).1.1.1, (hbytes p hp).1.2⟩)
      (fun p hp => (hbytes p hp).2.1),
    List.map_congr_left fun p hp => by rw [(hbytes p hp).1.1.read, (hbytes p hp).2.read]]
  simpa using hdec

theorem mapM_ok_forall {α β ε : Type} {f : α → Except ε β} {P : β → Prop} :
    ∀ {l : List α} {bs : List β}, (∀ a ∈ l, ∀ b, f a = .ok b → P b) → l.mapM f = .ok bs →
      ∀ b ∈ bs, P b
  | [], _, _, h => by cases h; simp
  | a :: l, _, hf, h => by
    simp only [List.mapM_cons, except_bind_eq_ok] at h
    obtain ⟨b, hb, r, hr, h⟩ := h
    cases h
    simp only [List.mem_cons, forall_eq_or_imp]
    exact ⟨hf a (List.mem_cons_self _ _) b hb,
      mapM_ok_forall (fun a' ha' => hf a' (List.mem_cons_of_mem _ ha')) hr⟩

/-- `str()` of a value is plain when its `str` is: `'None'` and an `int`'s digits are. -/
theorem Arg.text_plain {maxDigits : Nat} {v : Arg} {t : PyStr} (hv : ∀ s ∈ v.strings, Plain s)
    (h : v.text maxDigits = .ok t) : Plain t := by
  cases v with
  | none => cases h; decide
  | int n =>
    intro c hc
    have := intRepr_digits h c hc
    simp only [List.mem_cons, List.not_mem_nil, or_false, IsSurrogate]
    omega
  | str s => cases h; exact hv _ (List.mem_singleton_self _)

theorem mapM_textParts (maxDigits : Nat) (params : List (PyStr × Arg)) :
    (params.mapM fun p => (p.1 ++ [61] ++ ·) <$> p.2.text maxDigits) =
      (·.map fun p => p.1 ++ [61] ++ p.2) <$> params.mapM fun p => (p.1, ·) <$> p.2.text maxDigits := by
  induction params with
  | nil => rfl
  | cons p params ih =>
    rw [List.mapM_cons, List.mapM_cons, ih]
    cases p.2.text maxDigits <;> cases params.mapM (fun p => (p.1, ·) <$> p.2.text maxDigits) <;> rfl

/-- The query by hand reads back when plain: the server reads `params` as `str()` writes them,
    `None` as `'None'`. -/
theorem readQuery_joinQuery (maxDigits : Nat) {params : List (PyStr × Arg)}
    (h : ∀ p ∈ params, PlainKey p.1 ∧ ∀ s ∈ p.2.strings, Plain s) :
    (joinQuery maxDigits params >>= sentQuery >>= readQuery) =
      params.mapM fun p => (p.1, ·) <$> p.2.text maxDigits := by
  rw [joinQuery, mapM_textParts]
  cases ht : params.mapM (fun p => (p.1, ·) <$> p.2.text maxDigits) with
  | error e => rfl
  | ok ts =>
    refine readQuery_join (mapM_ok_forall (fun p hp q hq => ?_) ht)
    cases hpt : p.2.text maxDigits with
    | error e => rw [hpt] at hq; cases hq
    | ok t =>
      rw [hpt] at hq
      cases hq
      exact ⟨(h p hp).1, Arg.text_plain (h p hp).2 hpt⟩

theorem lookup_strings {filters : List (PyStr × Arg)} (hf : ∀ p ∈ filters, ∀ s ∈ p.2.strings, Plain s)
    {k : PyStr} {v : Arg} (h : filters.lookup k = some v) : ∀ s ∈ v.strings, Plain s := by
  induction filters with
  | nil => cases h
  | cons p filters ih =>
    obtain ⟨k', v'⟩ := p
    rw [List.lookup_cons] at h
    split at h
    · cases h; exact hf _ (List.mem_cons_self _ _)
    · exact ih (fun q hq => hf q (List.mem_cons_of_mem _ hq)) h

/-- **`list_orders` and `list_inventory` send plain filters intact**: when the method's filter
    names hold none of `&`, `=`, `+`, `%` and `#` and no `str` filter value holds `&`, `+`, `%`
    or `#`, the server reads `page`, `limit` and the method's filters as the method built
    them. -/
theorem readQuery_pageParams (maxDigits : Nat) {keys : List PyStr} {filters : List (PyStr × Arg)}
    (hk : ∀ k ∈ keys, PlainKey k) (hf : ∀ p ∈ filters, ∀ s ∈ p.2.strings, Plain s) :
    (joinQuery maxDigits (pageParams keys filters) >>= sentQuery >>= readQuery) =
      (pageParams keys filters).mapM fun p => (p.1, ·) <$> p.2.text maxDigits := by
  refine readQuery_joinQuery maxDigits fun p hp => ?_
  have hget : ∀ k (n : ℤ), ∀ s ∈ ((filters.lookup k).getD (.int n)).strings, Plain s := by
    intro k n
    cases hl : filters.lookup k with
    | none => simp [Arg.strings]
    | some v => exact lookup_strings hf hl
  simp only [pageParams, List.mem_append, List.mem_cons, List.not_mem_nil, or_false,
    List.mem_filterMap, Option.map_eq_some'] at hp
  rcases hp with (rfl | rfl) | ⟨k, hk', v, hv, rfl⟩
  · exact ⟨(by decide : PlainKey "page"), hget _ _⟩
  · exact ⟨(by decide : PlainKey "limit"), hget _ _⟩
  · exact ⟨hk k hk', lookup_strings hf hv⟩

theorem readQuery_listOrders_pending :
    (StateSetClient.listOrders 4300 [("status", .str "pending"), ("limit", .int 5)] >>=
      sentQuery >>= readQuery) = .ok [("page", "1"), ("limit", "5"), ("status", "pending")] :=
  (readQuery_pageParams 4300 (by decide) (by decide)).trans (by decide)

/-- **`get_sales_trends` sends plain dates intact**: with no `&`, `+`, `%` or `#` in its three
    texts, the server reads `start_date`, `end_date` and `interval` as given. -/
theorem readQuery_getSalesTrends {startDate endDate interval : PyStr} (hs : Plain startDate)
    (he : Plain endDate) (hi : Plain interval) :
    (sentQuery (StateSetClient.getSalesTrends startDate endDate interval) >>= readQuery) =
      .ok [("start_date", startDate), ("end_date", endDate), ("interval", interval)] := by
  have hq : StateSetClient.getSalesTrends startDate endDate interval = [38].intercalate
      (([("start_date", startDate), ("end_date", endDate), ("interval", interval)] :
        List (PyStr × PyStr)).map fun p => p.1 ++ [61] ++ p.2) := by
    simp only [StateSetClient.getSalesTrends, List.map_cons, List.map_nil, join_eq_flatMap,
      List.flatMap_cons, List.flatMap_nil, List.append_nil, List.append_assoc]
    rfl
  rw [hq]
  refine readQuery_join fun p hp => ?_
  simp only [List.mem_cons, List.not_mem_nil, or_false] at hp
  rcases hp with rfl | rfl | rfl
  · exact ⟨(by decide : PlainKey "start_date"), hs⟩
  · exact ⟨(by decide : PlainKey "end_date"), he⟩
  · exact ⟨(by decide : PlainKey "interval"), hi⟩

theorem readQuery_getSalesTrends_month :
    Plain "2024-01-01" ∧ Plain "2024-12-31" ∧ Plain "month" ∧
      (sentQuery (StateSetClient.getSalesTrends "2024-01-01" "2024-12-31" "month") >>= readQuery) =
      .ok [("start_date", "2024-01-01"), ("end_date", "2024-12-31"), ("interval", "month")] :=
  ⟨by decide, by decide, by decide, readQuery_getSalesTrends (by decide) (by decide) (by decide)⟩

theorem intRepr_of_valid (rt : Runtime) (n : Nat) (h : (Nat.repr n).length ≤ 640) :
    intRepr rt.maxStrDigits n = .ok (Nat.repr n) := by
  have := rt.maxStrDigits_valid
  simp only [intRepr, Int.natAbs_ofNat]
  rw [if_neg (by omega), if_neg (by omega)]

/-- **A filter value can add a filter**: for every plain `s` and `c`,
    `list_orders(status=s + '&customer_id=' + c)` makes the server filter on a `customer_id`
    of `c` that the caller never passed, and on the status `s`. -/
theorem listOrders_status_injects (rt : Runtime) {s c : PyStr} (hs : Plain s) (hc : Plain c) :
    (StateSetClient.listOrders rt.maxStrDigits [("status", .str (s ++ "&customer_id=" ++ c))] >>=
      sentQuery >>= readQuery) =
      .ok [("page", "1"), ("limit", "20"), ("status", s), ("customer_id", c)] := by
  have hq : StateSetClient.listOrders rt.maxStrDigits [("status", .str (s ++ "&customer_id=" ++ c))] =
      .ok ([38].intercalate ((([("page", "1"), ("limit", "20"), ("status", s), ("customer_id", c)]) :
        List (PyStr × PyStr)).map fun p => p.1 ++ [61] ++ p.2)) := by
    have h1 : intRepr rt.maxStrDigits 1 = .ok "1" := intRepr_of_valid rt 1 (by decide)
    have h20 : intRepr rt.maxStrDigits 20 = .ok "20" := intRepr_of_valid rt 20 (by decide)
    have hp : pageParams ["status", "customer_id"] [("status", .str (s ++ "&customer_id=" ++ c))] =
        ([("page", .int 1), ("limit", .int 20), ("status", .str (s ++ "&customer_id=" ++ c))] :
          List (PyStr × Arg)) := rfl
    rw [StateSetClient.listOrders, joinQuery, hp]
    simp only [List.mapM_cons, List.mapM_nil, Arg.text, h1, h20, except_ok_bind, except_ok_map,
      pure_bind, map_pure]
    simp only [List.map_cons, List.map_nil, join_eq_flatMap, List.flatMap_cons, List.flatMap_nil,
      List.append_nil, List.append_assoc]
    rfl
  rw [hq, except_ok_bind]
  refine readQuery_join fun p hp => ?_
  simp only [List.mem_cons, List.not_mem_nil, or_false] at hp
  rcases hp with rfl | rfl | rfl | rfl
  · exact ⟨(by decide : PlainKey "page"), (by decide : Plain "1")⟩
  · exact ⟨(by decide : PlainKey "limit"), (by decide : Plain "20")⟩
  · exact ⟨(by decide : PlainKey "status"), hs⟩
  · exact ⟨(by decide : PlainKey "customer_id"), hc⟩

theorem listOrders_status_injects_pending :
    Plain "pending" ∧ Plain "42" ∧
      (StateSetClient.listOrders 4300 [("status", .str ("pending" ++ "&customer_id=" ++ "42"))] >>=
        sentQuery >>= readQuery) =
      .ok [("page", "1"), ("limit", "20"), ("status", "pending"), ("customer_id", "42")] :=
  ⟨by decide, by decide, listOrders_status_injects
    ⟨4300, .inr (by norm_num), fun _ => none, fun _ _ => ⟨List.replicate 32 0, rfl⟩⟩
    (by decide) (by decide)⟩

end DevAdminToken.Query
