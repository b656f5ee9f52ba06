/-
  DevAdminToken formalization — the production dashboard of
  `demos/python_client/example_3_production_analytics.py`: `calculate_oee`, steps 3 to 7
  and the summary of `main`, and `main` itself over every behaviour of the API.

  * `calculateOee` is `calculate_oee`.  `analyze` computes what steps 3 to 6 print: the
    totals and first-pass yield, the per-line table (`lineReport`), the OEE of the two
    lines, the downtime breakdown (`downtimeBreakdown`, a dict updated in insertion order)
    sorted by hours (`sortByHours`), and the defect rate.  `recommendations` is the list
    step 7 builds, `sortRecommendations` the `sorted` call before its printout, `summary`
    the closing figures, and `dashboard` all of them in order.
  * `main` creates the two lines, records the four entries of `metrics_data` (an entry
    whose `create_metrics` raises `APIError` is skipped) and runs the dashboard on what was
    recorded.  The API is the input `Env`: what each call gives back.
  * Floats are `PyFloat` values; sums of `int`s are exact.  `int / int` rounds the exact
    quotient and raises `OverflowError` past the float range (`PyFloat.intDiv`); a float
    quotient past it is `inf` in Python, which the model, having no infinities, leaves out.
  * Printed text is modelled only where it can fail: a value of a response, formatted into
    a `print`, raises `UnicodeEncodeError` when it holds a surrogate that `sys.stdout`
    cannot write (`printValues`); otherwise the dashboard's result is the values it prints.
  * The values of a response are `JsonValue`s: `None`, an `int`, a `str` or a list of
    `str`.  Floats, booleans and nested objects are left out: the dashboard only compares
    the lines' ids with `==` and prints the lines' names and codes and the `APIError`s.
-/
import DevAdminToken.Json
import DevAdminToken.PyFloat
import Mathlib.Algebra.Order.BigOperators.Group.List

namespace DevAdminToken

/-! ## Exceptions and arithmetic -/

/-- The exceptions that end a run of the script. -/
inductive DashExc
  /-- a division by zero, of `int`s or of floats -/
  | zeroDivisionError
  /-- an `int / int` quotient too large for a float -/
  | overflowError
  /-- `max()` of an empty sequence -/
  | valueError
  /-- a key missing from a response object -/
  | keyError
  /-- indexing, or unpacking with `**`, a response that is not a JSON object -/
  | typeError
  /-- a name read before the code binds it -/
  | nameError
  /-- `print` of a text holding a surrogate that `sys.stdout` cannot write -/
  | unicodeEncodeError
  /-- an exception of `requests`, or of `response.json()`, other than `APIError` -/
  | requestError
  deriving DecidableEq, Repr

/-- `a / b` of floats: `ZeroDivisionError` on `0`, else the rounded quotient. -/
def PyFloat.div (fp : PyFloat) (a b : ℚ) : Except DashExc ℚ :=
  if b = 0 then .error .zeroDivisionError else .ok (fp.rnd (a / b))

/-- The binary64 overflow threshold: a quotient of at least this magnitude rounds to `inf`
    (`2^1024 - 2^970` lies halfway between the largest float and `2^1024`, and the tie goes
    to the even `2^1024`). -/
def floatOverflow : ℚ := ((2 ^ 1024 - 2 ^ 970 : ℕ) : ℚ)

theorem one_lt_floatOverflow : 1 < floatOverflow := by
  norm_num [floatOverflow]

/-- `a / b` of `int`s: `ZeroDivisionError` on `0`, `OverflowError` when the correctly
    rounded quotient would be `inf` (CPython's `long_true_divide`), else the rounded
    quotient. -/
def PyFloat.intDiv (fp : PyFloat) (a b : ℤ) : Except DashExc ℚ :=
  if b = 0 then .error .zeroDivisionError
  else if floatOverflow ≤ |(a / b : ℚ)| then .error .overflowError
  else .ok (fp.rnd (a / b))

/-- `(x / y * 100) if y > 0 else 0` of floats: the percentages of the breakdown's rows. -/
def PyFloat.percent (fp : PyFloat) (x y : ℚ) : ℚ :=
  if 0 < y then fp.rnd (fp.rnd (x / y) * 100) else 0

/-- `(x / y * 100) if y > 0 else 0` of `int`s: the first-pass yield, the utilization and the
    defect rate. -/
def PyFloat.percentInt (fp : PyFloat) (x y : ℤ) : Except DashExc ℚ :=
  if 0 < y then (fun q => fp.rnd (q * 100)) <$> fp.intDiv x y else .ok 0

section
variable (fp : PyFloat) {a b : ℚ} {x y : ℤ} {e : DashExc}

theorem PyFloat.div_of_ne (h : b ≠ 0) : fp.div a b = .ok (fp.rnd (a / b)) := if_neg h

theorem PyFloat.eq_zeroDivisionError_of_div (h : fp.div a b = .error e) :
    e = .zeroDivisionError := by
  unfold PyFloat.div at h; split_ifs at h; cases h; rfl

@[simp] theorem PyFloat.div_zero (a : ℚ) : fp.div a 0 = .error .zeroDivisionError := if_pos rfl

@[simp] theorem PyFloat.intDiv_zero (x : ℤ) : fp.intDiv x 0 = .error .zeroDivisionError :=
  if_pos rfl

theorem PyFloat.intDiv_of_lt (hy : y ≠ 0) (h : |(x / y : ℚ)| < floatOverflow) :
    fp.intDiv x y = .ok (fp.rnd (x / y)) := by
  rw [PyFloat.intDiv, if_neg hy, if_neg (not_le.2 h)]

theorem PyFloat.intDiv_overflow (hy : y ≠ 0) (h : floatOverflow ≤ |(x / y : ℚ)|) :
    fp.intDiv x y = .error .overflowError := by
  rw [PyFloat.intDiv, if_neg hy, if_pos h]

theorem PyFloat.eq_error_of_intDiv (h : fp.intDiv x y = .error e) :
    e = .zeroDivisionError ∨ e = .overflowError := by
  unfold PyFloat.intDiv at h; split_ifs at h <;> cases h <;> simp

/-- A quotient `x / y` with `0 ≤ x ≤ y` is at most `1`, far from overflowing. -/
theorem abs_div_lt_floatOverflow (h0 : 0 ≤ x) (hxy : x ≤ y) (hy : 0 < y) :
    |(x / y : ℚ)| < floatOverflow := by
  have hy' : (0 : ℚ) < y := by exact_mod_cast hy
  refine lt_of_le_of_lt ?_ one_lt_floatOverflow
  rw [abs_of_nonneg (div_nonneg (by exact_mod_cast h0) hy'.le)]
  exact div_le_one_of_le₀ (by exact_mod_cast hxy) hy'.le

/-- A quotient `x / y` with `0 ≤ x ≤ y` neither divides by zero nor overflows. -/
theorem PyFloat.intDiv_unit (h0 : 0 ≤ x) (hxy : x ≤ y) (hy : 0 < y) :
    fp.intDiv x y = .ok (fp.rnd (x / y)) :=
  fp.intDiv_of_lt hy.ne' (abs_div_lt_floatOverflow h0 hxy hy)

/-- The guarded percentage of `int`s is the float one, unless the quotient overflows. -/
theorem PyFloat.percentInt_unit (h0 : 0 ≤ x) (hxy : x ≤ y) :
    fp.percentInt x y = .ok (fp.percent x y) := by
  unfold PyFloat.percentInt PyFloat.percent
  by_cases hy : 0 < y
  · rw [if_pos hy, if_pos (by exact_mod_cast hy), fp.intDiv_unit h0 hxy hy]; rfl
  · rw [if_neg hy, if_neg (by exact_mod_cast hy)]

theorem PyFloat.eq_overflowError_of_percentInt (h : fp.percentInt x y = .error e) :
    e = .overflowError := by
  unfold PyFloat.percentInt PyFloat.intDiv at h
  split_ifs at h with hy hy0 <;> first | omega | (cases h; rfl) | cases h

end

theorem except_bind_eq_error {ε α β : Type} {x : Except ε α} {f : α → Except ε β} {e : ε} :
    x >>= f = .error e ↔ x = .error e ∨ ∃ a, x = .ok a ∧ f a = .error e := by
  cases x <;> simp [bind, Except.bind]

/-! ## `print` -/

/-- Whether `print` writes the `str()` of a value of a response: a `str` as it is; a list
    is written by `repr`, which escapes a surrogate; an `int` of a response is within the
    digit limit, `response.json()` having parsed it. -/
def JsonValue.prints (out : OutErrors) : JsonValue → Bool
  | .str s => out.prints s
  | _ => true

/-- `print` of an f-string formatting the values `vs` of a response among the script's own
    text (which `sys.stdout`, encoding UTF-8, always writes). -/
def printValues (out : OutErrors) (vs : List JsonValue) : Except DashExc Unit :=
  if vs.all (·.prints out) then .ok () else .error .unicodeEncodeError

theorem printValues_eq_ok {out : OutErrors} {vs : List JsonValue} {u : Unit} :
    printValues out vs = .ok u ↔ ∀ v ∈ vs, v.prints out := by
  unfold printValues
  split_ifs with h
  · exact iff_of_true rfl (List.all_eq_true.1 h)
  · exact iff_of_false (nomatch ·) (mt List.all_eq_true.2 h)

theorem eq_unicodeEncodeError_of_printValues {out : OutErrors} {vs : List JsonValue}
    {e : DashExc} (h : printValues out vs = .error e) : e = .unicodeEncodeError := by
  unfold printValues at h; split_ifs at h; cases h; rfl

/-- `d[k]` of the value `d.get(k)`: `KeyError` when the key is missing. -/
def orKeyError : Option JsonValue → Except DashExc JsonValue
  | some v => .ok v
  | none => .error .keyError

/-- `d[k]` -/
def readKey (d : PyDict) (k : PyStr) : Except DashExc JsonValue := orKeyError (d.get? k)

namespace Analytics

/-! ## `calculate_oee` -/

/-- The dict `calculate_oee` reads: sums over the metrics of one line. -/
structure OeeData where
  plannedQuantity : ℤ
  actualQuantity : ℤ
  quantityPassed : ℤ
  plannedHours : ℚ
  downtimeHours : ℚ

/-- The dict `calculate_oee` returns, in percent. -/
structure Oee where
  availability : ℚ
  performance : ℚ
  quality : ℚ
  oee : ℚ

/-- The returned dict, from the three factors: `availability * performance * quality * 100`
    rounds after each product, left to right. -/
def Oee.ofFactors (fp : PyFloat) (availability performance quality : ℚ) : Oee where
  availability := fp.rnd (availability * 100)
  performance := fp.rnd (performance * 100)
  quality := fp.rnd (quality * 100)
  oee := fp.rnd (fp.rnd (fp.rnd (availability * performance) * quality) * 100)

/-- `calculate_oee(metrics)`: the availability divides floats, the performance and the
    quality divide `int`s. -/
def calculateOee (fp : PyFloat) (metrics : OeeData) : Except DashExc Oee := do
  let availability ← fp.div (fp.rnd (metrics.plannedHours - metrics.downtimeHours))
    metrics.plannedHours
  let performance ← fp.intDiv metrics.actualQuantity metrics.plannedQuantity
  let quality ← if 0 < metrics.actualQuantity then
      fp.intDiv metrics.quantityPassed metrics.actualQuantity else pure 0
  pure (.ofFactors fp availability performance quality)

/-! ## Recorded metrics and lines -/

/-- A recorded metric `{**metrics, **data}`: the keys the dashboard reads, all of them from
    `data`, whose keys come last.  `line` is the line's dict of `data` (`L = PyDict`), or its
    `'id'` once the recording loop has read it (`L = JsonValue`). -/
structure Metric (L : Type) where
  line : L
  plannedQuantity : ℤ
  actualQuantity : ℤ
  quantityPassed : ℤ
  quantityFailed : ℤ
  plannedHours : ℚ
  downtimeHours : ℚ
  downtimeReason : PyStr
  deriving DecidableEq

/-- The metric with its line replaced. -/
def Metric.withLine {L L' : Type} (m : Metric L) (l : L') : Metric L' :=
  ⟨l, m.plannedQuantity, m.actualQuantity, m.quantityPassed, m.quantityFailed,
    m.plannedHours, m.downtimeHours, m.downtimeReason⟩

/-- Quantities that fit together: no more passed than produced, no more produced than
    planned. -/
def Metric.Consistent {L : Type} (m : Metric L) : Prop :=
  0 ≤ m.quantityPassed ∧ m.quantityPassed ≤ m.actualQuantity ∧
    m.actualQuantity ≤ m.plannedQuantity

instance {L : Type} (m : Metric L) : Decidable m.Consistent :=
  inferInstanceAs (Decidable (_ ∧ _ ∧ _))

/-- A production line as the dashboard reads it: `line['id']`, `line['line_name']` and
    `line['line_code']` of the object `create_line` returned.  `'id'` is there: the recording
    loop has read it. -/
structure Line where
  id : JsonValue
  name : Option JsonValue
  lineCode : Option JsonValue

/-- The heading of a line in step 3, `f"\n{line['line_name']} ({line['line_code']})"`: both
    keys read, then printed. -/
def Line.heading (out : OutErrors) (l : Line) : Except DashExc Unit := do
  let name ← orKeyError l.name
  let code ← orKeyError l.lineCode
  printValues out [name, code]

/-- `[m for m in recorded_metrics if m['line']['id'] == line['id']]` -/
def lineMetrics (ms : List (Metric JsonValue)) (id : JsonValue) : List (Metric JsonValue) :=
  ms.filter (·.line == id)

/-- `sum(f(m) for m in ms)` over `int`s. -/
def total {L : Type} (ms : List (Metric L)) (f : Metric L → ℤ) : ℤ := (ms.map f).sum

/-! ## Steps 3 to 6 -/

/-- A row of the per-line table of step 3. -/
structure LineReport where
  planned : ℤ
  produced : ℤ
  passed : ℤ
  failed : ℤ
  utilization : ℚ

/-- One line of step 3: its sums and utilization, then its heading. -/
def lineReport (fp : PyFloat) (out : OutErrors) (ms : List (Metric JsonValue)) (line : Line) :
    Except DashExc LineReport := do
  let lm := lineMetrics ms line.id
  let utilization ← fp.percentInt (total lm (·.actualQuantity)) (total lm (·.plannedQuantity))
  line.heading out
  pure ⟨total lm (·.plannedQuantity), total lm (·.actualQuantity),
    total lm (·.quantityPassed), total lm (·.quantityFailed), utilization⟩

/-- The `*_oee_data` dict of step 4. -/
def oeeData (fp : PyFloat) (ms : List (Metric JsonValue)) : OeeData where
  plannedQuantity := total ms (·.plannedQuantity)
  actualQuantity := total ms (·.actualQuantity)
  quantityPassed := total ms (·.quantityPassed)
  plannedHours := fp.fsum (ms.map (·.plannedHours))
  downtimeHours := fp.fsum (ms.map (·.downtimeHours))

/-- `d[reason] = d.get(reason, 0) + hours`, the dict as its items in insertion order. -/
def addDowntime (fp : PyFloat) (reason : PyStr) (hours : ℚ) :
    List (PyStr × ℚ) → List (PyStr × ℚ)
  | [] => [(reason, fp.rnd (0 + hours))]
  | (r, v) :: d => if r = reason then (r, fp.rnd (v + hours)) :: d
      else (r, v) :: addDowntime fp reason hours d

/-- `downtime_breakdown` of step 5. -/
def downtimeBreakdown {L : Type} (fp : PyFloat) (ms : List (Metric L)) : List (PyStr × ℚ) :=
  ms.foldl (fun d m => addDowntime fp m.downtimeReason m.downtimeHours d) []

/-- `sorted(items, key=lambda x: x[1], reverse=True)`: a stable sort, most hours first. -/
def sortByHours (items : List (PyStr × ℚ)) : List (PyStr × ℚ) :=
  items.mergeSort fun a b => b.2 ≤ a.2

/-- `max(items, key=lambda x: x[1])`: the first item with the most hours. -/
def maxByHours : List (PyStr × ℚ) → Except DashExc (PyStr × ℚ)
  | [] => .error .valueError
  | x :: xs => .ok (xs.foldl (fun best y => if best.2 < y.2 then y else best) x)

/-- What steps 3 to 6 compute and print. -/
structure Analysis where
  totalProduced : ℤ
  totalPassed : ℤ
  totalFailed : ℤ
  firstPassYield : ℚ
  lines : List LineReport
  assemblyOee : Oee
  testOee : Oee
  totalDowntime : ℚ
  breakdown : List (PyStr × ℚ)
  /-- the printed breakdown: reason, hours, and percentage of the total downtime -/
  rows : List (PyStr × ℚ × ℚ)
  defectRate : ℚ

/-- Steps 3 to 6 on the recorded metrics; `production_lines` is the assembly line, then
    the test line.  Step 5 prints each row's reason. -/
def analyze (fp : PyFloat) (out : OutErrors) (assemblyLine testLine : Line)
    (ms : List (Metric JsonValue)) : Except DashExc Analysis := do
  let firstPassYield ←
    fp.percentInt (total ms (·.quantityPassed)) (total ms (·.actualQuantity))
  let lines ← [assemblyLine, testLine].mapM (lineReport fp out ms)
  let assemblyOee ← calculateOee fp (oeeData fp (lineMetrics ms assemblyLine.id))
  let testOee ← calculateOee fp (oeeData fp (lineMetrics ms testLine.id))
  let totalDowntime := fp.fsum (ms.map (·.downtimeHours))
  let breakdown := downtimeBreakdown fp ms
  let rows := (sortByHours breakdown).map fun x => (x.1, x.2, fp.percent x.2 totalDowntime)
  printValues out (rows.map fun r => .str r.1)
  let defectRate ← fp.percentInt (total ms (·.quantityFailed)) (total ms (·.actualQuantity))
  pure { totalProduced := total ms (·.actualQuantity)
         totalPassed := total ms (·.quantityPassed)
         totalFailed := total ms (·.quantityFailed)
         firstPassYield, lines, assemblyOee, testOee, totalDowntime, breakdown, rows,
         defectRate }

/-! ## Step 7 and the summary -/

/-- An item of `recommendations`, with the values its text formats. -/
inductive Recommendation
  /-- `MEDIUM`: the assembly line's OEE is `gap` below world class -/
  | oeeGap (gap : ℚ)
  /-- `SUCCESS`: the test line exceeds world-class OEE -/
  | worldClass (oee : ℚ)
  /-- `HIGH`: `reason` accounts for the largest downtime -/
  | largestDowntime (reason : PyStr) (hours : ℚ)
  /-- `MEDIUM`: the first-pass yield is below its 95% target -/
  | firstPassYield (fpy : ℚ)

/-- The `recommendations` list of step 7, in the order of its appends. -/
def recommendations (fp : PyFloat) (an : Analysis) : Except DashExc (List Recommendation) := do
  let oee := (if an.assemblyOee.oee < 85 then [.oeeGap (fp.rnd (85 - an.assemblyOee.oee))]
      else []) ++ if 85 ≤ an.testOee.oee then [.worldClass an.testOee.oee] else []
  let downtime ← if 0 < an.totalDowntime then do
      let top ← maxByHours an.breakdown
      pure (if top.1 ≠ "None" then [.largestDowntime top.1 top.2] else [])
    else pure []
  pure (oee ++ downtime ++
    if an.firstPassYield < 95 then [.firstPassYield an.firstPassYield] else [])

/-- `sorted(recommendations, key=lambda x: ...[rec['priority']])`.  CPython computes the
    key of every item before it sorts, and the key reads `rec`, which the `for` loop binds
    only after `sorted` returns: `NameError` as soon as there is an item. -/
def sortRecommendations : List Recommendation → Except DashExc (List Recommendation)
  | [] => .ok []
  | _ :: _ => .error .nameError

/-- The closing figures. -/
structure Summary where
  planPercent : ℚ
  averageOee : ℚ
  downtimePercent : ℚ

/-- The summary: production against plan (`int / int`) and downtime against scheduled hours
    (floats), both unguarded divisions, and the average OEE. -/
def summary (fp : PyFloat) (ms : List (Metric JsonValue)) (an : Analysis) :
    Except DashExc Summary := do
  let plan ← fp.intDiv an.totalProduced (total ms (·.plannedQuantity))
  let downtime ← fp.div an.totalDowntime (fp.fsum (ms.map (·.plannedHours)))
  pure ⟨fp.rnd (plan * 100), fp.rnd (fp.rnd (an.assemblyOee.oee + an.testOee.oee) / 2),
    fp.rnd (downtime * 100)⟩

/-- Steps 3 to 7 and the summary on the recorded metrics. -/
def dashboard (fp : PyFloat) (out : OutErrors) (assemblyLine testLine : Line)
    (ms : List (Metric JsonValue)) : Except DashExc (Analysis × Summary) := do
  let an ← analyze fp out assemblyLine testLine ms
  let recs ← recommendations fp an
  let _ ← sortRecommendations recs
  let s ← summary fp ms an
  pure (an, s)

/-! ## `main` -/

/-- The decoded body of a successful response (`{}` for an empty one). -/
inductive Body
  | obj (d : PyDict)
  /-- a JSON array, string, number, boolean or `null` -/
  | other

/-- What a call of the client gives back. -/
inductive ApiResult
  | ok (b : Body)
  /-- `APIError`, whose text `f"API Error {status_code}: {message}"` ends with the
      response's `message`, or the HTTP error's own text -/
  | apiError (message : JsonValue)
  /-- an exception of `requests` (no connection, a timeout) or of `response.json()` -/
  | requestError

/-- The API as `main` meets it, the results of the two `create_line` calls and of the four
    `create_metrics` calls, in order, and the error handler of the `sys.stdout` it prints
    to. -/
structure Env where
  assemblyLine : ApiResult
  testLine : ApiResult
  metrics : Fin 4 → ApiResult
  stdout : OutErrors

/-- `create_line(...)` and the progress line printing its `line_name`; `none` for the
    `return` after printing the `APIError`. -/
def createLine (out : OutErrors) : ApiResult → Except DashExc (Option PyDict)
  | .ok (.obj d) => do printValues out [← readKey d "line_name"]; pure (some d)
  | .ok .other => .error .typeError
  | .apiError message => do printValues out [message]; pure none
  | .requestError => .error .requestError

/-- `metrics_data`, each entry with its line (its dict, or once read, its id). -/
def metricsData {L : Type} (fp : PyFloat) (assemblyLine testLine : L) : List (Metric L) :=
  [⟨assemblyLine, 8, 7, 6, 1, fp.rnd 8, fp.rnd (5 / 10), "Component delivery delay"⟩,
   ⟨assemblyLine, 8, 8, 8, 0, fp.rnd 8, fp.rnd (2 / 10), "Planned maintenance"⟩,
   ⟨testLine, 12, 11, 10, 1, fp.rnd 8, fp.rnd (3 / 10), "Test equipment calibration"⟩,
   ⟨testLine, 12, 12, 12, 0, fp.rnd 8, fp.rnd (1 / 10), "None"⟩]

/-- One turn of the recording loop: `data['line']['id']`, then `create_metrics`, then the
    progress line printing `data['line']['line_name']`, or the `APIError`. -/
def recordMetric (out : OutErrors) (data : Metric PyDict) (r : ApiResult) :
    Except DashExc (List (Metric JsonValue)) := do
  let id ← readKey data.line "id"
  match r with
  | .ok (.obj _) => do
    printValues out [← readKey data.line "line_name"]
    pure [data.withLine id]
  | .ok .other => throw .typeError
  | .apiError message => do printValues out [message]; pure []
  | .requestError => throw .requestError

/-- The recording loop of step 2: `recorded_metrics`. -/
def recordMetrics (out : OutErrors) :
    List (Metric PyDict × ApiResult) → Except DashExc (List (Metric JsonValue))
  | [] => .ok []
  | (data, r) :: rest => do
    let m ← recordMetric out data r
    let ms ← recordMetrics out rest
    pure (m ++ ms)

/-- How a run of `main` ends. -/
inductive Outcome
  /-- the `return` after `Error creating production lines` -/
  | returned
  | raised (e : DashExc)
  /-- the summary printed -/
  | completed (an : Analysis) (s : Summary)

/-- Steps 2 to 7 and the summary, once both lines exist; the dashboard's reads of
    `line['id']` give the ids the recording loop read. -/
def runDashboard (fp : PyFloat) (env : Env) (a t : PyDict) :
    Except DashExc (Analysis × Summary) := do
  let recorded ← recordMetrics env.stdout ((metricsData fp a t).zip (List.ofFn env.metrics))
  let ai ← readKey a "id"
  let ti ← readKey t "id"
  dashboard fp env.stdout ⟨ai, a.get? "line_name", a.get? "line_code"⟩
    ⟨ti, t.get? "line_name", t.get? "line_code"⟩ recorded

/-- `main()` -/
def main (fp : PyFloat) (env : Env) : Outcome :=
  match createLine env.stdout env.assemblyLine with
  | .error e => .raised e
  | .ok none => .returned
  | .ok (some a) =>
    match createLine env.stdout env.testLine with
    | .error e => .raised e
    | .ok none => .returned
    | .ok (some t) =>
      match runDashboard fp env a t with
      | .error e => .raised e
      | .ok (an, s) => .completed an s

/-! ## `calculate_oee` and step 3 -/

section
variable (fp : PyFloat) {out : OutErrors} {d : OeeData} {ms : List (Metric JsonValue)}
  {e : DashExc}

/-- `calculate_oee` with zero planned hours or zero planned quantity divides by zero. -/
theorem calculateOee_zero (h : d.plannedHours = 0 ∨ d.plannedQuantity = 0) :
    calculateOee fp d = .error .zeroDivisionError := by
  by_cases h1 : d.plannedHours = 0
  · simp [calculateOee, h1, bind, Except.bind]
  · simp [calculateOee, h.resolve_left h1, fp.div_of_ne h1, bind, Except.bind]

/-- With nonzero planned hours and quantity, `calculate_oee` raises `OverflowError` when the
    performance quotient, or the quality one (computed only for a positive actual
    quantity), overflows, and otherwise returns the dict of its three factors. -/
theorem calculateOee_of_ne (h1 : d.plannedHours ≠ 0) (h2 : d.plannedQuantity ≠ 0) :
    calculateOee fp d =
      if floatOverflow ≤ |(d.actualQuantity / d.plannedQuantity : ℚ)| ∨
          0 < d.actualQuantity ∧ floatOverflow ≤ |(d.quantityPassed / d.actualQuantity : ℚ)|
      then .error .overflowError
      else .ok (.ofFactors fp
        (fp.rnd (fp.rnd (d.plannedHours - d.downtimeHours) / d.plannedHours))
        (fp.rnd (d.actualQuantity / d.plannedQuantity))
        (if 0 < d.actualQuantity then fp.rnd (d.quantityPassed / d.actualQuantity) else 0)) := by
  unfold calculateOee
  rw [fp.div_of_ne h1]
  by_cases hp : floatOverflow ≤ |(d.actualQuantity / d.plannedQuantity : ℚ)|
  · rw [fp.intDiv_overflow h2 hp, if_pos (.inl hp)]; rfl
  rw [fp.intDiv_of_lt h2 (not_le.1 hp)]
  by_cases ha : 0 < d.actualQuantity
  · simp only [if_pos ha]
    by_cases hq : floatOverflow ≤ |(d.quantityPassed / d.actualQuantity : ℚ)|
    · rw [fp.intDiv_overflow ha.ne' hq, if_pos (.inr ⟨ha, hq⟩)]; rfl
    · rw [fp.intDiv_of_lt ha.ne' (not_le.1 hq), if_neg (not_or.2 ⟨hp, fun h => hq h.2⟩)]; rfl
  · simp only [if_neg ha]
    rw [if_neg (not_or.2 ⟨hp, fun h => ha h.1⟩)]; rfl

theorem calculateOee_error (h : calculateOee fp d = .error e) :
    e = .zeroDivisionError ∨ e = .overflowError := by
  by_cases h0 : d.plannedHours = 0 ∨ d.plannedQuantity = 0
  · rw [calculateOee_zero fp h0] at h; cases h; exact .inl rfl
  · rw [not_or] at h0
    rw [calculateOee_of_ne fp h0.1 h0.2] at h
    split_ifs at h
    cases h
    exact .inr rfl

/-- `calculate_oee` raises `ZeroDivisionError` exactly when the planned hours or the planned
    quantity is zero (a zero actual quantity is guarded), and otherwise `OverflowError`
    exactly when a quotient of quantities overflows: the performance, or the quality when
    something was produced. -/
theorem calculateOee_eq_error :
    calculateOee fp d = .error e ↔
      (d.plannedHours = 0 ∨ d.plannedQuantity = 0) ∧ e = .zeroDivisionError ∨
        d.plannedHours ≠ 0 ∧ d.plannedQuantity ≠ 0 ∧
          (floatOverflow ≤ |(d.actualQuantity / d.plannedQuantity : ℚ)| ∨
            0 < d.actualQuantity ∧
              floatOverflow ≤ |(d.quantityPassed / d.actualQuantity : ℚ)|) ∧
          e = .overflowError := by
  by_cases h0 : d.plannedHours = 0 ∨ d.plannedQuantity = 0
  · rw [calculateOee_zero fp h0]
    simp only [Except.error.injEq, h0, true_and, eq_comm, ne_eq]
    constructor
    · exact .inl
    · rintro (h | ⟨h1, h2, -, -⟩)
      · exact h
      · exact absurd h0 (not_or.2 ⟨h1, h2⟩)
  · rw [not_or] at h0
    rw [calculateOee_of_ne fp h0.1 h0.2]
    split_ifs with ho <;> simp [h0.1, h0.2, ho, eq_comm]

/-- On consistent quantities (`0 ≤ passed ≤ actual ≤ planned`, some planned) and nonzero
    planned hours, `calculate_oee` returns the dict of its three factors. -/
theorem calculateOee_of_unit (h1 : d.plannedHours ≠ 0)
    (hq : 0 ≤ d.quantityPassed ∧ d.quantityPassed ≤ d.actualQuantity ∧
      d.actualQuantity ≤ d.plannedQuantity) (hpq : 0 < d.plannedQuantity) :
    calculateOee fp d = .ok (.ofFactors fp
      (fp.rnd (fp.rnd (d.plannedHours - d.downtimeHours) / d.plannedHours))
      (fp.rnd (d.actualQuantity / d.plannedQuantity))
      (if 0 < d.actualQuantity then fp.rnd (d.quantityPassed / d.actualQuantity) else 0)) := by
  rw [calculateOee_of_ne fp h1 hpq.ne', if_neg]
  rintro (h | ⟨ha, h⟩)
  · exact (abs_div_lt_floatOverflow (hq.1.trans hq.2.1) hq.2.2 hpq).not_le h
  · exact (abs_div_lt_floatOverflow hq.1 hq.2.1 ha).not_le h

/-- Step 4 on a line with no recorded metric: `0 / 0`. -/
theorem calculateOee_nil : calculateOee fp (oeeData fp []) = .error .zeroDivisionError :=
  calculateOee_zero fp (.inl fp.fsum_nil)

/-- The sums of consistent metrics are consistent. -/
theorem total_consistent {L : Type} {ms : List (Metric L)} (hq : ∀ m ∈ ms, m.Consistent) :
    0 ≤ total ms (·.quantityPassed) ∧ total ms (·.quantityPassed) ≤ total ms (·.actualQuantity) ∧
      total ms (·.actualQuantity) ≤ total ms (·.plannedQuantity) :=
  ⟨List.sum_nonneg (List.forall_mem_map.2 fun m hm => (hq m hm).1),
    List.sum_le_sum fun m hm => (hq m hm).2.1, List.sum_le_sum fun m hm => (hq m hm).2.2⟩

theorem consistent_lineMetrics (hq : ∀ m ∈ ms, m.Consistent) (id : JsonValue) :
    ∀ m ∈ lineMetrics ms id, m.Consistent := fun m hm => hq m (List.mem_filter.1 hm).1

/-- On consistent metrics step 4 raises at most `ZeroDivisionError`. -/
theorem calculateOee_oeeData (hq : ∀ m ∈ ms, m.Consistent) :
    calculateOee fp (oeeData fp ms) = .error .zeroDivisionError ∨
      ∃ o, calculateOee fp (oeeData fp ms) = .ok o := by
  have hc := total_consistent hq
  by_cases h0 : (oeeData fp ms).plannedHours = 0 ∨ (oeeData fp ms).plannedQuantity = 0
  · exact .inl (calculateOee_zero fp h0)
  · rw [not_or] at h0
    exact .inr ⟨_, calculateOee_of_unit fp h0.1 hc
      (lt_of_le_of_ne (hc.1.trans (hc.2.1.trans hc.2.2)) (Ne.symm h0.2))⟩

/-- Step 4 completes on a line with consistent recorded metrics whose planned hours are
    positive floats and whose planned quantities are positive. -/
theorem calculateOee_oeeData_ok (hne : ms ≠ []) (hq : ∀ m ∈ ms, m.Consistent)
    (h : ∀ m ∈ ms, fp.rnd m.plannedHours = m.plannedHours ∧ 0 < m.plannedHours ∧
      0 < m.plannedQuantity) :
    ∃ o, calculateOee fp (oeeData fp ms) = .ok o := by
  obtain ⟨m, hm⟩ := List.exists_mem_of_ne_nil ms hne
  have hph : 0 < (oeeData fp ms).plannedHours :=
    fp.fsum_pos _ (List.forall_mem_map.2 fun m hm => ⟨(h m hm).1, (h m hm).2.1.le⟩)
      ⟨_, List.mem_map_of_mem _ hm, (h m hm).2.1⟩
  have hpq : 0 < (oeeData fp ms).plannedQuantity :=
    List.sum_pos _ (List.forall_mem_map.2 fun m hm => (h m hm).2.2) (mt List.map_eq_nil_iff.1 hne)
  exact ⟨_, calculateOee_of_unit fp hph.ne' (total_consistent hq) hpq⟩

/-- A quotient `x / y` with `0 ≤ x ≤ y` rounds to a float in `[0, 1]`. -/
theorem rnd_div_unit {x y : ℚ} (hx : 0 ≤ x) (hxy : x ≤ y) :
    fp.rnd (fp.rnd (x / y)) = fp.rnd (x / y) ∧ 0 ≤ fp.rnd (x / y) ∧ fp.rnd (x / y) ≤ 1 :=
  ⟨fp.rnd_rnd _, fp.rnd_nonneg (div_nonneg hx (hx.trans hxy)),
    fp.rnd_le_of_le (div_le_one_of_le₀ hxy (hx.trans hxy)) fp.rnd_one⟩

/-- From three factors in `[0, 1]`, the OEE is at least `0` and at most each factor, and
    the factors in percent are at most `100`. -/
theorem ofFactors_bounds {a p q : ℚ} (ha : fp.rnd a = a ∧ 0 ≤ a ∧ a ≤ 1)
    (hp : fp.rnd p = p ∧ 0 ≤ p ∧ p ≤ 1) (hq : fp.rnd q = q ∧ 0 ≤ q ∧ q ≤ 1) :
    let o := Oee.ofFactors fp a p q
    0 ≤ o.oee ∧ o.oee ≤ o.availability ∧ o.oee ≤ o.performance ∧ o.oee ≤ o.quality ∧
      o.availability ≤ 100 ∧ o.performance ≤ 100 ∧ o.quality ≤ 100 := by
  obtain ⟨ha, ha0, ha1⟩ := ha
  obtain ⟨hp, hp0, hp1⟩ := hp
  obtain ⟨hq, hq0, hq1⟩ := hq
  -- `rnd (a * p)`, then `rnd (rnd (a * p) * q)`: each at most every factor it multiplies
  have hX0 : 0 ≤ fp.rnd (a * p) := fp.rnd_nonneg (mul_nonneg ha0 hp0)
  have hXa : fp.rnd (a * p) ≤ a := fp.rnd_le_of_le (mul_le_of_le_one_right ha0 hp1) ha
  have hXp : fp.rnd (a * p) ≤ p := fp.rnd_le_of_le (mul_le_of_le_one_left hp0 ha1) hp
  have hYX : fp.rnd (fp.rnd (a * p) * q) ≤ fp.rnd (a * p) :=
    fp.rnd_le_of_le (mul_le_of_le_one_right hX0 hq1) (fp.rnd_rnd _)
  have hYq : fp.rnd (fp.rnd (a * p) * q) ≤ q :=
    fp.rnd_le_of_le (mul_le_of_le_one_left hq0 (hXa.trans ha1)) hq
  have pct : ∀ {x y : ℚ}, x ≤ y → fp.rnd (x * 100) ≤ fp.rnd (y * 100) := fun h =>
    fp.rnd_mono (mul_le_mul_of_nonneg_right h (by norm_num))
  have le100 : ∀ {x : ℚ}, x ≤ 1 → fp.rnd (x * 100) ≤ 100 := fun h =>
    fp.rnd_le_of_le (by linarith) (fp.rnd_ofNat 100 (by norm_num))
  exact ⟨fp.rnd_nonneg (mul_nonneg (fp.rnd_nonneg (mul_nonneg hX0 hq0)) (by norm_num)), pct (hYX.trans hXa), pct (hYX.trans hXp), pct hYq,
    le100 ha1, le100 hp1, le100 hq1⟩

/-- On consistent data (positive planned hours, a float, with the downtime within them;
    passed at most produced at most planned, some planned), `calculate_oee` returns
    percentages at most `100`, and an OEE between `0` and each of its three factors. -/
theorem calculateOee_bounds (hph : 0 < d.plannedHours)
    (hf : fp.rnd d.plannedHours = d.plannedHours)
    (hdh : 0 ≤ d.downtimeHours ∧ d.downtimeHours ≤ d.plannedHours)
    (hq : 0 ≤ d.quantityPassed ∧ d.quantityPassed ≤ d.actualQuantity ∧
      d.actualQuantity ≤ d.plannedQuantity) (hpq : 0 < d.plannedQuantity) :
    ∃ o, calculateOee fp d = .ok o ∧ 0 ≤ o.oee ∧ o.oee ≤ o.availability ∧
      o.oee ≤ o.performance ∧ o.oee ≤ o.quality ∧
      o.availability ≤ 100 ∧ o.performance ≤ 100 ∧ o.quality ≤ 100 := by
  refine ⟨_, calculateOee_of_unit fp hph.ne' hq hpq, ofFactors_bounds fp ?_ ?_ ?_⟩
  · exact rnd_div_unit fp (fp.rnd_nonneg (by linarith)) (fp.rnd_le_of_le (by linarith) hf)
  · exact rnd_div_unit fp (by exact_mod_cast hq.1.trans hq.2.1) (by exact_mod_cast hq.2.2)
  · split_ifs
    · exact rnd_div_unit fp (by exact_mod_cast hq.1) (by exact_mod_cast hq.2.1)
    · simp

/-- The assembly line's sums in `metrics_data`, in exact arithmetic. -/
theorem calculateOee_bounds_assembly :
    ∃ o, calculateOee PyFloat.exact ⟨16, 15, 14, 16, 7 / 10⟩ = .ok o ∧ 0 ≤ o.oee ∧
      o.oee ≤ o.availability ∧ o.oee ≤ o.performance ∧ o.oee ≤ o.quality ∧
      o.availability ≤ 100 ∧ o.performance ≤ 100 ∧ o.quality ≤ 100 :=
  calculateOee_bounds PyFloat.exact (d := ⟨16, 15, 14, 16, 7 / 10⟩) (by norm_num) rfl
    (by norm_num) (by norm_num) (by norm_num)

theorem orKeyError_eq_ok {o : Option JsonValue} {v : JsonValue} :
    orKeyError o = .ok v ↔ o = some v := by
  cases o <;> simp [orKeyError]

theorem Line.heading_eq_ok {l : Line} :
    l.heading out = .ok () ↔ ∃ n c, l.name = some n ∧ l.lineCode = some c ∧
      n.prints out ∧ c.prints out := by
  simp only [Line.heading, except_bind_eq_ok, orKeyError_eq_ok, printValues_eq_ok,
    List.mem_cons, List.mem_singleton, List.not_mem_nil, or_false, forall_eq_or_imp, forall_eq]
  constructor
  · rintro ⟨n, hn, c, hc, h⟩; exact ⟨n, c, hn, hc, h⟩
  · rintro ⟨n, c, hn, hc, h⟩; exact ⟨n, hn, c, hc, h⟩

theorem Line.eq_error_of_heading {l : Line} (h : l.heading out = .error e) :
    e = .keyError ∨ e = .unicodeEncodeError := by
  unfold Line.heading at h
  cases hn : l.name <;> cases hc : l.lineCode <;>
    simp only [hn, hc, orKeyError, bind, Except.bind] at h <;> first
    | (cases h; exact .inl rfl)
    | exact .inr (eq_unicodeEncodeError_of_printValues h)

theorem lineReport_eq_error {l : Line} (h : lineReport fp out ms l = .error e) :
    e = .overflowError ∨ e = .keyError ∨ e = .unicodeEncodeError := by
  simp only [lineReport, except_bind_eq_error] at h
  rcases h with h | ⟨_, -, h | ⟨_, -, h⟩⟩
  · exact .inl (fp.eq_overflowError_of_percentInt h)
  · exact .inr (Line.eq_error_of_heading h)
  · cases h

theorem mapM_lineReport_eq_error {ls : List Line} (h : ls.mapM (lineReport fp out ms) = .error e) :
    e = .overflowError ∨ e = .keyError ∨ e = .unicodeEncodeError := by
  induction ls with
  | nil => cases h
  | cons l ls ih =>
    simp only [List.mapM_cons, except_bind_eq_error] at h
    rcases h with h | ⟨_, -, h | ⟨_, -, h⟩⟩
    · exact lineReport_eq_error fp h
    · exact ih h
    · cases h

/-- On consistent metrics the utilization is computed, and the per-line loop of step 3 ends
    as the two headings do. -/
theorem mapM_lineReport_consistent (out : OutErrors) (hq : ∀ m ∈ ms, m.Consistent) (a t : Line) :
    ∃ lines, [a, t].mapM (lineReport fp out ms) =
      (a.heading out >>= fun _ => t.heading out) >>= fun _ => .ok lines := by
  have hrow : ∀ l : Line, ∃ r, lineReport fp out ms l = l.heading out >>= fun _ => .ok r :=
    fun l => have hc := total_consistent (consistent_lineMetrics hq l.id)
      ⟨_, by rw [lineReport, fp.percentInt_unit (hc.1.trans hc.2.1) hc.2.2]; rfl⟩
  obtain ⟨ra, hra⟩ := hrow a
  obtain ⟨rt, hrt⟩ := hrow t
  refine ⟨[ra, rt], ?_⟩
  simp only [List.mapM_cons, List.mapM_nil, hra, hrt]
  cases a.heading out <;> cases t.heading out <;> rfl

end

/-! ## The downtime breakdown: `downtime_breakdown`, `sorted` and `max` -/

section
variable (fp : PyFloat) {L : Type}

theorem downtimeBreakdown_append (ms : List (Metric L)) (m : Metric L) :
    downtimeBreakdown fp (ms ++ [m]) =
      addDowntime fp m.downtimeReason m.downtimeHours (downtimeBreakdown fp ms) := by
  simp [downtimeBreakdown, List.foldl_append]

theorem addDowntime_ne_nil (r : PyStr) (h : ℚ) (d : List (PyStr × ℚ)) :
    addDowntime fp r h d ≠ [] := by
  cases d with
  | nil => simp [addDowntime]
  | cons x d => unfold addDowntime; split_ifs <;> simp

theorem downtimeBreakdown_ne_nil {ms : List (Metric L)} (hms : ms ≠ []) :
    downtimeBreakdown fp ms ≠ [] := by
  induction ms using List.reverseRecOn with
  | nil => exact absurd rfl hms
  | append_singleton ms m _ => rw [downtimeBreakdown_append]; exact addDowntime_ne_nil fp _ _ _

theorem fst_mem_addDowntime {r : PyStr} {h : ℚ} {x : PyStr × ℚ} :
    ∀ {d : List (PyStr × ℚ)}, x ∈ addDowntime fp r h d → x.1 = r ∨ x.1 ∈ d.map Prod.fst
  | [], hx => by simp_all [addDowntime]
  | (r', v) :: d, hx => by
    simp only [addDowntime] at hx
    split_ifs at hx with hr
    · rcases List.mem_cons.1 hx with rfl | hx
      · exact .inl hr
      · exact .inr (List.mem_cons_of_mem _ (List.mem_map_of_mem _ hx))
    · rcases List.mem_cons.1 hx with rfl | hx
      · exact .inr (List.mem_cons_self _ _)
      · exact (fst_mem_addDowntime hx).imp_right (List.mem_cons_of_mem _)

/-- Every reason of the breakdown is a recorded metric's. -/
theorem fst_mem_downtimeBreakdown {ms : List (Metric L)} {x : PyStr × ℚ}
    (hx : x ∈ downtimeBreakdown fp ms) : x.1 ∈ ms.map (·.downtimeReason) := by
  induction ms using List.reverseRecOn generalizing x with
  | nil => simp [downtimeBreakdown] at hx
  | append_singleton ms m ih =>
    rw [downtimeBreakdown_append] at hx
    rw [List.map_append, List.mem_append]
    rcases fst_mem_addDowntime fp hx with h | h
    · exact .inr (by simp [h])
    · obtain ⟨y, hy, hxy⟩ := List.mem_map.1 h
      exact .inl (hxy ▸ ih hy)

/-- A new key is appended with `0 + h`. -/
theorem addDowntime_fresh {r : PyStr} {h : ℚ} {d : List (PyStr × ℚ)} (hr : r ∉ d.map Prod.fst) :
    addDowntime fp r h d = d ++ [(r, fp.rnd (0 + h))] := by
  induction d with
  | nil => rfl
  | cons x d ih =>
    simp only [List.map_cons, List.mem_cons, not_or] at hr
    simp [addDowntime, Ne.symm hr.1, ih hr.2]

/-- With distinct reasons, each metric gets its own entry, `0 + h`. -/
theorem downtimeBreakdown_of_nodup {ms : List (Metric L)}
    (h : (ms.map (·.downtimeReason)).Nodup) :
    downtimeBreakdown fp ms = ms.map fun m => (m.downtimeReason, fp.rnd (0 + m.downtimeHours)) := by
  induction ms using List.reverseRecOn with
  | nil => rfl
  | append_singleton ms m ih =>
    simp only [List.map_append, List.map_cons, List.map_nil, List.nodup_append,
      List.nodup_cons, List.not_mem_nil, not_false_eq_true, List.nodup_nil, and_self,
      List.disjoint_singleton, true_and] at h
    rw [downtimeBreakdown_append, ih h.1, addDowntime_fresh fp (by simpa using h.2), List.map_append]
    rfl

/-- On a dict with distinct keys, `d[r] = d.get(r, 0) + h` updates the entry of `r` in
    place, or appends one. -/
theorem addDowntime_map {keys : List PyStr} (hk : keys.Nodup) (g : PyStr → ℚ) (r : PyStr)
    (h : ℚ) : addDowntime fp r h (keys.map fun k => (k, g k)) =
      if r ∈ keys then keys.map fun k => (k, if k = r then fp.rnd (g k + h) else g k)
      else keys.map (fun k => (k, g k)) ++ [(r, fp.rnd (0 + h))] := by
  induction keys with
  | nil => simp [addDowntime]
  | cons k ks ih =>
    rw [List.nodup_cons] at hk
    by_cases hkr : k = r
    · subst hkr
      simp only [List.map_cons, addDowntime, if_pos, List.mem_cons, true_or, if_true]
      exact congrArg _ (List.map_congr_left fun k hk' => by
        rw [if_neg (ne_of_mem_of_not_mem hk' hk.1)])
    · simp only [List.map_cons, addDowntime, hkr, if_false, ih hk.2, List.mem_cons,
        Ne.symm hkr, false_or]
      split_ifs <;> rfl

/-- The breakdown is the metrics grouped by reason: one entry per reason, in the order
    reasons first occur, holding the running float sum of that reason's downtimes in
    record order (`0 + h₁ + h₂ + ...`, rounded after each `+`). -/
theorem downtimeBreakdown_groups (ms : List (Metric L)) :
    downtimeBreakdown fp ms = (ms.map (·.downtimeReason)).reverse.dedup.reverse.map fun r =>
      (r, fp.foldSum ((ms.filter (·.downtimeReason = r)).map (·.downtimeHours))) := by
  induction ms using List.reverseRecOn with
  | nil => rfl
  | append_singleton ms m ih =>
    rw [downtimeBreakdown_append, ih,
      addDowntime_map fp (List.nodup_reverse.2 (List.nodup_dedup _))]
    simp only [List.map_append, List.map_cons, List.map_nil, List.reverse_append,
      List.reverse_cons, List.reverse_nil, List.nil_append, List.singleton_append,
      List.mem_reverse, List.mem_dedup, List.filter_append, List.filter_cons, List.filter_nil]
    split_ifs with hm
    · -- a reason seen before: its entry is updated in place
      rw [List.dedup_cons_of_mem (List.mem_reverse.2 hm)]
      refine List.map_congr_left fun k _ => ?_
      by_cases hk : k = m.downtimeReason
      · simp [hk]
      · simp [hk, Ne.symm hk]
    · -- a new reason: a new entry at the end
      rw [List.dedup_cons_of_not_mem (mt List.mem_reverse.1 hm), List.reverse_cons]
      simp only [List.map_append, List.map_cons, List.map_nil]
      congr 1
      · refine List.map_congr_left fun k hk => ?_
        have : k ≠ m.downtimeReason := fun e => hm (e ▸ by simpa using hk)
        simp [this, Ne.symm this]
      · have : ms.filter (·.downtimeReason = m.downtimeReason) = [] := by
          simpa [List.filter_eq_nil_iff] using hm
        simp [this]

end

/-- The scan of `max`: at every step the best so far is the first item of the largest
    hours among those scanned. -/
theorem foldl_max_split (xs : List (PyStr × ℚ)) : ∀ (pre post : List (PyStr × ℚ)) (b : PyStr × ℚ),
    (∀ y ∈ pre, y.2 < b.2) → (∀ y ∈ post, y.2 ≤ b.2) →
    let m := xs.foldl (fun best y => if best.2 < y.2 then y else best) b
    ∃ pre' post', pre ++ b :: post ++ xs = pre' ++ m :: post' ∧ (∀ y ∈ pre', y.2 < m.2) ∧
      ∀ y ∈ post', y.2 ≤ m.2 := by
  induction xs with
  | nil => exact fun pre post b hpre hpost => ⟨pre, post, by simp, hpre, hpost⟩
  | cons x xs ih =>
    intro pre post b hpre hpost
    simp only [List.foldl_cons]
    split_ifs with hbx
    · -- `x` is the new best
      have := ih (pre ++ b :: post) [] x (by
        simp only [List.mem_append, List.mem_cons]
        rintro y (hy | rfl | hy)
        exacts [(hpre y hy).trans hbx, hbx, (hpost y hy).trans_lt hbx]) (by simp)
      simpa using this
    · have := ih pre (post ++ [x]) b hpre (by
        simp only [List.mem_append, List.mem_singleton]
        rintro y (hy | rfl)
        exacts [hpost y hy, not_lt.1 hbx])
      simpa using this

/-- `max` returns the first item of the largest hours. -/
theorem maxByHours_split {l : List (PyStr × ℚ)} {m : PyStr × ℚ} (h : maxByHours l = .ok m) :
    ∃ pre post, l = pre ++ m :: post ∧ (∀ y ∈ pre, y.2 < m.2) ∧ ∀ y ∈ post, y.2 ≤ m.2 := by
  cases l with
  | nil => cases h
  | cons x xs =>
    simp only [maxByHours, Except.ok.injEq] at h
    subst h
    simpa using foldl_max_split xs [] [] x (by simp) (by simp)

/-- The stable sort puts first the first item of the largest hours. -/
theorem sortByHours_head {pre post : List (PyStr × ℚ)} {m : PyStr × ℚ}
    (hpre : ∀ y ∈ pre, y.2 < m.2) (hpost : ∀ y ∈ post, y.2 ≤ m.2) :
    (sortByHours (pre ++ m :: post)).head? = some m := by
  unfold sortByHours
  set l := pre ++ m :: post
  have trans : ∀ a b c : PyStr × ℚ, decide (b.2 ≤ a.2) → decide (c.2 ≤ b.2) →
      decide (c.2 ≤ a.2) := by simp only [decide_eq_true_eq]; exact fun _ _ _ h1 h2 => h2.trans h1
  have total : ∀ a b : PyStr × ℚ, (decide (b.2 ≤ a.2) || decide (a.2 ≤ b.2)) := by
    simpa using fun a b : PyStr × ℚ => le_total b.2 a.2
  have hle : ∀ y ∈ l, y.2 ≤ m.2 := by
    simp only [l, List.mem_append, List.mem_cons]
    rintro y (hy | rfl | hy)
    exacts [(hpre y hy).le, le_rfl, hpost y hy]
  -- the items of the largest hours, in input order, stay in that order after sorting
  set c := m :: post.filter (·.2 = m.2)
  have hcs : c.Sublist (l.mergeSort fun a b => b.2 ≤ a.2) := by
    refine List.sublist_mergeSort trans total (List.pairwise_of_forall_mem_list ?_)
      (((List.filter_sublist post).cons₂ m).trans (List.sublist_append_right pre _))
    simp only [c, List.mem_cons, List.mem_filter, decide_eq_true_eq]
    rintro a (rfl | ⟨-, ha⟩) b (rfl | ⟨-, hb⟩) <;> simp [*]
  -- and they are all the sorted items of the largest hours
  have hfilter : (l.mergeSort fun a b => b.2 ≤ a.2).filter (·.2 = m.2) = c := by
    have hc : c.filter (·.2 = m.2) = c := List.filter_eq_self.2 (by simp [c])
    refine (hc ▸ hcs.filter _).eq_of_length ?_ |>.symm
    rw [((List.mergeSort_perm l _).filter _).length_eq]
    have : pre.filter (·.2 = m.2) = [] :=
      List.filter_eq_nil_iff.2 fun y hy => by simpa using (hpre y hy).ne
    simp [l, c, List.filter_append, this]
  -- the first sorted item has the largest hours, so it is the first of them
  have hs := List.sorted_mergeSort trans total l
  rcases hsl : l.mergeSort (fun a b => b.2 ≤ a.2) with _ | ⟨h, t⟩
  · simp [hsl] at hfilter
  · have hmem : m ∈ h :: t := hsl ▸ (List.mergeSort_perm l _).mem_iff.2 (by simp [l])
    have hh : h ∈ l := (List.mergeSort_perm l _).mem_iff.1 (hsl ▸ List.mem_cons_self h t)
    rw [hsl, List.pairwise_cons] at hs
    have hmh : m.2 ≤ h.2 := by
      rcases List.mem_cons.1 hmem with rfl | hm
      exacts [le_rfl, by simpa using hs.1 m hm]
    rw [hsl, List.filter_cons_of_pos (by simpa using le_antisymm (hle h hh) hmh)] at hfilter
    simp [(List.cons.inj hfilter).1]

theorem mem_of_maxByHours {l : List (PyStr × ℚ)} {m : PyStr × ℚ} (h : maxByHours l = .ok m) :
    m ∈ l := by
  obtain ⟨pre, post, rfl, -, -⟩ := maxByHours_split h
  simp

theorem le_of_maxByHours {l : List (PyStr × ℚ)} {m : PyStr × ℚ} (h : maxByHours l = .ok m) :
    ∀ y ∈ l, y.2 ≤ m.2 := by
  obtain ⟨pre, post, rfl, hpre, hpost⟩ := maxByHours_split h
  simp only [List.mem_append, List.mem_cons]
  rintro y (hy | rfl | hy)
  exacts [(hpre y hy).le, le_rfl, hpost y hy]

/-- An item appended after the maximum, with no more hours, does not change it. -/
theorem maxByHours_append_le {l : List (PyStr × ℚ)} {m y : PyStr × ℚ}
    (h : maxByHours l = .ok m) (hy : y.2 ≤ m.2) : maxByHours (l ++ [y]) = .ok m := by
  cases l with
  | nil => cases h
  | cons x xs =>
    simp only [maxByHours, Except.ok.injEq] at h
    simp [maxByHours, List.foldl_append, h, not_lt.2 hy]

/-- `max(items, key=...)` picks the first item of `sorted(items, key=..., reverse=True)`,
    ties included, and both fail or are empty together. -/
theorem maxByHours_toOption (l : List (PyStr × ℚ)) :
    (maxByHours l).toOption = (sortByHours l).head? := by
  cases h : maxByHours l with
  | error e =>
    cases l with
    | nil => simp [sortByHours, Except.toOption]
    | cons => simp [maxByHours] at h
  | ok m =>
    obtain ⟨pre, post, rfl, hpre, hpost⟩ := maxByHours_split h
    simp [sortByHours_head hpre hpost, Except.toOption]

end Analytics

end DevAdminToken
