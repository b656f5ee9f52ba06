/-
  DevAdminToken formalization — `main` of the production analytics example
  (`demos/python_client/example_3_production_analytics.py`) over every behaviour of the
  API.

  `main` records the four entries of `metrics_data`, two for each line, skipping those
  whose `create_metrics` raises `APIError`, and runs the dashboard on what it recorded: a
  sublist of `metrics_data` (`kept_sublist`).  On such a list the dashboard never completes
  (`dashboard_recorded`): a line's heading that cannot be read or printed raises; then,
  with a line without a recorded metric, `calculate_oee` divides by zero; otherwise step 7
  always has something to recommend, a `HIGH` for the largest downtime unless only the test
  line's `'None'` entry was recorded, and then a `SUCCESS` for the test line's OEE, and its
  printout raises `NameError`.
-/
import DevAdminToken.Dashboard

namespace DevAdminToken.Analytics

variable (fp : PyFloat)

/-! ## The entries of `metrics_data` -/

section
variable {L : Type} (a t : L)

theorem rnd_eight : fp.rnd 8 = 8 := fp.rnd_ofNat 8 (by norm_num)

/-- Every entry of `metrics_data` plans positive hours (a float) and a positive quantity,
    and records a downtime of at least `0.1`. -/
theorem metricsData_facts : ∀ m ∈ metricsData fp a t,
    fp.rnd m.plannedHours = m.plannedHours ∧ 0 < m.plannedHours ∧ 0 < m.plannedQuantity ∧
      ∃ q, 1 / 10 ≤ q ∧ m.downtimeHours = fp.rnd q := by
  have h8 : fp.rnd (fp.rnd 8) = fp.rnd 8 ∧ 0 < fp.rnd 8 := by simp [rnd_eight]
  simp only [metricsData, List.mem_cons, List.mem_singleton, List.not_mem_nil, or_false]
  rintro m (rfl | rfl | rfl | rfl) <;>
    exact ⟨h8.1, h8.2, by norm_num, _, by norm_num, rfl⟩

/-- Every entry of `metrics_data` has consistent quantities, no more failed than produced,
    and a reason of plain text. -/
theorem metricsData_quantities : ∀ m ∈ metricsData fp a t,
    m.Consistent ∧ 0 ≤ m.quantityFailed ∧ m.quantityFailed ≤ m.actualQuantity ∧
      ∀ out : OutErrors, out.prints m.downtimeReason := by
  simp only [metricsData, List.mem_cons, List.mem_singleton, List.not_mem_nil, or_false]
  rintro m (rfl | rfl | rfl | rfl) <;>
    exact ⟨by norm_num [Metric.Consistent], by norm_num, by norm_num,
      fun out => out.prints_ofString _⟩

/-- A downtime of at least `0.1` is a positive float, no smaller than `0.1`. -/
theorem downtime_facts {q : ℚ} (hq : 1 / 10 ≤ q) :
    fp.rnd (fp.rnd q) = fp.rnd q ∧ 0 < fp.rnd q ∧ fp.rnd (1 / 10) ≤ fp.rnd q := by
  have h16 : fp.rnd (1 / 16) = 1 / 16 := by
    simpa using fp.rnd_dyadic 1 4 (by decide) (by norm_num)
  exact ⟨fp.rnd_rnd q, lt_of_lt_of_le (by norm_num) (fp.le_rnd_of_le (by linarith) h16),
    fp.rnd_mono hq⟩

end

/-- `rnd` is exact on `m / 2^k`, stated with the value as a fraction. -/
theorem rnd_frac {m : ℤ} {k : ℕ} {x : ℚ} (hm : |m| ≤ 2 ^ 53) (hk : k ≤ 1074)
    (hx : x = m / 2 ^ k) : fp.rnd x = x := hx ▸ fp.rnd_dyadic m k hm hk

/-- A shift that produced its plan with no defect, losing at most an eighth of an hour of
    its eight, is world class: its OEE is at least `98.4375`. -/
theorem oee_single_ge {m : Metric JsonValue} {o : Oee} (hp : 0 < m.plannedQuantity)
    (ha : m.actualQuantity = m.plannedQuantity) (hq : m.quantityPassed = m.actualQuantity)
    (hh : m.plannedHours = 8) (hf : fp.rnd m.downtimeHours = m.downtimeHours)
    (hd : m.downtimeHours ≤ 1 / 8)
    (h : calculateOee fp (oeeData fp [m]) = .ok o) : 85 ≤ o.oee := by
  have h8 : fp.fsum [m.plannedHours] = 8 := by rw [fp.fsum_singleton _ (hh ▸ rnd_eight fp), hh]
  have hpq : (m.plannedQuantity : ℚ) ≠ 0 := by exact_mod_cast hp.ne'
  rw [calculateOee_of_unit fp (by simp [oeeData, total, h8])
    (by simp [oeeData, total, ha, hq, hp.le]) (by simp [oeeData, total, hp])] at h
  cases h
  simp only [Oee.ofFactors, oeeData, total, List.map_cons, List.map_nil, List.sum_cons,
    List.sum_nil, add_zero, h8, fp.fsum_singleton _ hf, hq, ha, if_pos hp, div_self hpq,
    fp.rnd_one, mul_one, fp.rnd_rnd]
  -- `8.0 - h ≥ 63/8`, so the availability is at least `63/64`
  have h1 : 63 / 8 ≤ fp.rnd (8 - m.downtimeHours) :=
    fp.le_rnd_of_le (by linarith) (rnd_frac fp (m := 63) (k := 3) (by norm_num) (by norm_num)
      (by norm_num))
  have h2 : 63 / 64 ≤ fp.rnd (fp.rnd (8 - m.downtimeHours) / 8) :=
    fp.le_rnd_of_le (by linarith) (rnd_frac fp (m := 63) (k := 6) (by norm_num) (by norm_num)
      (by norm_num))
  have h3 : 1575 / 16 ≤ fp.rnd (fp.rnd (fp.rnd (8 - m.downtimeHours) / 8) * 100) :=
    fp.le_rnd_of_le (by linarith) (rnd_frac fp (m := 1575) (k := 4) (by norm_num) (by norm_num)
      (by norm_num))
  linarith

/-! ## The dashboard on the recorded metrics -/

section
variable (ai ti : JsonValue) {out : OutErrors} {R : List (Metric JsonValue)}

/-- The downtime condition of step 7 on recorded metrics other than the lone `'None'`
    entry: a positive total, and a largest downtime whose reason is not `'None'` (the
    `'None'` entry comes last, with the smallest downtime, and `max` keeps the first of
    equal items). -/
theorem recorded_high {R₁ R₂ : List (Metric JsonValue)}
    (h₁ : R₁.Sublist ((metricsData fp ai ti).take 3))
    (h₂ : R₂.Sublist ((metricsData fp ai ti).drop 3)) (hne : R₁ ≠ []) :
    0 < fp.fsum ((R₁ ++ R₂).map (·.downtimeHours)) ∧
      ∃ r ∈ (sortByHours (downtimeBreakdown fp (R₁ ++ R₂))).head?, r.1 ≠ "None" := by
  have hsub : (R₁ ++ R₂).Sublist (metricsData fp ai ti) :=
    (List.take_append_drop 3 (metricsData fp ai ti)) ▸ h₁.append h₂
  have hfacts := fun m (hm : m ∈ R₁ ++ R₂) => metricsData_facts fp ai ti m (hsub.subset hm)
  obtain ⟨m₀, hm₀⟩ := List.exists_mem_of_ne_nil R₁ hne
  refine ⟨fp.fsum_pos _ ?_ ?_, ?_⟩
  · simp only [List.mem_map]
    rintro _ ⟨m, hm, rfl⟩
    obtain ⟨q, hq, he⟩ := (hfacts m hm).2.2.2
    rw [he]; exact ⟨fp.rnd_rnd q, (downtime_facts fp hq).2.1.le⟩
  · obtain ⟨q, hq, he⟩ := (hfacts m₀ (List.mem_append_left _ hm₀)).2.2.2
    exact ⟨_, List.mem_map_of_mem _ (List.mem_append_left _ hm₀), he ▸ (downtime_facts fp hq).2.1⟩
  -- the first three entries have distinct reasons, none of them `'None'`
  have hnodup : ((R₁ ++ R₂).map (·.downtimeReason)).Nodup :=
    (hsub.map _).nodup (by simp [metricsData]; decide)
  have hreason : ∀ m ∈ R₁, m.downtimeReason ≠ "None" := fun m hm => by
    have := h₁.subset hm
    simp only [metricsData, List.take_succ_cons, List.take_zero, List.mem_cons,
      List.mem_singleton, List.not_mem_nil, or_false] at this
    rcases this with rfl | rfl | rfl <;> dsimp only <;> decide
  -- `max` over the first three entries' items
  set B₁ := R₁.map fun m => (m.downtimeReason, fp.rnd (0 + m.downtimeHours))
  obtain ⟨top, htop⟩ : ∃ top, maxByHours B₁ = .ok top := by
    cases R₁ with
    | nil => exact absurd rfl hne
    | cons m R => exact ⟨_, rfl⟩
  have htopB : top.1 ≠ "None" := by
    obtain ⟨m, hm, he⟩ := List.mem_map.1 (mem_of_maxByHours htop)
    exact he ▸ hreason m hm
  have hmax : maxByHours (downtimeBreakdown fp (R₁ ++ R₂)) = .ok top := by
    rw [downtimeBreakdown_of_nodup fp hnodup, List.map_append]
    simp only [metricsData, List.drop_succ_cons, List.drop_zero] at h₂
    rcases List.sublist_singleton.1 h₂ with rfl | rfl
    · simp only [List.map_nil, List.append_nil]; exact htop
    · refine maxByHours_append_le htop ?_
      -- the `'None'` entry's `0.1` is at most every other downtime
      obtain ⟨q, hq, he⟩ := (hfacts m₀ (List.mem_append_left _ hm₀)).2.2.2
      have hm₀B : (m₀.downtimeReason, fp.rnd (0 + m₀.downtimeHours)) ∈ B₁ :=
        List.mem_map_of_mem _ hm₀
      have := le_of_maxByHours htop _ hm₀B
      simp only [he, zero_add, fp.rnd_rnd] at this ⊢
      exact (fp.rnd_mono hq).trans this
  obtain ⟨pre, post, hl, hpre, hpost⟩ := maxByHours_split hmax
  exact ⟨top, by rw [hl, sortByHours_head hpre hpost]; rfl, htopB⟩

/-- Step 5 prints when every recorded reason does. -/
theorem printValues_rows (h : ∀ m ∈ R, out.prints m.downtimeReason) (total : ℚ) :
    printValues out (((sortByHours (downtimeBreakdown fp R)).map
      fun x => (x.1, x.2, fp.percent x.2 total)).map fun r => JsonValue.str r.1) = .ok () := by
  refine printValues_eq_ok.2 fun v hv => ?_
  simp only [List.map_map, List.mem_map, Function.comp_def] at hv
  obtain ⟨x, hx, rfl⟩ := hv
  obtain ⟨m, hm, hmx⟩ :=
    List.mem_map.1 (fst_mem_downtimeBreakdown fp ((List.mergeSort_perm _ _).mem_iff.1 hx))
  exact hmx ▸ h m hm

/-- The dashboard on recorded metrics (a sublist of `metrics_data` with the lines' ids): the
    exception of a heading that cannot be read or printed; else `ZeroDivisionError` when a
    line has no recorded metric, and `NameError` otherwise. -/
theorem dashboard_recorded {a t : Line} (hR : R.Sublist (metricsData fp a.id t.id)) :
    dashboard fp out a t R = (a.heading out >>= fun _ => t.heading out) >>= fun _ =>
      .error (if lineMetrics R a.id ≠ [] ∧ lineMetrics R t.id ≠ [] then .nameError
        else .zeroDivisionError) := by
  have hfacts := fun m (hm : m ∈ R) => metricsData_facts fp a.id t.id m (hR.subset hm)
  have hquant := fun m (hm : m ∈ R) => metricsData_quantities fp a.id t.id m (hR.subset hm)
  have hq : ∀ m ∈ R, m.Consistent := fun m hm => (hquant m hm).1
  have hc := total_consistent hq
  obtain ⟨lines, hl⟩ := mapM_lineReport_consistent fp out hq a t
  cases hH : (a.heading out >>= fun _ => t.heading out) with
  | error e =>
    simp only [dashboard, analyze, fp.percentInt_unit hc.1 hc.2.1, hl, hH]; rfl
  | ok u =>
  obtain ⟨ha, ht⟩ : a.heading out = .ok () ∧ t.heading out = .ok () := by
    cases ha : a.heading out <;> simp only [ha, bind, Except.bind] at hH
    · cases hH
    · exact ⟨rfl, hH⟩
  simp only [bind, Except.bind]
  split_ifs with h
  swap
  · rw [not_and_or, not_not, not_not] at h
    simp [dashboard, analyze_zeroDivision fp hq ha ht h, bind, Except.bind]
  obtain ⟨hA, hT⟩ := h
  -- steps 3 to 6 complete
  have hcalc : ∀ id, lineMetrics R id ≠ [] →
      ∃ o, calculateOee fp (oeeData fp (lineMetrics R id)) = .ok o := fun id hne =>
    calculateOee_oeeData_ok fp hne (consistent_lineMetrics hq id) fun m hm =>
      have h := hfacts m (List.mem_filter.1 hm).1
      ⟨h.1, h.2.1, h.2.2.1⟩
  obtain ⟨oa, hoa⟩ := hcalc a.id hA
  obtain ⟨ot, hot⟩ := hcalc t.id hT
  have hdefect := fp.percentInt_unit (x := total R (·.quantityFailed))
    (y := total R (·.actualQuantity))
    (List.sum_nonneg (List.forall_mem_map.2 fun m hm => (hquant m hm).2.1))
    (List.sum_le_sum fun m hm => (hquant m hm).2.2.1)
  obtain ⟨an, han, hot', htd, hbd⟩ : ∃ an, analyze fp out a t R = .ok an ∧
      an.testOee = ot ∧ an.totalDowntime = fp.fsum (R.map (·.downtimeHours)) ∧
      an.breakdown = downtimeBreakdown fp R :=
    ⟨_, by simp only [analyze, fp.percentInt_unit hc.1 hc.2.1, hl, ha, ht, hoa, hot,
      printValues_rows fp fun m hm => (hquant m hm).2.2.2 out, hdefect]; rfl, rfl, rfl, rfl⟩
  -- and step 7 has a recommendation
  obtain ⟨recs, hr, hiff⟩ := recommendations_ok fp (analyze_guard fp han)
  refine dashboard_nameError_of fp han hr (hiff.2 ?_)
  rw [hot', htd, hbd]
  rw [← List.take_append_drop 3 (metricsData fp a.id t.id)] at hR
  obtain ⟨R₁, R₂, rfl, h₁, h₂⟩ := List.sublist_append_iff.1 hR
  by_cases hne : R₁ = []
  · -- only the `'None'` entry: the test line is world class
    subst hne
    simp only [metricsData, List.drop_succ_cons, List.drop_zero] at h₂
    rcases List.sublist_singleton.1 h₂ with rfl | rfl
    · simp [lineMetrics] at hA
    · simp only [lineMetrics, List.nil_append, List.filter_cons, List.filter_nil,
        beq_self_eq_true, if_true] at hot
      exact .inr (.inl (oee_single_ge fp (by norm_num) rfl rfl (rnd_eight fp) (fp.rnd_rnd _)
        (by exact fp.rnd_le_of_le (by norm_num) (rnd_frac fp (m := 1) (k := 3) (by decide)
          (by norm_num) (by norm_num))) hot))
  · exact .inr (.inr (.inl (recorded_high fp a.id t.id h₁ h₂ hne)))

end

/-! ## The recording loop -/

section
variable {out : OutErrors}

/-- The `create_metrics` call returned an object: the entry is recorded. -/
def ApiResult.isObject : ApiResult → Bool
  | .ok (.obj _) => true
  | _ => false

/-- A turn of the recording loop that raises nothing: `create_metrics` returned an object,
    and the progress line prints the line's `line_name`, or it raised an `APIError` that
    prints. -/
def Recordable (out : OutErrors) (p : Metric PyDict × ApiResult) : Prop :=
  match p.2 with
  | .ok (.obj _) => ∃ n, p.1.line.get? "line_name" = some n ∧ n.prints out
  | .apiError m => m.prints out
  | _ => False

/-- The entries the recording loop keeps, each with its line's id. -/
def kept (ps : List (Metric PyDict × ApiResult)) : List (Metric JsonValue) :=
  ps.filterMap fun p => if p.2.isObject then (p.1.line.get? "id").map p.1.withLine else none

/-- A turn of the recording loop completes exactly when the line has an `'id'` and the turn
    is `Recordable`; it keeps the entry, with that id, when `create_metrics` returned an
    object. -/
theorem recordMetric_eq_ok {data : Metric PyDict} {r : ApiResult} {L : List (Metric JsonValue)} :
    recordMetric out data r = .ok L ↔ ∃ id, data.line.get? "id" = some id ∧
      Recordable out (data, r) ∧ L = if r.isObject then [data.withLine id] else [] := by
  simp only [recordMetric, readKey, except_bind_eq_ok, orKeyError_eq_ok]
  refine exists_congr fun id => and_congr_right fun _ => ?_
  rcases r with (d | _) | m | _ <;>
    simp only [Recordable, ApiResult.isObject, pure, Except.pure, throw, throwThe,
      MonadExceptOf.throw, except_bind_eq_ok, orKeyError_eq_ok, printValues_eq_ok,
      List.mem_singleton, forall_eq, Except.ok.injEq, List.nil_eq, exists_const, reduceCtorEq,
      Bool.false_eq_true, reduceIte, false_and]
  exact ⟨fun ⟨n, hn, hp, hL⟩ => ⟨⟨n, hn, hp⟩, hL.symm⟩,
    fun ⟨⟨n, hn, hp⟩, hL⟩ => ⟨n, hn, hp, hL.symm⟩⟩

/-- When it completes, the recording loop has kept the entries whose `create_metrics`
    returned an object, in order. -/
theorem recordMetrics_eq_ok {ps : List (Metric PyDict × ApiResult)} {R : List (Metric JsonValue)}
    (h : recordMetrics out ps = .ok R) : R = kept ps := by
  induction ps generalizing R with
  | nil => cases h; rfl
  | cons p ps ih =>
    obtain ⟨data, r⟩ := p
    simp only [recordMetrics, except_bind_eq_ok] at h
    obtain ⟨m, hm, ms, hms, h⟩ := h
    cases h
    obtain ⟨id, hid, -, rfl⟩ := recordMetric_eq_ok.1 hm
    rw [ih hms]
    cases hr : r.isObject <;> simp [kept, hid, hr]

/-- With every line's id present and every turn `Recordable`, the recording loop
    completes. -/
theorem recordMetrics_of {ps : List (Metric PyDict × ApiResult)}
    (hid : ∀ p ∈ ps, (p.1.line.get? "id").isSome) (hr : ∀ p ∈ ps, Recordable out p) :
    recordMetrics out ps = .ok (kept ps) := by
  induction ps with
  | nil => rfl
  | cons p ps ih =>
    obtain ⟨data, r⟩ := p
    simp only [List.mem_cons, forall_eq_or_imp] at hid hr
    obtain ⟨id, hid'⟩ := Option.isSome_iff_exists.1 hid.1
    have hm := recordMetric_eq_ok.2 ⟨id, hid', hr.1, rfl⟩
    simp only [recordMetrics, hm, ih hid.2 hr.2, bind, Except.bind, pure, Except.pure]
    cases hr' : r.isObject <;> simp [kept, hid', hr']

theorem kept_sublist (ps : List (Metric PyDict × ApiResult)) :
    (kept ps).Sublist (ps.filterMap fun p => (p.1.line.get? "id").map p.1.withLine) := by
  induction ps with
  | nil => exact .slnil
  | cons p ps ih =>
    simp only [kept, List.filterMap_cons] at ih ⊢
    split_ifs
    · cases p.1.line.get? "id" <;> simp [ih]
    · cases p.1.line.get? "id" with
      | none => simpa using ih
      | some _ => exact ih.cons _

/-- A line has a recorded metric when an entry kept by the loop has its id. -/
theorem lineMetrics_kept_ne_nil {ps : List (Metric PyDict × ApiResult)} {id : JsonValue} :
    lineMetrics (kept ps) id ≠ [] ↔ ∃ p ∈ ps, p.2.isObject ∧ p.1.line.get? "id" = some id := by
  simp only [lineMetrics, kept, ne_eq, List.filter_eq_nil_iff, not_forall, not_not,
    List.mem_filterMap, beq_iff_eq, exists_prop]
  constructor
  · rintro ⟨m, ⟨p, hp, hpm⟩, rfl⟩
    split_ifs at hpm with ho
    obtain ⟨v, hv, rfl⟩ := Option.map_eq_some'.1 hpm
    exact ⟨p, hp, ho, hv⟩
  · rintro ⟨p, hp, ho, hv⟩
    exact ⟨p.1.withLine id, ⟨p, hp, by simp [ho, hv]⟩, rfl⟩

end

/-! ## `main` -/

/-- With both lines' ids, the loop's entries are `metrics_data` with the ids. -/
theorem filterMap_ids_metricsData (env : Env) {a t : PyDict} {ai ti : JsonValue}
    (ha : a.get? "id" = some ai) (ht : t.get? "id" = some ti) :
    ((metricsData fp a t).zip (List.ofFn env.metrics)).filterMap
      (fun p => (p.1.line.get? "id").map p.1.withLine) = metricsData fp ai ti := by
  simp [metricsData, List.ofFn_succ, ha, ht, Metric.withLine]

/-- Once both lines exist, `main` ends with an exception: the recording loop's, a missing
    `'id'`, or the dashboard's. -/
theorem runDashboard_error (env : Env) (a t : PyDict) :
    ∃ e, runDashboard fp env a t = .error e := by
  unfold runDashboard
  cases hrec : recordMetrics env.stdout ((metricsData fp a t).zip (List.ofFn env.metrics)) with
  | error e => exact ⟨e, by simp [hrec, bind, Except.bind]⟩
  | ok R =>
    cases ha : a.get? "id" with
    | none => exact ⟨.keyError, by simp [hrec, readKey, orKeyError, ha, bind, Except.bind]⟩
    | some ai =>
    cases ht : t.get? "id" with
    | none => exact ⟨.keyError, by simp [hrec, readKey, orKeyError, ha, ht, bind, Except.bind]⟩
    | some ti =>
    have hR : R.Sublist (metricsData fp ai ti) := by
      rw [recordMetrics_eq_ok hrec, ← filterMap_ids_metricsData fp env ha ht]
      exact kept_sublist _
    simp only [hrec, readKey, orKeyError, ha, ht, bind, Except.bind]
    rw [dashboard_recorded fp (a := ⟨ai, _, _⟩) (t := ⟨ti, _, _⟩) hR]
    cases (Line.heading _ ⟨ai, _, _⟩ >>= fun _ => Line.heading _ ⟨ti, _, _⟩) <;> exact ⟨_, rfl⟩

/-- For every behaviour of the API, `main` returns after failing to create a line, or
    raises: it never prints its summary. -/
theorem main_never_completes (env : Env) :
    main fp env = .returned ∨ ∃ e, main fp env = .raised e := by
  unfold main
  rcases createLine env.stdout env.assemblyLine with e | _ | a
  · exact .inr ⟨e, rfl⟩
  · exact .inl rfl
  rcases createLine env.stdout env.testLine with e | _ | t
  · exact .inr ⟨e, rfl⟩
  · exact .inl rfl
  obtain ⟨e, he⟩ := runDashboard_error fp env a t
  exact .inr ⟨e, by simp only [he]⟩

/-- Well-formed responses: each rules out an exception of `main` before the dashboard. -/
structure WellFormed (env : Env) (a t : PyDict) : Prop where
  /-- `create_line` returned the objects `a`, then `t` -/
  assembly : env.assemblyLine = .ok (.obj a)
  test : env.testLine = .ok (.obj t)
  /-- the keys `main` reads of a line: `line_name` (steps 1 to 3), `id` (step 2) and
      `line_code` (step 3) -/
  keys : ∀ d ∈ [a, t], ∀ k ∈ (["line_name", "id", "line_code"] : List PyStr), (d.get? k).isSome
  /-- the values `main` prints of a line, its name and its code, hold no surrogate that
      `sys.stdout` cannot write -/
  prints : ∀ d ∈ [a, t], ∀ k ∈ (["line_name", "line_code"] : List PyStr),
    (d.get? k).all (·.prints env.stdout)
  /-- each `create_metrics` returned an object, or raised an `APIError` whose message
      prints -/
  metrics : ∀ i, (∃ m, env.metrics i = .apiError m ∧ m.prints env.stdout) ∨
    ∃ d, env.metrics i = .ok (.obj d)

/-- The ids of the lines of the recorded entries: entries `0` and `1` of `metrics_data` are
    the assembly line's, `2` and `3` the test line's. -/
def recordedIds (env : Env) (a t : PyDict) : List (Option JsonValue) :=
  ([((0 : Fin 4), a), (1, a), (2, t), (3, t)].filter fun p => (env.metrics p.1).isObject).map
    fun p => p.2.get? "id"

theorem mem_recordedIds {env : Env} {a t : PyDict} {id : JsonValue} :
    some id ∈ recordedIds env a t ↔ ∃ p ∈ (metricsData fp a t).zip (List.ofFn env.metrics),
      p.2.isObject ∧ p.1.line.get? "id" = some id := by
  simp only [recordedIds, metricsData, List.ofFn_succ, List.ofFn_zero, List.zip_cons_cons,
    List.zip_nil_right, List.mem_map, List.mem_filter, List.mem_cons, List.not_mem_nil,
    or_false, and_assoc, exists_eq_or_imp, exists_eq_left]
  exact Iff.rfl

theorem createLine_obj {out : OutErrors} {d : PyDict} {n : JsonValue}
    (hn : d.get? "line_name" = some n) (hp : n.prints out) :
    createLine out (.ok (.obj d)) = .ok (some d) := by
  simp [createLine, readKey, orKeyError, hn, printValues, hp, bind, Except.bind, pure,
    Except.pure]

/-- When the API answers every call with a well-formed object or with `APIError`, `main`
    raises `NameError` if each line has a recorded metric (an entry recorded with its id),
    and `ZeroDivisionError` otherwise. -/
theorem main_wellFormed {env : Env} {a t : PyDict} (h : WellFormed env a t) :
    main fp env = .raised (if a.get? "id" ∈ recordedIds env a t ∧
      t.get? "id" ∈ recordedIds env a t then .nameError else .zeroDivisionError) := by
  have hk := h.keys
  have hp := h.prints
  simp only [List.mem_cons, List.mem_singleton, List.not_mem_nil, or_false, forall_eq_or_imp,
    forall_eq] at hk hp
  obtain ⟨⟨hna, hia, hca⟩, ⟨hnt, hit, hct⟩⟩ := hk
  obtain ⟨na, hna⟩ := Option.isSome_iff_exists.1 hna
  obtain ⟨nt, hnt⟩ := Option.isSome_iff_exists.1 hnt
  obtain ⟨ai, ha⟩ := Option.isSome_iff_exists.1 hia
  obtain ⟨ti, ht⟩ := Option.isSome_iff_exists.1 hit
  obtain ⟨ca, hca⟩ := Option.isSome_iff_exists.1 hca
  obtain ⟨ct, hct⟩ := Option.isSome_iff_exists.1 hct
  simp only [hna, hnt, hca, hct, Option.all_some] at hp
  obtain ⟨⟨hpna, hpca⟩, ⟨hpnt, hpct⟩⟩ := hp
  set ps := (metricsData fp a t).zip (List.ofFn env.metrics)
  -- the recording loop completes, keeping a sublist of `metrics_data`
  have hrec : recordMetrics env.stdout ps = .ok (kept ps) := by
    refine recordMetrics_of (fun p hp => ?_) (fun p hp => ?_)
    · have := (List.of_mem_zip hp).1
      simp only [metricsData, List.mem_cons, List.mem_singleton, List.not_mem_nil,
        or_false] at this
      rcases this with h | h | h | h <;> simp [h, ha, ht]
    · obtain ⟨i, hi⟩ := (List.mem_ofFn _ _).1 (List.of_mem_zip hp).2
      have hline : p.1.line = a ∨ p.1.line = t := by
        have := (List.of_mem_zip hp).1
        simp only [metricsData, List.mem_cons, List.mem_singleton, List.not_mem_nil,
          or_false] at this
        rcases this with h | h | h | h <;> simp [h]
      unfold Recordable
      rcases h.metrics i with ⟨m, hm, hmp⟩ | ⟨d, hd⟩
      · rw [← hi, hm]; exact hmp
      · rw [← hi, hd]
        rcases hline with hl | hl <;> rw [hl]
        exacts [⟨na, hna, hpna⟩, ⟨nt, hnt, hpnt⟩]
  have hR : (kept ps).Sublist (metricsData fp ai ti) :=
    filterMap_ids_metricsData fp env ha ht ▸ kept_sublist ps
  have hhead : ∀ {i n c : JsonValue}, n.prints env.stdout → c.prints env.stdout →
      Line.heading env.stdout ⟨i, some n, some c⟩ = .ok () := fun hn hc =>
    Line.heading_eq_ok.2 ⟨_, _, rfl, rfl, hn, hc⟩
  unfold main
  rw [h.assembly, h.test, createLine_obj hna hpna, createLine_obj hnt hpnt]
  simp only [runDashboard, hrec, readKey, orKeyError, ha, ht, bind, Except.bind]
  rw [dashboard_recorded fp (a := ⟨ai, _, _⟩) (t := ⟨ti, _, _⟩) hR, hna, hnt, hca, hct,
    hhead hpna hpca, hhead hpnt hpct]
  simp only [bind, Except.bind, lineMetrics_kept_ne_nil, ← mem_recordedIds, ha, ht]

/-- Against an API that creates both lines and records every entry, `main` raises
    `NameError`. -/
theorem main_wellFormed_api :
    let a : PyDict := ⟨[("id", .str "L-1"), ("line_name", .str "Main Assembly Line 1"),
      ("line_code", .str "ASSY-LINE-01")], by decide⟩
    let t : PyDict := ⟨[("id", .str "L-2"), ("line_name", .str "Final Test Cell 1"),
      ("line_code", .str "TEST-LINE-01")], by decide⟩
    let env : Env := ⟨.ok (.obj a), .ok (.obj t), fun _ => .ok (.obj ⟨[], by decide⟩), .strict⟩
    WellFormed env a t ∧ main PyFloat.exact env = .raised .nameError := by
  intro a t env
  have hw : WellFormed env a t := ⟨rfl, rfl, by decide, by decide, fun _ => .inr ⟨_, rfl⟩⟩
  exact ⟨hw, (main_wellFormed PyFloat.exact hw).trans (congrArg _ (if_pos (by decide)))⟩

end DevAdminToken.Analytics
