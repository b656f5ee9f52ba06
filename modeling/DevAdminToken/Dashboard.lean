/-
  DevAdminToken formalization — what the production dashboard
  (`demos/python_client/example_3_production_analytics.py`, steps 3 to 7 and the summary)
  does on every list of recorded metrics.

  * `dashboard_eq_error`: the dashboard raises only `KeyError` (a line without
    `line_name` or `line_code`), `UnicodeEncodeError` (a line's name or code, or a downtime
    reason, that `sys.stdout` cannot write), `ZeroDivisionError`, `OverflowError` (an
    `int / int` quotient past the float range) or `NameError`.  The `max` of step 7 never
    raises: its guard `total_downtime > 0` keeps the breakdown non-empty (`analyze_guard`).
  * `dashboard_eq_nameError`: the dashboard raises `NameError` exactly when steps 3 to 6
    complete and step 7 has something to recommend.  The sort key of the printout reads
    `rec` before the loop binds it, so no recommendation is ever printed and the summary
    is printed only when there is none.
  * `dashboard_zeroDivision`: on consistent metrics, both lines' headings printed, a line
    with no recorded metric makes `calculate_oee` divide `0` by `0`.
-/
import DevAdminToken.Analytics

namespace DevAdminToken.Analytics

variable (fp : PyFloat) {out : OutErrors} {a t : Line} {ms : List (Metric JsonValue)}

/-! ## The stages -/

/-- What a completed analysis holds of the downtime: the total, the dict, and the rows
    printed from it. -/
theorem analyze_downtime {an : Analysis} (h : analyze fp out a t ms = .ok an) :
    an.totalDowntime = fp.fsum (ms.map (·.downtimeHours)) ∧
      an.breakdown = downtimeBreakdown fp ms ∧
      an.rows = (sortByHours an.breakdown).map
        fun x => (x.1, x.2, fp.percent x.2 an.totalDowntime) := by
  simp only [analyze, except_bind_eq_ok] at h
  obtain ⟨_, -, _, -, _, -, _, -, _, -, _, -, h⟩ := h
  cases h
  exact ⟨rfl, rfl, rfl⟩

/-- The guard of step 7: a positive total downtime comes from a recorded metric, so the
    breakdown `max` reads is not empty. -/
theorem analyze_guard {an : Analysis} (h : analyze fp out a t ms = .ok an)
    (h0 : 0 < an.totalDowntime) : an.breakdown ≠ [] := by
  obtain ⟨ht, hb, -⟩ := analyze_downtime fp h
  rw [hb]
  refine downtimeBreakdown_ne_nil fp fun hms => ?_
  rw [ht, hms, List.map_nil, fp.fsum_nil] at h0
  exact lt_irrefl _ h0

/-- The only exceptions of steps 3 to 6: `KeyError` and `UnicodeEncodeError` of a heading
    or the breakdown's printout, and `ZeroDivisionError` or `OverflowError` of a division. -/
theorem analyze_eq_error {e : DashExc} (h : analyze fp out a t ms = .error e) :
    e = .keyError ∨ e = .unicodeEncodeError ∨ e = .zeroDivisionError ∨ e = .overflowError := by
  simp only [analyze, except_bind_eq_error] at h
  rcases h with h | ⟨_, -, h | ⟨_, -, h | ⟨_, -, h | ⟨_, -, h | ⟨_, -, h | ⟨_, -, h⟩⟩⟩⟩⟩⟩
  · exact .inr (.inr (.inr (fp.eq_overflowError_of_percentInt h)))
  · rcases mapM_lineReport_eq_error fp h with rfl | rfl | rfl <;> simp
  · rcases calculateOee_error fp h with rfl | rfl <;> simp
  · rcases calculateOee_error fp h with rfl | rfl <;> simp
  · exact .inr (.inl (eq_unicodeEncodeError_of_printValues h))
  · exact .inr (.inr (.inr (fp.eq_overflowError_of_percentInt h)))
  · cases h

/-- On consistent metrics, both headings printed, a line with no recorded metric makes
    step 4 divide `0` by `0`. -/
theorem analyze_zeroDivision (hq : ∀ m ∈ ms, m.Consistent) (ha : a.heading out = .ok ())
    (ht : t.heading out = .ok ()) (h : lineMetrics ms a.id = [] ∨ lineMetrics ms t.id = []) :
    analyze fp out a t ms = .error .zeroDivisionError := by
  have hc := total_consistent hq
  obtain ⟨lines, hl⟩ := mapM_lineReport_consistent fp out hq a t
  simp only [analyze, fp.percentInt_unit hc.1 hc.2.1, hl, ha, ht, bind, Except.bind]
  rcases h with h | h
  · rw [h, calculateOee_nil]
  · rcases calculateOee_oeeData fp (consistent_lineMetrics hq a.id) with hz | ⟨o, ho⟩
    · rw [hz]
    · rw [ho, h, calculateOee_nil]

/-- Step 7 on an analysis whose breakdown is not empty when the total downtime is
    positive: the list of recommendations, empty exactly when no condition of step 7
    holds.  The top downtime reason is the first row of the sorted breakdown
    (`maxByHours_toOption`). -/
theorem recommendations_ok {an : Analysis} (hb : 0 < an.totalDowntime → an.breakdown ≠ []) :
    ∃ recs, recommendations fp an = .ok recs ∧
      (recs ≠ [] ↔ an.assemblyOee.oee < 85 ∨ 85 ≤ an.testOee.oee ∨
        (0 < an.totalDowntime ∧ ∃ r ∈ (sortByHours an.breakdown).head?, r.1 ≠ "None") ∨
        an.firstPassYield < 95) := by
  by_cases h0 : 0 < an.totalDowntime
  · obtain ⟨top, htop⟩ : ∃ top, maxByHours an.breakdown = .ok top := by
      cases hb' : an.breakdown with
      | nil => exact absurd hb' (hb h0)
      | cons x xs => exact ⟨_, rfl⟩
    have hhead : (sortByHours an.breakdown).head? = some top := by
      obtain ⟨pre, post, hl, hpre, hpost⟩ := maxByHours_split htop
      rw [hl, sortByHours_head hpre hpost]
    refine ⟨_, by simp only [recommendations, if_pos h0, htop]; rfl, ?_⟩
    simp only [ne_eq, List.append_eq_nil, ite_eq_right_iff, List.cons_ne_nil, imp_false,
      h0, hhead, true_and, Option.mem_def, Option.some.injEq, exists_eq_left']
    tauto
  · refine ⟨_, by simp only [recommendations, if_neg h0]; rfl, ?_⟩
    simp only [ne_eq, List.append_eq_nil, ite_eq_right_iff, List.cons_ne_nil, imp_false,
      h0, false_and, true_and]
    tauto

theorem sortRecommendations_eq_error {recs : List Recommendation} {e : DashExc} :
    sortRecommendations recs = .error e ↔ recs ≠ [] ∧ e = .nameError := by
  cases recs <;> simp [sortRecommendations, eq_comm]

/-- The summary raises only in its unguarded divisions. -/
theorem summary_eq_error {an : Analysis} {e : DashExc} (h : summary fp ms an = .error e) :
    e = .zeroDivisionError ∨ e = .overflowError := by
  simp only [summary, except_bind_eq_error] at h
  rcases h with h | ⟨_, -, h | ⟨_, -, h⟩⟩
  · exact fp.eq_error_of_intDiv h
  · exact .inl (fp.eq_zeroDivisionError_of_div h)
  · cases h

/-! ## The dashboard -/

/-- The lines as a server creates them for `main`: an id, and the name and code sent. -/
def demoAssemblyLine : Line :=
  ⟨.str "L-1", some (.str "Main Assembly Line 1"), some (.str "ASSY-LINE-01")⟩

def demoTestLine : Line := ⟨.str "L-2", some (.str "Final Test Cell 1"), some (.str "TEST-LINE-01")⟩

/-- What the recording loop keeps when the test line's two `create_metrics` calls raise
    `APIError`. -/
def assemblyRecorded : List (Metric JsonValue) :=
  (metricsData PyFloat.exact demoAssemblyLine.id demoTestLine.id).take 2

/-- The dashboard raises only `KeyError` (a line without `line_name` or `line_code`),
    `UnicodeEncodeError` (a heading or a downtime reason that `sys.stdout` cannot write),
    `ZeroDivisionError` (`calculate_oee` or the summary), `OverflowError` (an `int / int`
    quotient past the float range) or `NameError` (the printout of step 7); never the
    `ValueError` of `max()` on an empty breakdown. -/
theorem dashboard_eq_error {e : DashExc} (h : dashboard fp out a t ms = .error e) :
    e = .keyError ∨ e = .unicodeEncodeError ∨ e = .zeroDivisionError ∨ e = .overflowError ∨
      e = .nameError := by
  simp only [dashboard, except_bind_eq_error] at h
  rcases h with h | ⟨an, han, h | ⟨_, -, h | ⟨_, -, h | ⟨_, -, h⟩⟩⟩⟩
  · rcases analyze_eq_error fp h with rfl | rfl | rfl | rfl <;> simp
  · obtain ⟨recs, hr, -⟩ := recommendations_ok fp (analyze_guard fp han)
    rw [hr] at h; cases h
  · exact .inr (.inr (.inr (.inr (sortRecommendations_eq_error.1 h).2)))
  · rcases summary_eq_error fp h with rfl | rfl <;> simp
  · cases h

/-- A recorded run: the test line's `create_metrics` calls raised `APIError`. -/
theorem dashboard_eq_error_assemblyOnly :
    dashboard PyFloat.exact .strict demoAssemblyLine demoTestLine assemblyRecorded =
        .error .zeroDivisionError ∧
      (DashExc.zeroDivisionError = .keyError ∨ DashExc.zeroDivisionError = .unicodeEncodeError ∨
        DashExc.zeroDivisionError = .zeroDivisionError ∨
        DashExc.zeroDivisionError = .overflowError ∨ DashExc.zeroDivisionError = .nameError) :=
  have h : dashboard PyFloat.exact .strict demoAssemblyLine demoTestLine assemblyRecorded =
      .error .zeroDivisionError := by
    simp [dashboard, @analyze_zeroDivision PyFloat.exact .strict demoAssemblyLine demoTestLine
      assemblyRecorded (by decide) (by decide) (by decide) (by decide), bind, Except.bind]
  ⟨h, dashboard_eq_error PyFloat.exact h⟩

/-- The dashboard raises `NameError` exactly when steps 3 to 6 complete and step 7 has a
    recommendation to print: the assembly line below world-class OEE, the test line at or
    above it, a positive downtime whose first printed row is not `'None'`, or a first-pass
    yield below 95%. -/
theorem dashboard_eq_nameError :
    dashboard fp out a t ms = .error .nameError ↔ ∃ an, analyze fp out a t ms = .ok an ∧
      (an.assemblyOee.oee < 85 ∨ 85 ≤ an.testOee.oee ∨
        (0 < an.totalDowntime ∧ ∃ r ∈ an.rows.head?, r.1 ≠ "None") ∨
        an.firstPassYield < 95) := by
  cases han : analyze fp out a t ms with
  | error e =>
    simp only [dashboard, han, bind, Except.bind, Except.error.injEq, reduceCtorEq, false_and,
      exists_false, iff_false]
    rcases analyze_eq_error fp han with rfl | rfl | rfl | rfl <;> decide
  | ok an =>
    obtain ⟨recs, hr, hiff⟩ := recommendations_ok fp (analyze_guard fp han)
    have hrows : (∃ r ∈ an.rows.head?, r.1 ≠ "None") ↔
        ∃ r ∈ (sortByHours an.breakdown).head?, r.1 ≠ "None" := by
      rw [(analyze_downtime fp han).2.2, List.head?_map]
      cases (sortByHours an.breakdown).head? <;> simp
    simp only [exists_eq_left', Except.ok.injEq, hrows, ← hiff]
    simp only [dashboard, han, hr, bind, Except.bind]
    cases recs with
    | nil =>
      simp only [sortRecommendations, ne_eq, not_true_eq_false, iff_false]
      cases hs : summary fp ms an with
      | error e => rcases summary_eq_error fp hs with rfl | rfl <;> simp
      | ok s => exact fun h => nomatch h
    | cons r rs => simp [sortRecommendations]

/-- On consistent metrics, the headings of both lines printed, a line with no recorded metric
    makes step 4 divide `0` by `0`: the dashboard raises `ZeroDivisionError`. -/
theorem dashboard_zeroDivision (hq : ∀ m ∈ ms, m.Consistent) (ha : a.heading out = .ok ())
    (ht : t.heading out = .ok ()) (h : lineMetrics ms a.id = [] ∨ lineMetrics ms t.id = []) :
    dashboard fp out a t ms = .error .zeroDivisionError := by
  simp [dashboard, analyze_zeroDivision fp hq ha ht h, bind, Except.bind]

theorem dashboard_zeroDivision_assemblyOnly :
    (∀ m ∈ assemblyRecorded, m.Consistent) ∧ demoAssemblyLine.heading .strict = .ok () ∧
      demoTestLine.heading .strict = .ok () ∧
      (lineMetrics assemblyRecorded demoAssemblyLine.id = [] ∨
        lineMetrics assemblyRecorded demoTestLine.id = []) ∧
      dashboard PyFloat.exact .strict demoAssemblyLine demoTestLine assemblyRecorded =
        .error .zeroDivisionError :=
  ⟨by decide, by decide, by decide, by decide,
    dashboard_zeroDivision PyFloat.exact (by decide) (by decide) (by decide) (by decide)⟩

/-- Once steps 3 to 6 complete, any recommendation ends the dashboard with `NameError`. -/
theorem dashboard_nameError_of {an : Analysis} {recs : List Recommendation}
    (han : analyze fp out a t ms = .ok an) (hr : recommendations fp an = .ok recs) (hne : recs ≠ []) :
    dashboard fp out a t ms = .error .nameError := by
  obtain ⟨r, rs, rfl⟩ := List.exists_cons_of_ne_nil hne
  simp [dashboard, han, hr, sortRecommendations, bind, Except.bind]

end DevAdminToken.Analytics
