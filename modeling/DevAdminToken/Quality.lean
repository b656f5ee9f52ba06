/-
  DevAdminToken formalization — `main` of `demos/python_client/example_2_quality_management.py`,
  the quality workflow: record the failed test, open an NCR, update it twice, record the
  retest, close the NCR, print a summary.

  `main` is six `try` blocks, one per call, each catching only `APIError`, printing it and
  returning from `main` (`tryStep`); as in `Build`, the API is the replies it gives, one per
  call.  What a block does with its reply, the keys it reads and the values it prints, is its
  `block`.  Over it, `stopsAt` runs the list of calls (`Env.calls`) and stops at the first one
  refused.

  * `main_eq_stopsAt`: `main` is that run, followed by the summary.
  * `main_returns_at_iff`: `main` returns at step `k` exactly when the call of step `k` is the
    first one it does not get past, and the API refused it with an `APIError` that prints.
  * `main_prints_summary_iff`: `main` prints its summary exactly when it gets past every call
    and step 4's reply has an `ncr_number` that prints; that number is read from the reply of
    step 4 (each `ncrs.update` rebinds `ncr`), not from the NCR that `ncrs.create` returned.
-/
import DevAdminToken.Build

namespace DevAdminToken.Quality

open Build (Json Exc Reply getItem printJson printJson_eq_ok)

/-! ## `example_2_quality_management.py` -/

/-- The API as `main` meets it: the reply to each of its six calls, in order, and the error
    handler of the `sys.stdout` it prints to. -/
structure Env where
  /-- step 1, `test_results.create` of the failed test -/
  failedTest : Reply
  /-- step 2, `ncrs.create` -/
  created : Reply
  /-- step 3, `ncrs.update` to `investigating` -/
  investigating : Reply
  /-- step 4, `ncrs.update` to `action_required` -/
  actionRequired : Reply
  /-- step 6, `test_results.create` of the retest -/
  retest : Reply
  /-- step 7, `ncrs.close` -/
  closed : Reply
  stdout : OutErrors

/-- How `main` ends, short of an exception: the `return` after the `APIError` of a step, or
    the summary with the NCR number it prints. -/
inductive Outcome
  | returned (step : Nat)
  | summary (ncrNumber : Json)

/-- A `try` block of `main` around one call, `except APIError` only: a refused call prints the
    error and returns from `main`; otherwise the block does with the reply what `block` does,
    and `main` goes on with the reply. -/
def tryStep (out : OutErrors) (step : Nat) (reply : Reply) (block : Json → Except Exc Unit)
    (next : Json → Except Exc Outcome) : Except Exc Outcome :=
  match reply with
  | .apiError message => do printJson out [message]; pure (.returned step)
  | .requestError => .error .requestError
  | .ok v => block v >>= fun _ => next v

/-- The block of steps 1 and 7: `print(f"...{v[k]}")` for each key in order. -/
def printKeys (out : OutErrors) (keys : List PyStr) (v : Json) : Except Exc Unit :=
  keys.forM fun k => do printJson out [← getItem v k]

theorem printKeys_eq_ok {out : OutErrors} {v : Json} {u : Unit} : ∀ {keys : List PyStr},
    printKeys out keys v = .ok u ↔ ∀ k ∈ keys, ∃ x, getItem v k = .ok x ∧ x.prints out
  | [] => by simp only [printKeys, List.forM, List.not_mem_nil, IsEmpty.forall_iff, implies_true,
      iff_true]; rfl
  | k :: keys => by
    rw [List.forall_mem_cons, ← @printKeys_eq_ok out v u keys]
    simp only [printKeys, List.forM, except_bind_eq_ok, printJson_eq_ok, List.mem_singleton,
      forall_eq]
    exact ⟨fun ⟨_, hx, h⟩ => ⟨hx, h⟩, fun ⟨hx, h⟩ => ⟨(), hx, h⟩⟩

/-- The block of step 2: `ncr_id = ncr["id"]` first, then `ncr_number` printed, the id
    printed, then `severity` and `status`. -/
def createdBlock (out : OutErrors) (ncr : Json) : Except Exc Unit := do
  let ncrId ← getItem ncr "id"
  printJson out [← getItem ncr "ncr_number"]
  printJson out [ncrId]
  printJson out [← getItem ncr "severity"]
  printJson out [← getItem ncr "status"]

/-- The block of steps 3, 4 and 6, which print only the script's own text. -/
def quietBlock (_ : Json) : Except Exc Unit := .ok ()

/-- The summary: `ncr['ncr_number']` printed, `ncr` being step 4's reply. -/
def summaryOf (out : OutErrors) (ncr : Json) : Except Exc Outcome := do
  let n ← getItem ncr "ncr_number"
  printJson out [n]
  pure (.summary n)

/-- `main()` of `example_2_quality_management.py`: steps 3 and 4 rebind `ncr` to the updated
    NCR, and step 5 (the rework) makes no call. -/
def main (env : Env) : Except Exc Outcome :=
  tryStep env.stdout 1 env.failedTest (printKeys env.stdout ["id"]) fun _ =>
  tryStep env.stdout 2 env.created (createdBlock env.stdout) fun _ =>
  tryStep env.stdout 3 env.investigating quietBlock fun _ =>
  tryStep env.stdout 4 env.actionRequired quietBlock fun ncr =>
  tryStep env.stdout 6 env.retest quietBlock fun _ =>
  tryStep env.stdout 7 env.closed (printKeys env.stdout ["ncr_number", "status", "disposition"])
    fun _ => summaryOf env.stdout ncr

/-- Step 2 gets past its reply exactly when printing its four keys in turn would: reading
    `id` before `ncr_number` changes only which exception a bad reply raises. -/
theorem createdBlock_eq_ok {out : OutErrors} {ncr : Json} {u : Unit} :
    createdBlock out ncr = .ok u ↔
      printKeys out ["id", "ncr_number", "severity", "status"] ncr = .ok () := by
  simp only [createdBlock, except_bind_eq_ok, printJson_eq_ok, List.mem_singleton, forall_eq,
    exists_const, printKeys_eq_ok, List.mem_cons, forall_eq_or_imp, List.not_mem_nil,
    IsEmpty.forall_iff, implies_true, and_true]
  constructor
  · rintro ⟨i, hi, n, hn, hpn, hpi, s, hs, hps, t, ht, hpt⟩
    exact ⟨⟨i, hi, hpi⟩, ⟨n, hn, hpn⟩, ⟨s, hs, hps⟩, t, ht, hpt⟩
  · rintro ⟨⟨i, hi, hpi⟩, ⟨n, hn, hpn⟩, ⟨s, hs, hps⟩, t, ht, hpt⟩
    exact ⟨i, hi, n, hn, hpn, hpi, s, hs, hps, t, ht, hpt⟩

/-! ## The run of the calls -/

/-- A call of `main`: the step that makes it, its reply, and its block. -/
abbrev Call := Nat × Reply × (Json → Except Exc Unit)

/-- The calls of `main`, in order. -/
def Env.calls (env : Env) : List Call :=
  [(1, env.failedTest, printKeys env.stdout ["id"]), (2, env.created, createdBlock env.stdout),
   (3, env.investigating, quietBlock), (4, env.actionRequired, quietBlock),
   (6, env.retest, quietBlock),
   (7, env.closed, printKeys env.stdout ["ncr_number", "status", "disposition"])]

/-- Whether `main` gets past a call: the API accepted it, and its block raised nothing. -/
def accepted : Call → Bool
  | (_, .ok v, block) => (block v).toBool
  | _ => false

/-- A run of calls that stops at the first one refused, printing the `APIError`: `some` its
    step, or `none` past the last; a call that raises, or a block that raises, raises. -/
def stopsAt (out : OutErrors) : List Call → Except Exc (Option Nat)
  | [] => .ok none
  | (step, .apiError message, _) :: _ => do printJson out [message]; pure (some step)
  | (_, .requestError, _) :: _ => .error .requestError
  | (_, .ok v, block) :: calls => block v >>= fun _ => stopsAt out calls

@[simp] theorem accepted_ok {step : Nat} {v : Json} {block : Json → Except Exc Unit} :
    accepted (step, .ok v, block) = true ↔ block v = .ok () := by
  cases h : block v <;> simp [accepted, Except.toBool, h]

section
variable {out : OutErrors}

/-- The run gets past every call exactly when `main` gets past each of them. -/
theorem stopsAt_eq_none : ∀ {calls : List Call},
    stopsAt out calls = .ok none ↔ ∀ c ∈ calls, accepted c
  | [] => iff_of_true rfl fun c h => absurd h (List.not_mem_nil c)
  | (step, reply, block) :: calls => by
    cases reply with
    | ok v =>
      rw [stopsAt, except_bind_eq_ok, List.forall_mem_cons, accepted_ok, ← stopsAt_eq_none]
      exact ⟨fun ⟨_, hr, hs⟩ => ⟨hr, hs⟩, fun ⟨hr, hs⟩ => ⟨(), hr, hs⟩⟩
    | apiError m =>
      refine ⟨fun h => ?_, fun h => (Bool.false_ne_true (h _ (List.mem_cons_self _ _))).elim⟩
      obtain ⟨_, -, h⟩ := except_bind_eq_ok.1 h
      cases h
    | requestError =>
      exact ⟨fun h => (nomatch h), fun h => (Bool.false_ne_true (h _ (List.mem_cons_self _ _))).elim⟩

/-- The run stops at step `k` exactly when the first call `main` does not get past is the
    call of step `k`, and the API refused it with an `APIError` that prints. -/
theorem stopsAt_eq_some {k : Nat} : ∀ {calls : List Call},
    stopsAt out calls = .ok (some k) ↔
      ∃ pre m block post, calls = pre ++ (k, .apiError m, block) :: post ∧
        (∀ c ∈ pre, accepted c) ∧ m.prints out
  | [] => ⟨fun h => (nomatch h), fun ⟨pre, _, _, _, h, _⟩ =>
      (List.append_ne_nil_of_right_ne_nil pre (List.cons_ne_nil _ _) h.symm).elim⟩
  | (step, reply, block) :: calls => by
    cases reply with
    | apiError m =>
      rw [stopsAt, except_bind_eq_ok]
      refine ⟨fun ⟨_, hp, h⟩ => ?_, ?_⟩
      · cases h
        exact ⟨[], m, block, calls, rfl, by simp, printJson_eq_ok.1 hp m (List.mem_singleton_self m)⟩
      · rintro ⟨_ | ⟨c, pre⟩, m', block', post, h, hpre, hp⟩
        · cases h
          exact ⟨(), printJson_eq_ok.2 fun w hw => List.mem_singleton.1 hw ▸ hp, rfl⟩
        · cases h; exact (Bool.false_ne_true (hpre _ (List.mem_cons_self _ _))).elim
    | requestError =>
      refine ⟨fun h => (nomatch h), ?_⟩
      rintro ⟨_ | ⟨c, pre⟩, m', block', post, h, hpre, -⟩
      · cases h
      · cases h; exact (Bool.false_ne_true (hpre _ (List.mem_cons_self _ _))).elim
    | ok v =>
      rw [stopsAt, except_bind_eq_ok]
      constructor
      · rintro ⟨⟨⟩, hr, hs⟩
        obtain ⟨pre, m, block', post, rfl, hpre, hp⟩ := stopsAt_eq_some.1 hs
        exact ⟨(step, .ok v, block) :: pre, m, block', post, rfl,
          List.forall_mem_cons.2 ⟨accepted_ok.2 hr, hpre⟩, hp⟩
      · rintro ⟨_ | ⟨c, pre⟩, m, block', post, h, hpre, hp⟩
        · cases h
        · obtain ⟨rfl, hcalls⟩ := List.cons_eq_cons.1 h
          obtain ⟨hc, hpre⟩ := List.forall_mem_cons.1 hpre
          exact ⟨(), accepted_ok.1 hc, stopsAt_eq_some.2 ⟨pre, m, block', post, hcalls, hpre, hp⟩⟩

end

/-! ## `main` is the run of its calls -/

/-- How `main` ends once the run of its calls stopped: the `return` of the step refused, or
    `finish` past the last call. -/
def conclude (finish : Except Exc Outcome) : Option Nat → Except Exc Outcome
  | some step => .ok (.returned step)
  | none => finish

theorem tryStep_congr {out : OutErrors} {step : Nat} {reply : Reply}
    {block : Json → Except Exc Unit} {next next' : Json → Except Exc Outcome}
    (h : ∀ v, reply = .ok v → next v = next' v) :
    tryStep out step reply block next = tryStep out step reply block next' := by
  cases reply with
  | ok v => simp only [tryStep, h v rfl]
  | _ => rfl

theorem stopsAt_cons_bind (out : OutErrors) (finish : Except Exc Outcome) (step : Nat)
    (reply : Reply) (block : Json → Except Exc Unit) (calls : List Call) :
    (stopsAt out ((step, reply, block) :: calls) >>= conclude finish) =
      tryStep out step reply block fun _ => stopsAt out calls >>= conclude finish := by
  cases reply with
  | ok v => exact bind_assoc _ _ _
  | apiError m => exact bind_assoc _ _ _
  | requestError => rfl

/-- **`main` is the run of its calls**: it stops where the run of `Env.calls` stops, and past
    the last call prints the summary from the reply of step 4. -/
theorem main_eq_stopsAt (env : Env) :
    main env = stopsAt env.stdout env.calls >>= conclude
      (tryStep env.stdout 4 env.actionRequired quietBlock (summaryOf env.stdout)) := by
  simp only [Env.calls, stopsAt_cons_bind]
  refine tryStep_congr fun _ _ => tryStep_congr fun _ _ => tryStep_congr fun _ _ =>
    tryStep_congr fun ncr h => ?_
  rw [h]
  rfl

/-- Past every call, step 4's reply is an NCR. -/
theorem actionRequired_ok {env : Env} (h : stopsAt env.stdout env.calls = .ok none) :
    ∃ ncr, env.actionRequired = .ok ncr := by
  have h4 := stopsAt_eq_none.1 h (4, env.actionRequired, quietBlock) (by simp [Env.calls])
  cases hr : env.actionRequired with
  | ok ncr => exact ⟨ncr, rfl⟩
  | _ => simp [hr, accepted] at h4

theorem summaryOf_eq_ok {out : OutErrors} {ncr n : Json} :
    summaryOf out ncr = .ok (.summary n) ↔ getItem ncr "ncr_number" = .ok n ∧ n.prints out := by
  simp only [summaryOf, except_bind_eq_ok, printJson_eq_ok, List.mem_singleton, forall_eq]
  constructor
  · rintro ⟨n', hn, -, hp, h⟩
    cases h
    exact ⟨hn, hp⟩
  · rintro ⟨hn, hp⟩
    exact ⟨n, hn, (), hp, rfl⟩

theorem summaryOf_ne_returned {out : OutErrors} {ncr : Json} {k : Nat} :
    summaryOf out ncr ≠ .ok (.returned k) := by
  intro h
  simp only [summaryOf, except_bind_eq_ok] at h
  obtain ⟨_, -, _, -, h⟩ := h
  cases h

/-- How `main` ends, short of an exception: the `return` of the step where the run of its
    calls stopped, or, past every call, the summary of step 4's reply. -/
theorem main_eq_ok {env : Env} {o : Outcome} :
    main env = .ok o ↔ (∃ k, stopsAt env.stdout env.calls = .ok (some k) ∧ o = .returned k) ∨
      (stopsAt env.stdout env.calls = .ok none ∧
        ∃ ncr, env.actionRequired = .ok ncr ∧ summaryOf env.stdout ncr = .ok o) := by
  rw [main_eq_stopsAt]
  cases h : stopsAt env.stdout env.calls with
  | error e => simp [bind, Except.bind]
  | ok stop =>
    cases stop with
    | some j => simp [bind, Except.bind, conclude, eq_comm]
    | none =>
      obtain ⟨ncr, hncr⟩ := actionRequired_ok h
      simp [bind, Except.bind, conclude, tryStep, hncr, quietBlock]

/-- **`main` returns at the first refused call**: it returns at step `k` exactly when the
    first call it does not get past is the call of step `k`, and the API refused it with an
    `APIError` that prints; every call before it was accepted, its block raising nothing. -/
theorem main_returns_at_iff (env : Env) (k : Nat) :
    main env = .ok (.returned k) ↔
      ∃ pre m block post, env.calls = pre ++ (k, .apiError m, block) :: post ∧
        (∀ c ∈ pre, accepted c) ∧ m.prints env.stdout := by
  rw [main_eq_ok, ← stopsAt_eq_some]
  constructor
  · rintro (⟨j, hj, h⟩ | ⟨-, ncr, -, h⟩)
    · cases h; exact hj
    · exact absurd h summaryOf_ne_returned
  · exact fun h => .inl ⟨k, h, rfl⟩

/-- **`main` prints the NCR number of step 4**: it prints its summary exactly when it gets
    past every call and the reply to the second `ncrs.update` has an `ncr_number` that
    prints; the NCR number printed is that one, whatever `ncrs.create` returned. -/
theorem main_prints_summary_iff (env : Env) (n : Json) :
    main env = .ok (.summary n) ↔ (∀ c ∈ env.calls, accepted c) ∧
      ∃ ncr, env.actionRequired = .ok ncr ∧ getItem ncr "ncr_number" = .ok n ∧
        n.prints env.stdout := by
  rw [main_eq_ok, ← stopsAt_eq_none]
  simp only [summaryOf_eq_ok]
  constructor
  · rintro (⟨j, -, h⟩ | h)
    · cases h
    · exact h
  · exact .inr

/-- An NCR that the API renumbers when it is updated: the summary prints the new number. -/
example :
    main ⟨.ok (.obj [("id", .str "t-1")]),
      .ok (.obj [("id", .str "n-1"), ("ncr_number", .str "NCR-202412-A1B2C"),
        ("severity", .str "major"), ("status", .str "open")]),
      .ok (.obj []), .ok (.obj [("ncr_number", .str "NCR-202412-00042")]), .ok (.obj []),
      .ok (.obj [("ncr_number", .str "NCR-202412-00042"), ("status", .str "closed"),
        ("disposition", .str "rework")]), .strict⟩ =
      .ok (.summary (.str "NCR-202412-00042")) := rfl

end DevAdminToken.Quality
