/-
  DevAdminToken formalization — `main` of `demos/python_client/example_1_build_robot.py`, the
  robot build: create the robot, create and install five components, record five tests,
  mark the robot ready, read its genealogy, print a summary.

  The API is the replies it gives (`Env`), one per call, in the order `main` makes them; a
  reply is a decoded body, an `APIError` or an exception of `requests`.  `main` catches only
  `APIError`, printing it: at step 1 it returns, in the two loops it skips the component or
  the test, at steps 4 and 5 it goes on.  A missing key or a value of the wrong kind raises,
  and so does the `print` of a value of a reply, or of an `APIError`, holding a surrogate
  that `sys.stdout` cannot write (`printJson`).

  * `installLoop` and `testLoop` are the loops, as `foldlM` over a step;
    `installLoop_eq_ok` and `testLoop_eq_ok`, both cases of `foldlM_keep_eq_ok`, say exactly
    when they return and what they keep.
  * `main_summary`: the summary counts the components whose create and install both returned
    and the test records the API accepted (every test is recorded as passed), out of 5, and
    always says `READY FOR SHIPMENT`; `main_completes` gives the summary when nothing raises.
-/
import DevAdminToken.Query

namespace DevAdminToken.Build

open Query (except_ok_bind)

/-! ## Values and calls -/

/-- A JSON value as `response.json()` decodes it; an object's items are the decoded `dict`'s,
    one per key.  A number keeps its exact value. -/
inductive Json
  | null
  | bool (b : Bool)
  | num (x : ℚ)
  | str (s : PyStr)
  | arr (xs : List Json)
  | obj (items : List (PyStr × Json))

/-- The exceptions `main` does not catch. -/
inductive Exc
  /-- `KeyError`: an object without the key read -/
  | keyError
  /-- `TypeError`: a key read from, or `len()` or a loop over, a value that has none -/
  | typeError
  /-- `print` of a text holding a surrogate that `sys.stdout` cannot write -/
  | unicodeEncodeError
  /-- an exception of `requests` (no connection, a timeout) or of `response.json()` -/
  | requestError
  deriving DecidableEq

/-- What a call of the client gives back: the decoded body (`{}` for an empty one), the
    `APIError` of an HTTP error status, whose text `f"API Error {status_code}: {message}"`
    ends with the response's `message` or the HTTP error's own text, or an exception of
    `requests`. -/
inductive Reply
  | ok (v : Json)
  | apiError (message : Json)
  | requestError

/-- Whether `print` writes the `str()` of a value of a reply: a `str` as it is; a list or an
    object is written by `repr`, which escapes a surrogate. -/
def Json.prints (out : OutErrors) : Json → Bool
  | .str s => out.prints s
  | _ => true

/-- `print` of an f-string formatting the values `vs` of replies among the script's own text
    (which `sys.stdout`, encoding UTF-8, always writes). -/
def printJson (out : OutErrors) (vs : List Json) : Except Exc Unit :=
  if vs.all (·.prints out) then .ok () else .error .unicodeEncodeError

theorem printJson_eq_ok {out : OutErrors} {vs : List Json} {u : Unit} :
    printJson out vs = .ok u ↔ ∀ v ∈ vs, v.prints out := by
  unfold printJson
  split_ifs with h
  · exact iff_of_true rfl (List.all_eq_true.1 h)
  · exact iff_of_false (nomatch ·) (mt List.all_eq_true.2 h)

/-- `v[k]` for a string key. -/
def getItem : Json → PyStr → Except Exc Json
  | .obj items, k =>
    match items.lookup k with
    | some v => .ok v
    | none => .error .keyError
  | _, _ => .error .typeError

/-- `len(v)` -/
def pyLen : Json → Except Exc Nat
  | .arr xs => .ok xs.length
  | .str s => .ok s.length
  | .obj items => .ok items.length
  | _ => .error .typeError

/-- The values `for x in v` goes through: a list's items, a string's characters, an object's
    keys. -/
def iterValues : Json → Except Exc (List Json)
  | .arr xs => .ok xs
  | .str s => .ok (s.map fun c => .str [c])
  | .obj items => .ok (items.map fun p => .str p.1)
  | _ => .error .typeError

/-! ## `example_1_build_robot.py` -/

/-- An entry of `components_to_install`. -/
structure ComponentData where
  serialNumber : PyStr
  type : PyStr
  sku : PyStr
  position : PyStr

/-- `components_to_install` -/
def componentsToInstall : List ComponentData :=
  [⟨"MOTOR-2024-10001", "servo_motor", "MTR-6000-J1", "joint_1"⟩,
   ⟨"MOTOR-2024-10002", "servo_motor", "MTR-6000-J2", "joint_2"⟩,
   ⟨"MOTOR-2024-10003", "servo_motor", "MTR-6000-J3", "joint_3"⟩,
   ⟨"CTRL-2024-50001", "controller", "CTRL-6000", "main_controller"⟩,
   ⟨"ENC-2024-20001", "encoder", "ENC-6000-J1", "joint_1_encoder"⟩]

/-- `test_protocols` -/
def testProtocols : List (PyStr × PyStr) :=
  [("tp-001", "Joint Torque Test"), ("tp-002", "Positioning Accuracy Test"),
   ("tp-003", "Safety Systems Test"), ("tp-004", "Controller Communication Test"),
   ("tp-005", "Software Integration Test")]

/-- The API as `main` meets it: the reply to each call, in the order `main` makes them.  For
    each component, `components.create` and then `components.install` (made only when the
    first returned an object with an `id`); for each protocol, `test_results.create`.  And
    the error handler of the `sys.stdout` `main` prints to. -/
structure Env where
  robot : Reply
  components : List (Reply × Reply)
  components_length : components.length = componentsToInstall.length
  tests : List Reply
  tests_length : tests.length = testProtocols.length
  update : Reply
  genealogy : Reply
  stdout : OutErrors

/-- One pass of the loop of step 2: create the component, read its `id`, install it; an
    `APIError` of either call is printed and skips the component. -/
def installStep (out : OutErrors) (installed : List ComponentData) :
    ComponentData × Reply × Reply → Except Exc (List ComponentData)
  | (data, create, install) =>
    match create with
    | .apiError message => do printJson out [message]; pure installed
    | .requestError => .error .requestError
    | .ok component => do
      let _ ← getItem component "id"
      match install with
      | .apiError message => do printJson out [message]; pure installed
      | .requestError => .error .requestError
      | .ok _ => .ok (installed ++ [data])

/-- The loop of step 2: `installed_components`. -/
def installLoop (out : OutErrors) (steps : List (ComponentData × Reply × Reply)) :
    Except Exc (List ComponentData) :=
  steps.foldlM (installStep out) []

/-- One pass of the loop of step 3: an `APIError` is printed and skips the protocol. -/
def testStep (out : OutErrors) (results : List Json) :
    (PyStr × PyStr) × Reply → Except Exc (List Json)
  | (_, .ok result) => .ok (results ++ [result])
  | (_, .apiError message) => do printJson out [message]; pure results
  | (_, .requestError) => .error .requestError

/-- The loop of step 3: `test_results`. -/
def testLoop (out : OutErrors) (steps : List ((PyStr × PyStr) × Reply)) :
    Except Exc (List Json) :=
  steps.foldlM (testStep out) []

/-- Step 4: `robots.update(...)` and the `updated_robot['status']` it prints. -/
def updateStep (out : OutErrors) : Reply → Except Exc Unit
  | .ok updated => do printJson out [← getItem updated "status"]
  | .apiError message => printJson out [message]
  | .requestError => .error .requestError

/-- What step 5 prints of the genealogy: three keys, `len()` of its `components`, and three
    keys of each of them, one line per component. -/
def readGenealogy (out : OutErrors) (genealogy : Json) : Except Exc Unit := do
  printJson out [← getItem genealogy "robot_serial_number"]
  printJson out [← getItem genealogy "robot_model"]
  printJson out [← getItem genealogy "robot_status"]
  let _ ← getItem genealogy "components" >>= pyLen
  let comps ← getItem genealogy "components" >>= iterValues
  comps.forM fun comp => do
    printJson out [← getItem comp "component_serial_number", ← getItem comp "component_type",
      ← getItem comp "position"]

/-- Step 5: `robots.get_genealogy(robot_id)` and what it prints. -/
def genealogyStep (out : OutErrors) : Reply → Except Exc Unit
  | .ok genealogy => readGenealogy out genealogy
  | .apiError message => printJson out [message]
  | .requestError => .error .requestError

/-- The summary `main` prints at the end. -/
structure Summary where
  robotSerial : Json
  robotId : Json
  componentsInstalled : Nat
  testsPassed : Nat
  testsRun : Nat
  status : PyStr

/-- How `main` ends, short of an exception: the `return` after the `APIError` of step 1, or
    the summary. -/
inductive Outcome
  | returned
  | summary (s : Summary)

/-- `main()` of `example_1_build_robot.py`; the summary prints again the serial number and
    the id step 1 printed. -/
def main (env : Env) : Except Exc Outcome :=
  match env.robot with
  | .apiError message => do printJson env.stdout [message]; pure .returned
  | .requestError => .error .requestError
  | .ok robot => do
    let robotId ← getItem robot "id"
    let serial ← getItem robot "serial_number"
    printJson env.stdout [serial]
    printJson env.stdout [robotId]
    printJson env.stdout [← getItem robot "status"]
    let installed ← installLoop env.stdout (componentsToInstall.zip env.components)
    let results ← testLoop env.stdout (testProtocols.zip env.tests)
    updateStep env.stdout env.update
    genealogyStep env.stdout env.genealogy
    pure (.summary ⟨serial, robotId, installed.length, results.length, testProtocols.length,
      "READY FOR SHIPMENT"⟩)

/-! ## The loops -/

/-- A loop whose pass returns exactly when `safe` holds of it, and then appends what `keep`
    gives, returns exactly when every pass does, and then has appended what each pass keeps,
    in order. -/
theorem foldlM_keep_eq_ok {α γ ε : Type} {step : List γ → α → Except ε (List γ)}
    {safe : α → Prop} {keep : α → Option γ}
    (hstep : ∀ acc s acc', step acc s = .ok acc' ↔ safe s ∧ acc' = acc ++ (keep s).toList) :
    ∀ {steps : List α} {acc l : List γ},
      steps.foldlM step acc = .ok l ↔ (∀ s ∈ steps, safe s) ∧ l = acc ++ steps.filterMap keep
  | [], acc, l => by
    simp only [List.foldlM_nil, List.not_mem_nil, false_implies, implies_true, true_and,
      List.filterMap_nil, List.append_nil]
    exact ⟨fun h => (Except.ok.inj h).symm, fun h => h ▸ rfl⟩
  | s :: steps, acc, l => by
    have hkeep : acc ++ (keep s).toList ++ steps.filterMap keep =
        acc ++ (s :: steps).filterMap keep := by
      cases h : keep s <;> simp [List.filterMap_cons, h]
    rw [List.foldlM_cons, except_bind_eq_ok, List.forall_mem_cons, ← hkeep]
    constructor
    · rintro ⟨a, ha, hl⟩
      obtain ⟨hs, rfl⟩ := (hstep _ _ _).1 ha
      obtain ⟨hss, rfl⟩ := (foldlM_keep_eq_ok hstep).1 hl
      exact ⟨⟨hs, hss⟩, rfl⟩
    · rintro ⟨⟨hs, hss⟩, rfl⟩
      exact ⟨_, (hstep _ _ _).2 ⟨hs, rfl⟩, (foldlM_keep_eq_ok hstep).2 ⟨hss, rfl⟩⟩

/-- Whether a pass of the loop of step 2 returns: `components.create` is refused with an
    `APIError` that prints, or it returns an object with an `id` and `components.install`
    returns or is refused with an `APIError` that prints. -/
def installSafe (out : OutErrors) : Reply × Reply → Bool
  | (.apiError message, _) => message.prints out
  | (.requestError, _) => false
  | (.ok _, .requestError) => false
  | (.ok component, .apiError message) => (getItem component "id").toBool && message.prints out
  | (.ok component, .ok _) => (getItem component "id").toBool

/-- Whether a pass of the loop of step 2 installs its component. -/
def installs : Reply × Reply → Bool
  | (.ok component, .ok _) => (getItem component "id").toBool
  | _ => false

theorem installStep_eq_ok {out : OutErrors} {installed acc : List ComponentData}
    {s : ComponentData × Reply × Reply} :
    installStep out installed s = .ok acc ↔
      installSafe out s.2 ∧ acc = installed ++ (if installs s.2 then some s.1 else none).toList := by
  obtain ⟨data, create, install⟩ := s
  cases create with
  | apiError m =>
    simp [installStep, installSafe, installs, printJson_eq_ok, pure, Except.pure, @eq_comm _ acc]
  | requestError => simp [installStep, installSafe]
  | ok component =>
    cases h : getItem component "id" <;> cases install <;>
      simp [installStep, installSafe, installs, h, printJson_eq_ok, Except.toBool,
        pure, Except.pure, @eq_comm _ acc]

/-- Whether a pass of the loop of step 3 returns: the call returned, or was refused with an
    `APIError` that prints. -/
def testSafe (out : OutErrors) : Reply → Bool
  | .ok _ => true
  | .apiError message => message.prints out
  | .requestError => false

/-- The result a pass of the loop of step 3 keeps. -/
def passed : Reply → Option Json
  | .ok result => some result
  | _ => none

theorem testStep_eq_ok {out : OutErrors} {results acc : List Json} {s : (PyStr × PyStr) × Reply} :
    testStep out results s = .ok acc ↔ testSafe out s.2 ∧ acc = results ++ (passed s.2).toList := by
  obtain ⟨protocol, r⟩ := s
  cases r <;> simp [testStep, testSafe, passed, printJson_eq_ok, pure, Except.pure, @eq_comm _ acc]

/-! ## `main` -/

/-- The loop of step 2 returns exactly when every pass does, and then it has installed the
    components whose pass installs them, in order. -/
theorem installLoop_eq_ok {out : OutErrors} {steps : List (ComponentData × Reply × Reply)}
    {l : List ComponentData} :
    installLoop out steps = .ok l ↔ (∀ s ∈ steps, installSafe out s.2) ∧
      l = steps.filterMap fun s => if installs s.2 then some s.1 else none :=
  (foldlM_keep_eq_ok fun _ s _ => @installStep_eq_ok out _ _ s).trans (by rw [List.nil_append])

/-- The loop of step 3 returns exactly when every pass does, and then it has kept every
    result that was not refused, in order. -/
theorem testLoop_eq_ok {out : OutErrors} {steps : List ((PyStr × PyStr) × Reply)}
    {l : List Json} :
    testLoop out steps = .ok l ↔ (∀ s ∈ steps, testSafe out s.2) ∧
      l = steps.filterMap (passed ·.2) :=
  (foldlM_keep_eq_ok fun _ s _ => @testStep_eq_ok out _ _ s).trans (by rw [List.nil_append])

theorem countP_zip_snd {α β : Type} (p : β → Bool) (l₁ : List α) {l₂ : List β}
    (h : l₂.length ≤ l₁.length) : (l₁.zip l₂).countP (fun x => p x.2) = l₂.countP p := by
  conv_rhs => rw [← List.map_snd_zip l₁ l₂ h]
  rw [List.countP_map]
  rfl

theorem installed_length (env : Env) :
    ((componentsToInstall.zip env.components).filterMap
      fun s => if installs s.2 then some s.1 else none).length =
      env.components.countP installs := by
  rw [List.length_filterMap_eq_countP, ← countP_zip_snd _ _ env.components_length.le]
  congr
  funext s
  cases installs s.2 <;> rfl

theorem passed_length (env : Env) :
    ((testProtocols.zip env.tests).filterMap (passed ·.2)).length =
      env.tests.countP (fun r => (passed r).isSome) := by
  rw [List.length_filterMap_eq_countP, countP_zip_snd (fun r => (passed r).isSome) _
    env.tests_length.le]

/-- **The summary's counts, and its status**: whenever `main` prints its summary, the
    components it reports installed are those whose `components.create` returned an object with
    an `id` and whose `components.install` returned; the tests it reports passed are the
    `test_results.create` calls that were not refused, out of 5; and the status is
    `READY FOR SHIPMENT`, whatever the tests and the status update gave. -/
theorem main_summary {env : Env} {s : Summary} (h : main env = .ok (.summary s)) :
    s.componentsInstalled = env.components.countP installs ∧
      s.testsPassed = env.tests.countP (fun r => (passed r).isSome) ∧
      s.testsRun = 5 ∧ s.status = "READY FOR SHIPMENT" := by
  unfold main at h
  split at h
  · obtain ⟨_, -, h⟩ := except_bind_eq_ok.1 h
    cases h
  · cases h
  · simp only [except_bind_eq_ok] at h
    obtain ⟨robotId, -, serial, -, -, -, -, -, -, -, -, -, installed, hi, results, ht, -, -, -, -,
      hs⟩ := h
    obtain ⟨-, rfl⟩ := installLoop_eq_ok.1 hi
    obtain ⟨-, rfl⟩ := testLoop_eq_ok.1 ht
    cases hs
    exact ⟨installed_length env, passed_length env, rfl, rfl⟩

/-- An API that creates the robot and every component and installs them, but refuses every
    test, the status update and the genealogy. -/
def untestedRun : Env where
  robot := .ok (.obj [("id", .str "r-1"), ("serial_number", .str "IR6000-202412-00100"),
    ("status", .str "in_production")])
  components := List.replicate 5 (.ok (.obj [("id", .str "c-1")]), .ok (.obj []))
  components_length := rfl
  tests := List.replicate 5 (.apiError (.str "Test protocol not found"))
  tests_length := rfl
  update := .apiError (.str "Robot is locked")
  genealogy := .apiError (.str "Not found")
  stdout := .strict

theorem main_summary_untested :
    main untestedRun =
        .ok (.summary ⟨.str "IR6000-202412-00100", .str "r-1", 5, 0, 5, "READY FOR SHIPMENT"⟩) ∧
      5 = untestedRun.components.countP installs ∧
      0 = untestedRun.tests.countP (fun r => (passed r).isSome) ∧ 5 = 5 ∧
      ("READY FOR SHIPMENT" : PyStr) = "READY FOR SHIPMENT" :=
  ⟨rfl, @main_summary untestedRun _ rfl⟩

/-- **When `main` prints its summary**: a robot object with an `id`, a `serial_number` and a
    `status` that print, loop passes that raise nothing, and steps 4 and 5 that raise
    nothing make `main` print the summary with the robot's serial number and id and the
    counts of both loops. -/
theorem main_completes {env : Env} {robot robotId serial status : Json}
    (hr : env.robot = .ok robot) (hid : getItem robot "id" = .ok robotId)
    (hserial : getItem robot "serial_number" = .ok serial)
    (hstatus : getItem robot "status" = .ok status)
    (hp : ∀ v ∈ [serial, robotId, status], v.prints env.stdout)
    (hc : ∀ c ∈ env.components, installSafe env.stdout c)
    (ht : ∀ t ∈ env.tests, testSafe env.stdout t)
    (hu : updateStep env.stdout env.update = .ok ())
    (hg : genealogyStep env.stdout env.genealogy = .ok ()) :
    main env = .ok (.summary ⟨serial, robotId, env.components.countP installs,
      env.tests.countP (fun r => (passed r).isSome), 5, "READY FOR SHIPMENT"⟩) := by
  have hi := (@installLoop_eq_ok env.stdout (componentsToInstall.zip env.components) _).2
    ⟨fun s hs => hc s.2 (List.of_mem_zip hs).2, rfl⟩
  have ht' := (@testLoop_eq_ok env.stdout (testProtocols.zip env.tests) _).2
    ⟨fun s hs => ht s.2 (List.of_mem_zip hs).2, rfl⟩
  have hpr : ∀ v ∈ [serial, robotId, status], printJson env.stdout [v] = .ok () := fun v hv =>
    printJson_eq_ok.2 fun w hw => List.mem_singleton.1 hw ▸ hp v hv
  simp only [List.mem_cons, List.mem_singleton, List.not_mem_nil, or_false, forall_eq_or_imp,
    forall_eq] at hpr
  simp only [main, hr, hid, hserial, hstatus, hpr.1, hpr.2.1, hpr.2.2, hi, ht', hu, hg,
    except_ok_bind, installed_length, passed_length]
  rfl

theorem main_completes_untested :
    untestedRun.robot = .ok (.obj [("id", .str "r-1"),
        ("serial_number", .str "IR6000-202412-00100"), ("status", .str "in_production")]) ∧
      getItem (.obj [("id", .str "r-1"), ("serial_number", .str "IR6000-202412-00100"),
        ("status", .str "in_production")]) "id" = .ok (.str "r-1") ∧
      (∀ v ∈ [Json.str "IR6000-202412-00100", .str "r-1", .str "in_production"],
        v.prints untestedRun.stdout) ∧
      (∀ c ∈ untestedRun.components, installSafe untestedRun.stdout c) ∧
      (∀ t ∈ untestedRun.tests, testSafe untestedRun.stdout t) ∧
      updateStep untestedRun.stdout untestedRun.update = .ok () ∧
      genealogyStep untestedRun.stdout untestedRun.genealogy = .ok () ∧
      main untestedRun = .ok (.summary ⟨.str "IR6000-202412-00100", .str "r-1",
        untestedRun.components.countP installs,
        untestedRun.tests.countP (fun r => (passed r).isSome), 5, "READY FOR SHIPMENT"⟩) :=
  ⟨rfl, rfl, by decide, by decide, by decide, rfl, rfl,
    main_completes rfl rfl rfl rfl (by decide) (by decide) (by decide) rfl rfl⟩

end DevAdminToken.Build
