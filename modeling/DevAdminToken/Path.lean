/-
  DevAdminToken formalization — the request targets of the API clients' endpoints that carry
  an id.

  Thirty methods of the three clients build their endpoint as an f-string with an id in it,
  `f"/robots/serials/{robot_id}"`, `f"/ncrs/{ncr_id}/close"`, `f"/orders/{order_id}/cancel"`,
  …, and send it with `requests`; none escapes the id.  `idPath pre suf` is that family: the
  fixed segments `pre`, the id, the fixed segments `suf`.

  * `requestTarget` is the path and the query `requests` sends for the text of a URL after its
    authority: urllib3's `parse_url` splits it at the first `?` or `#` (`splitTarget`) and
    removes dot segments from the path (`removeDotSegments`, the loop `dotStep`).
  * `requestTarget_idPath`: an id with no `/`, `?`, `#` or `%` that is neither `.` nor `..`
    (`Segment`) is sent as exactly one segment, in its place.
  * Otherwise the id chooses the endpoint: an id of one `..` per fixed segment before it and
    then a path sends the request to that path under the API base
    (`requestTarget_idPath_up`); a `?` in an id ends the path there and sends the rest, the
    endpoint's fixed segments after the id included, as the query
    (`requestTarget_idPath_query`); a `#` ends the path and the rest is not sent
    (`requestTarget_idPath_fragment`).
-/
import DevAdminToken.Query

namespace DevAdminToken.Path

open Query (join_eq_flatMap mem_join)

/-! ## The path and query `requests` sends -/

/-- `"/".join(segments)` -/
def joinPath (segments : List PyStr) : PyStr := [47].intercalate segments

/-- `path.split("/")` -/
def splitPath (path : PyStr) : List PyStr := path.splitOn 47

/-- One pass of the loop of urllib3's `_remove_path_dot_segments`: a `.` is skipped, a `..`
    pops the last segment kept if there is one, any other segment is kept. -/
def dotStep (output : List PyStr) (segment : PyStr) : List PyStr :=
  if segment = "." then output
  else if segment ≠ ".." then output ++ [segment]
  else if output ≠ [] then output.dropLast
  else output

/-- urllib3's `_remove_path_dot_segments(path)` (RFC 3986, 5.2.4): the loop over the segments,
    then an empty first segment when `path` starts with `/` and the output does not start
    with one, and an empty last segment when `path` ends with `/.` or `/..`. -/
def removeDotSegments (path : PyStr) : PyStr :=
  let output := (splitPath path).foldl dotStep []
  let output :=
    if ("/" : PyStr).isPrefixOf path && output.head?.all (!·.isEmpty) then [] :: output
    else output
  let output :=
    if ("/." : PyStr).isSuffixOf path || ("/.." : PyStr).isSuffixOf path then output ++ [[]]
    else output
  joinPath output

/-- A `?` or a `#`, where the path of a URL ends. -/
def endsPath (c : CodePoint) : Bool := c == 63 || c == 35

/-- The path and the query of a URL's text after its authority, as urllib3's `_URI_RE` splits
    it: the path runs to the first `?` or `#`; a `?` there starts the query, which runs to the
    next `#`. -/
def splitTarget (rest : PyStr) : PyStr × Option PyStr :=
  (rest.takeWhile (!endsPath ·),
    match rest.dropWhile (!endsPath ·) with
    | 63 :: q => some (q.takeWhile (· != 35))
    | _ => none)

/-- The path and query `requests` sends for a URL whose text after its authority is `rest`
    (`PreparedRequest.prepare_url` through urllib3's `parse_url`): dot segments are removed
    from a non-empty path, an empty path is `/`, and an empty or absent query is not sent; the
    fragment never is.  `requote_uri` then rewrites the URL: a `%` and two hex digits of an
    unreserved character become that character, and what a URL cannot hold is
    percent-encoded, which the server decodes.  The model leaves requoting out, which changes
    nothing the server reads on a text with no `%`, the only texts the theorems below send. -/
def requestTarget (rest : PyStr) : PyStr × PyStr :=
  ((if (splitTarget rest).1.isEmpty then "/" else removeDotSegments (splitTarget rest).1),
    (splitTarget rest).2.getD [])

/-! ## The clients' endpoints -/

/-- The text after the authority of an API base URL whose path has the segments `base`:
    `/api/v1/manufacturing` for `["api", "v1", "manufacturing"]`, `''` for `[]`. -/
def basePath (base : List PyStr) : PyStr := joinPath ([] :: base)

/-- The path of the examples' `api_base`, `"http://localhost:3000/api/v1/manufacturing"`. -/
def demoBase : List PyStr := ["api", "v1", "manufacturing"]

/-- An endpoint with one id in it, `f"/{pre}/{id}/{suf}"`: the fixed segments `pre`, the id,
    the fixed segments `suf`. -/
def idPath (pre suf : List PyStr) (id : PyStr) : PyStr := joinPath ([] :: (pre ++ id :: suf))

/-- `RobotsAPI.get`: `f"/robots/serials/{robot_id}"` -/
def RobotsAPI.get (robotId : PyStr) : PyStr := idPath ["robots", "serials"] [] robotId

/-- `RobotsAPI.update`: `f"/robots/serials/{robot_id}"` -/
def RobotsAPI.update (robotId : PyStr) : PyStr := idPath ["robots", "serials"] [] robotId

/-- `RobotsAPI.get_genealogy`: `f"/robots/serials/{robot_id}/genealogy"` -/
def RobotsAPI.getGenealogy (robotId : PyStr) : PyStr :=
  idPath ["robots", "serials"] ["genealogy"] robotId

/-- `TestResultsAPI.get_robot_results`: `f"/robots/{robot_id}/test-results"` -/
def TestResultsAPI.getRobotResults (robotId : PyStr) : PyStr :=
  idPath ["robots"] ["test-results"] robotId

/-- `NCRsAPI.update`: `f"/ncrs/{ncr_id}"` -/
def NCRsAPI.update (ncrId : PyStr) : PyStr := idPath ["ncrs"] [] ncrId

/-- `NCRsAPI.close`: `f"/ncrs/{ncr_id}/close"` -/
def NCRsAPI.close (ncrId : PyStr) : PyStr := idPath ["ncrs"] ["close"] ncrId

/-- `StateSetClient.get_order`: `f'/orders/{order_id}'` -/
def StateSetClient.getOrder (orderId : PyStr) : PyStr := idPath ["orders"] [] orderId

/-- `StateSetClient.update_order_status`: `f'/orders/{order_id}/status'` -/
def StateSetClient.updateOrderStatus (orderId : PyStr) : PyStr :=
  idPath ["orders"] ["status"] orderId

/-- `StateSetClient.cancel_order`: `f'/orders/{order_id}/cancel'` -/
def StateSetClient.cancelOrder (orderId : PyStr) : PyStr := idPath ["orders"] ["cancel"] orderId

/-- `StateSetClient.reserve_inventory`: `f'/inventory/{inventory_id}/reserve'` -/
def StateSetClient.reserveInventory (inventoryId : PyStr) : PyStr :=
  idPath ["inventory"] ["reserve"] inventoryId

/-- `StateSetClient.release_inventory`: `f'/inventory/{inventory_id}/release'` -/
def StateSetClient.releaseInventory (inventoryId : PyStr) : PyStr :=
  idPath ["inventory"] ["release"] inventoryId

/-- `StateSetClient.approve_return`: `f'/returns/{return_id}/approve'` -/
def StateSetClient.approveReturn (returnId : PyStr) : PyStr :=
  idPath ["returns"] ["approve"] returnId

/-- `StateSetClient.restock_return`: `f'/returns/{return_id}/restock'` -/
def StateSetClient.restockReturn (returnId : PyStr) : PyStr :=
  idPath ["returns"] ["restock"] returnId

/-- `StateSetClient.mark_shipped`: `f'/shipments/{shipment_id}/ship'` -/
def StateSetClient.markShipped (shipmentId : PyStr) : PyStr :=
  idPath ["shipments"] ["ship"] shipmentId

/-- `StateSetClient.track_shipment`: `f'/shipments/track/{tracking_number}'` -/
def StateSetClient.trackShipment (trackingNumber : PyStr) : PyStr :=
  idPath ["shipments", "track"] [] trackingNumber

/-- `ManufacturingClient.add_bom_component`: `f"{self.base_url}/manufacturing/boms/{bom_id}/components"` -/
def ManufacturingClient.addBomComponent (bomId : PyStr) : PyStr :=
  idPath ["manufacturing", "boms"] ["components"] bomId

/-- `ManufacturingClient.get_bom`: `f"{self.base_url}/manufacturing/boms/{bom_id}"` -/
def ManufacturingClient.getBom (bomId : PyStr) : PyStr := idPath ["manufacturing", "boms"] [] bomId

/-- `ManufacturingClient.start_work_order`: `f"{self.base_url}/work-orders/{work_order_id}/start"` -/
def ManufacturingClient.startWorkOrder (workOrderId : PyStr) : PyStr :=
  idPath ["work-orders"] ["start"] workOrderId

/-- `ManufacturingClient.complete_work_order`:
    `f"{self.base_url}/work-orders/{work_order_id}/complete"` -/
def ManufacturingClient.completeWorkOrder (workOrderId : PyStr) : PyStr :=
  idPath ["work-orders"] ["complete"] workOrderId

/-- `ManufacturingClient.hold_work_order`: `f"{self.base_url}/work-orders/{work_order_id}/hold"` -/
def ManufacturingClient.holdWorkOrder (workOrderId : PyStr) : PyStr :=
  idPath ["work-orders"] ["hold"] workOrderId

/-- `ManufacturingClient.resume_work_order`:
    `f"{self.base_url}/work-orders/{work_order_id}/resume"` -/
def ManufacturingClient.resumeWorkOrder (workOrderId : PyStr) : PyStr :=
  idPath ["work-orders"] ["resume"] workOrderId

/-- `ManufacturingClient.cancel_work_order`: `f"{self.base_url}/work-orders/{work_order_id}"` -/
def ManufacturingClient.cancelWorkOrder (workOrderId : PyStr) : PyStr :=
  idPath ["work-orders"] [] workOrderId

/-- `ManufacturingClient.get_work_order`: `f"{self.base_url}/work-orders/{work_order_id}"` -/
def ManufacturingClient.getWorkOrder (workOrderId : PyStr) : PyStr :=
  idPath ["work-orders"] [] workOrderId

/-- `ManufacturingClient.add_batch_materials`:
    `f"{self.base_url}/manufacturing/batches/{batch_id}/materials"` -/
def ManufacturingClient.addBatchMaterials (batchId : PyStr) : PyStr :=
  idPath ["manufacturing", "batches"] ["materials"] batchId

/-- `ManufacturingClient.start_batch`: `f"{self.base_url}/manufacturing/batches/{batch_id}/start"` -/
def ManufacturingClient.startBatch (batchId : PyStr) : PyStr :=
  idPath ["manufacturing", "batches"] ["start"] batchId

/-- `ManufacturingClient.add_quality_check`:
    `f"{self.base_url}/manufacturing/batches/{batch_id}/quality-checks"` -/
def ManufacturingClient.addQualityCheck (batchId : PyStr) : PyStr :=
  idPath ["manufacturing", "batches"] ["quality-checks"] batchId

/-- `ManufacturingClient.complete_batch`:
    `f"{self.base_url}/manufacturing/batches/{batch_id}/complete"` -/
def ManufacturingClient.completeBatch (batchId : PyStr) : PyStr :=
  idPath ["manufacturing", "batches"] ["complete"] batchId

/-- `ManufacturingClient.release_batch`:
    `f"{self.base_url}/manufacturing/batches/{batch_id}/release"` -/
def ManufacturingClient.releaseBatch (batchId : PyStr) : PyStr :=
  idPath ["manufacturing", "batches"] ["release"] batchId

/-- `ManufacturingClient.get_batch_genealogy`:
    `f"{self.base_url}/manufacturing/batches/{batch_id}/genealogy"` -/
def ManufacturingClient.getBatchGenealogy (batchId : PyStr) : PyStr :=
  idPath ["manufacturing", "batches"] ["genealogy"] batchId

/-- `ManufacturingClient.get_robot_genealogy`:
    `f"{self.base_url}/manufacturing/robots/serials/{robot_serial_id}/genealogy"` -/
def ManufacturingClient.getRobotGenealogy (robotSerialId : PyStr) : PyStr :=
  idPath ["manufacturing", "robots", "serials"] ["genealogy"] robotSerialId

/-- A text that stays one path segment: no `/`, `?` or `#`, neither `.` nor `..`, and no `%`,
    which `requote_uri` could read with the two characters after it as another one (`%2E` is
    `.`). -/
def Segment (s : PyStr) : Prop := 47 ∉ s ∧ 63 ∉ s ∧ 35 ∉ s ∧ 37 ∉ s ∧ s ≠ "." ∧ s ≠ ".."

instance : DecidablePred Segment := fun s =>
  inferInstanceAs (Decidable (47 ∉ s ∧ 63 ∉ s ∧ 35 ∉ s ∧ 37 ∉ s ∧ s ≠ "." ∧ s ≠ ".."))

/-! ## Joining segments -/

theorem joinPath_abs (segs : List PyStr) : joinPath ([] :: segs) = segs.flatMap (47 :: ·) := by
  rw [joinPath, join_eq_flatMap, List.nil_append]

theorem basePath_append (base segs : List PyStr) :
    basePath base ++ joinPath ([] :: segs) = joinPath ([] :: (base ++ segs)) := by
  simp only [basePath, joinPath_abs, List.flatMap_append]

theorem idPath_joinPath (pre suf : List PyStr) {ids : List PyStr} (h : ids ≠ []) :
    idPath pre suf (joinPath ids) = joinPath ([] :: (pre ++ ids ++ suf)) := by
  obtain ⟨i, is, rfl⟩ := List.exists_cons_of_ne_nil h
  simp only [idPath, joinPath_abs, joinPath, join_eq_flatMap, List.flatMap_append,
    List.flatMap_cons, List.append_assoc, List.cons_append]

theorem idPath_split (pre suf : List PyStr) (a : PyStr) (x : CodePoint) (q : PyStr) :
    idPath pre suf (a ++ x :: q) =
      joinPath ([] :: (pre ++ [a])) ++ x :: (q ++ joinPath ([] :: suf)) := by
  simp only [idPath, joinPath_abs, List.flatMap_append, List.flatMap_cons, List.flatMap_nil,
    List.append_assoc, List.cons_append, List.nil_append, List.append_nil]

theorem mem_joinPath_abs {segs : List PyStr} {c : CodePoint} (h : c ∈ joinPath ([] :: segs)) :
    c = 47 ∨ ∃ s ∈ segs, c ∈ s := by
  rcases mem_join _ h with h | ⟨s, hs, hc⟩
  · exact .inl h
  · rcases List.mem_cons.1 hs with rfl | hs
    · cases hc
    · exact .inr ⟨s, hs, hc⟩

theorem joinPath_abs_not_endsPath {segs : List PyStr} (h : ∀ s ∈ segs, 63 ∉ s ∧ 35 ∉ s) :
    ∀ c ∈ joinPath ([] :: segs), (!endsPath c) = true := by
  intro c hc
  rcases mem_joinPath_abs hc with rfl | ⟨s, hs, hc⟩
  · decide
  · simp only [endsPath, Bool.not_or, Bool.and_eq_true, Bool.not_eq_true', beq_eq_false_iff_ne]
    exact ⟨fun he => (h s hs).1 (he ▸ hc), fun he => (h s hs).2 (he ▸ hc)⟩

theorem joinPath_abs_isEmpty {segs : List PyStr} (h : segs ≠ []) :
    (joinPath ([] :: segs)).isEmpty = false := by
  obtain ⟨s, segs, rfl⟩ := List.exists_cons_of_ne_nil h
  rfl

/-! ## Splitting at `?` and `#` -/

theorem splitTarget_of_forall {p : PyStr} (hp : ∀ c ∈ p, (!endsPath c) = true) :
    splitTarget p = (p, none) := by
  simp [splitTarget, List.takeWhile_eq_self_iff.2 hp, List.dropWhile_eq_nil_iff.2 hp]

theorem splitTarget_query {p : PyStr} (hp : ∀ c ∈ p, (!endsPath c) = true) (q : PyStr) :
    splitTarget (p ++ 63 :: q) = (p, some (q.takeWhile (· != 35))) := by
  simp only [splitTarget, List.takeWhile_append_of_pos hp, List.dropWhile_append_of_pos hp]
  simp [endsPath]

theorem splitTarget_fragment {p : PyStr} (hp : ∀ c ∈ p, (!endsPath c) = true) (f : PyStr) :
    splitTarget (p ++ 35 :: f) = (p, none) := by
  simp only [splitTarget, List.takeWhile_append_of_pos hp, List.dropWhile_append_of_pos hp]
  simp [endsPath]

/-! ## Removing dot segments -/

theorem dotStep_plain (out : List PyStr) {s : PyStr} (h : s ≠ "." ∧ s ≠ "..") :
    dotStep out s = out ++ [s] := by
  rw [dotStep, if_neg h.1, if_pos h.2]

theorem dotStep_up (out : List PyStr) (s : PyStr) : dotStep (out ++ [s]) ".." = out := by
  rw [dotStep, if_neg (by decide), if_neg (by simp), if_pos (by simp), List.dropLast_concat]

/-- The loop keeps every segment that is neither `.` nor `..`. -/
theorem foldl_dotStep_plain : ∀ {segs : List PyStr}, (∀ s ∈ segs, s ≠ "." ∧ s ≠ "..") →
    ∀ out, segs.foldl dotStep out = out ++ segs
  | [], _, out => (List.append_nil out).symm
  | s :: segs, h, out => by
    rw [List.foldl_cons, dotStep_plain out (h s (List.mem_cons_self _ _)),
      foldl_dotStep_plain (fun t ht => h t (List.mem_cons_of_mem _ ht)), List.append_assoc,
      List.singleton_append]

/-- One `..` per segment kept pops them all. -/
theorem foldl_dotStep_up (pre : List PyStr) :
    ∀ out, (List.replicate pre.length (".." : PyStr)).foldl dotStep (out ++ pre) = out := by
  induction pre with
  | nil => exact fun out => List.append_nil out
  | cons s pre ih =>
    intro out
    rw [List.length_cons, List.replicate_succ', List.foldl_append, ← List.singleton_append,
      ← List.append_assoc, ih, List.foldl_cons, List.foldl_nil, dotStep_up]

theorem segment_chars {s : PyStr} (h : Segment s) : 47 ∉ s ∧ 63 ∉ s ∧ 35 ∉ s :=
  ⟨h.1, h.2.1, h.2.2.1⟩

theorem segment_plain {s : PyStr} (h : Segment s) : s ≠ "." ∧ s ≠ ".." :=
  ⟨h.2.2.2.2.1, h.2.2.2.2.2⟩

theorem segment_last {segs : List PyStr} (h : ∀ s ∈ segs, Segment s) :
    ∀ l, segs.getLast? = some l → l ≠ "." ∧ l ≠ ".." :=
  fun l hl => segment_plain (h l (List.mem_of_getLast?_eq_some hl))

/-- A path that ends with segments of its own ends with one of them. -/
theorem segment_last_append (u : List PyStr) {segs : List PyStr} (h : ∀ s ∈ segs, Segment s)
    (hne : segs ≠ []) : ∀ l, (u ++ segs).getLast? = some l → l ≠ "." ∧ l ≠ ".." := by
  intro l hl
  rw [List.getLast?_append, List.getLast?_eq_getLast segs hne] at hl
  cases hl
  exact segment_plain (h _ (List.getLast_mem hne))

/-- A path that ends with `/.` or `/..` has `.` or `..` as its last segment. -/
theorem dotSuffix_last {p l : PyStr} (hl : 47 ∉ l)
    (h : (("/." : PyStr).isSuffixOf (p ++ 47 :: l) ||
      ("/.." : PyStr).isSuffixOf (p ++ 47 :: l)) = true) :
    l = "." ∨ l = ".." := by
  obtain ⟨m, rfl⟩ : ∃ m, l = m.reverse := ⟨l.reverse, (List.reverse_reverse l).symm⟩
  rw [show ("/." : PyStr) = [47, 46] from rfl, show ("/.." : PyStr) = [47, 46, 46] from rfl] at h
  rw [show ("." : PyStr) = [46].reverse from rfl, show (".." : PyStr) = [46, 46].reverse from rfl,
    List.reverse_inj, List.reverse_inj]
  simp only [Bool.or_eq_true, List.isSuffixOf_iff_suffix, ← List.reverse_prefix,
    List.reverse_append, List.reverse_cons, List.reverse_reverse, List.mem_reverse] at h hl
  rcases m with _ | ⟨x, _ | ⟨y, _ | ⟨z, r⟩⟩⟩ <;>
    simp_all [List.cons_prefix_cons, @eq_comm CodePoint 46]

/-- An absolute path whose segments hold no `/` and whose last segment is neither `.` nor
    `..` comes out of `removeDotSegments` as the loop leaves it. -/
theorem removeDotSegments_abs {segs out : List PyStr} (hs : ∀ s ∈ segs, 47 ∉ s)
    (hfold : segs.foldl dotStep [[]] = [] :: out)
    (hlast : ∀ l, segs.getLast? = some l → l ≠ "." ∧ l ≠ "..") :
    removeDotSegments (joinPath ([] :: segs)) = joinPath ([] :: out) := by
  have hsplit : splitPath (joinPath ([] :: segs)) = [] :: segs :=
    List.splitOn_intercalate _ _ (by simpa using hs) (List.cons_ne_nil _ _)
  have hsuffix : ¬(("/." : PyStr).isSuffixOf (joinPath ([] :: segs)) ||
      ("/.." : PyStr).isSuffixOf (joinPath ([] :: segs))) = true := by
    rcases List.eq_nil_or_concat segs with rfl | ⟨init, l, rfl⟩
    · decide
    · rw [List.concat_eq_append] at hs hlast ⊢
      rw [joinPath_abs, List.flatMap_append, List.flatMap_singleton]
      intro h
      have hl := hlast l (List.getLast?_concat _)
      rcases dotSuffix_last (hs l (List.mem_concat_self _ _)) h with h' | h'
      · exact hl.1 h'
      · exact hl.2 h'
  have hempty : dotStep [] [] = [[]] := dotStep_plain [] (by decide)
  simp only [removeDotSegments, hsplit, List.foldl_cons, hempty, hfold, List.head?_cons,
    Option.all_some, List.isEmpty_nil, Bool.not_true, Bool.and_false, if_neg hsuffix]
  rfl

theorem foldl_dotStep_segments {segs : List PyStr} (h : ∀ s ∈ segs, Segment s) (out : List PyStr) :
    segs.foldl dotStep out = out ++ segs :=
  foldl_dotStep_plain (fun s hs => segment_plain (h s hs)) out

theorem removeDotSegments_segments {segs : List PyStr} (h : ∀ s ∈ segs, Segment s) :
    removeDotSegments (joinPath ([] :: segs)) = joinPath ([] :: segs) :=
  removeDotSegments_abs (fun s hs => (h s hs).1) (foldl_dotStep_segments h _) (segment_last h)

/-! ## The request target of an absolute path -/

/-- An absolute path with no `?` or `#`, whose segments hold no `/` and whose last segment is
    neither `.` nor `..`, is sent as the loop leaves it, with no query. -/
theorem requestTarget_abs {segs out : List PyStr} (hs : ∀ s ∈ segs, 47 ∉ s ∧ 63 ∉ s ∧ 35 ∉ s)
    (hne : segs ≠ []) (hfold : segs.foldl dotStep [[]] = [] :: out)
    (hlast : ∀ l, segs.getLast? = some l → l ≠ "." ∧ l ≠ "..") :
    requestTarget (joinPath ([] :: segs)) = (joinPath ([] :: out), []) := by
  rw [requestTarget, splitTarget_of_forall (joinPath_abs_not_endsPath fun s h => (hs s h).2),
    joinPath_abs_isEmpty hne, removeDotSegments_abs (fun s h => (hs s h).1) hfold hlast]
  rfl

theorem requestTarget_query_abs {segs : List PyStr} (h : ∀ s ∈ segs, Segment s)
    (hne : segs ≠ []) (q : PyStr) :
    requestTarget (joinPath ([] :: segs) ++ 63 :: q) =
      (joinPath ([] :: segs), q.takeWhile (· != 35)) := by
  rw [requestTarget,
    splitTarget_query (joinPath_abs_not_endsPath fun s hs => (segment_chars (h s hs)).2),
    joinPath_abs_isEmpty hne, removeDotSegments_segments h]
  rfl

theorem requestTarget_fragment_abs {segs : List PyStr} (h : ∀ s ∈ segs, Segment s)
    (hne : segs ≠ []) (f : PyStr) :
    requestTarget (joinPath ([] :: segs) ++ 35 :: f) = (joinPath ([] :: segs), []) := by
  rw [requestTarget,
    splitTarget_fragment (joinPath_abs_not_endsPath fun s hs => (segment_chars (h s hs)).2),
    joinPath_abs_isEmpty hne, removeDotSegments_segments h]
  rfl

/-! ## An id in an endpoint -/

section
variable {base pre suf : List PyStr}

/-- **A plain id stays one segment**: an id with no `/`, `?`, `#` or `%` that is neither `.`
    nor `..` reaches the server as exactly the segment between the endpoint's fixed ones, under
    the API base, and no query is sent. -/
theorem requestTarget_idPath (hb : ∀ s ∈ base ++ pre ++ suf, Segment s) {id : PyStr}
    (hid : Segment id) :
    requestTarget (basePath base ++ idPath pre suf id) =
      (joinPath ([] :: (base ++ pre ++ id :: suf)), []) := by
  obtain ⟨hbp, hs⟩ := List.forall_mem_append.1 hb
  have h : ∀ s ∈ base ++ pre ++ id :: suf, Segment s :=
    List.forall_mem_append.2 ⟨hbp, List.forall_mem_cons.2 ⟨hid, hs⟩⟩
  rw [idPath, basePath_append, ← List.append_assoc,
    requestTarget_abs (fun s hs => segment_chars (h s hs)) (by simp)
      (foldl_dotStep_segments h _) (segment_last h)]
  rfl

theorem requestTarget_robotsGet :
    (∀ s ∈ demoBase ++ (["robots", "serials"] : List PyStr) ++ [], Segment s) ∧
      Segment "R-1" ∧
      requestTarget (basePath demoBase ++ RobotsAPI.get "R-1") =
        (("/api/v1/manufacturing/robots/serials/R-1" : PyStr), ("" : PyStr)) :=
  ⟨by decide, by decide, (requestTarget_idPath (by decide) (by decide)).trans (by decide)⟩

/-- **An id of `..`s reaches any endpoint under the API base**: an id made of one `..` for each
    fixed segment before it, then a path, sends the request to that path under the base,
    followed by the endpoint's fixed segments after the id. -/
theorem requestTarget_idPath_up (hb : ∀ s ∈ base ++ pre ++ suf, Segment s) {rest : List PyStr}
    (hr : ∀ s ∈ rest, Segment s) (hne : rest ≠ []) :
    requestTarget (basePath base ++
        idPath pre suf (joinPath (List.replicate pre.length (".." : PyStr) ++ rest))) =
      (joinPath ([] :: (base ++ rest ++ suf)), []) := by
  obtain ⟨hbp, hs⟩ := List.forall_mem_append.1 hb
  obtain ⟨hb', hp⟩ := List.forall_mem_append.1 hbp
  have hrs : ∀ s ∈ rest ++ suf, Segment s := List.forall_mem_append.2 ⟨hr, hs⟩
  have hchars : ∀ s ∈ base ++ pre ++ List.replicate pre.length (".." : PyStr) ++ (rest ++ suf),
      47 ∉ s ∧ 63 ∉ s ∧ 35 ∉ s := by
    refine List.forall_mem_append.2 ⟨List.forall_mem_append.2 ⟨fun s h => segment_chars (hbp s h),
      fun s h => ?_⟩, fun s h => segment_chars (hrs s h)⟩
    rw [List.eq_of_mem_replicate h]
    decide
  have hfold :
      (base ++ pre ++ List.replicate pre.length (".." : PyStr) ++ (rest ++ suf)).foldl dotStep [[]] =
        [] :: (base ++ rest ++ suf) := by
    simp only [List.foldl_append]
    rw [foldl_dotStep_segments hb', foldl_dotStep_segments hp, foldl_dotStep_up,
      foldl_dotStep_segments hr, foldl_dotStep_segments hs]
    simp
  rw [idPath_joinPath pre suf (by simp [hne]), basePath_append,
    show base ++ (pre ++ (List.replicate pre.length (".." : PyStr) ++ rest) ++ suf) =
      base ++ pre ++ List.replicate pre.length (".." : PyStr) ++ (rest ++ suf) by simp,
    requestTarget_abs hchars (by simp [hne]) hfold (segment_last_append _ hrs (by simp [hne]))]

theorem requestTarget_robotsGet_ncrs :
    (∀ s ∈ demoBase ++ (["robots", "serials"] : List PyStr) ++ [], Segment s) ∧
      (∀ s ∈ (["ncrs"] : List PyStr), Segment s) ∧ (["ncrs"] : List PyStr) ≠ [] ∧
      joinPath (List.replicate 2 ".." ++ ["ncrs"]) = "../../ncrs" ∧
      requestTarget (basePath demoBase ++ RobotsAPI.get (joinPath (List.replicate 2 ".." ++ ["ncrs"]))) =
        (("/api/v1/manufacturing/ncrs" : PyStr), ("" : PyStr)) :=
  ⟨by decide, by decide, by decide, by decide,
    (requestTarget_idPath_up (by decide) (by decide) (by decide)).trans (by decide)⟩

/-- The text between the fixed segments that ends at a `?` or a `#`. -/
theorem segments_cut (hb : ∀ s ∈ base ++ pre ++ suf, Segment s) {a : PyStr} (ha : Segment a) :
    ∀ s ∈ base ++ pre ++ [a], Segment s :=
  List.forall_mem_append.2 ⟨(List.forall_mem_append.1 hb).1, List.forall_mem_singleton.2 ha⟩

/-- **A `?` in an id ends the path**: the request goes to the endpoint's path up to the id's
    text before the `?`, and what follows the `?`, the endpoint's fixed segments after the id
    included, is sent as the query (one with no `#`, and no `%` for `requote_uri` to read). -/
theorem requestTarget_idPath_query (hb : ∀ s ∈ base ++ pre ++ suf, Segment s) {a q : PyStr}
    (ha : Segment a) (hq : 35 ∉ q ∧ 37 ∉ q) :
    requestTarget (basePath base ++ idPath pre suf (a ++ "?" ++ q)) =
      (joinPath ([] :: (base ++ pre ++ [a])), q ++ joinPath ([] :: suf)) := by
  have hs := (List.forall_mem_append.1 hb).2
  have hhash : ∀ c ∈ q ++ joinPath ([] :: suf), (c != 35) = true := by
    intro c hc
    refine bne_iff_ne.2 fun he => ?_
    subst he
    rcases List.mem_append.1 hc with hc | hc
    · exact hq.1 hc
    · rcases mem_joinPath_abs hc with h | ⟨s, hs', hc⟩
      · exact absurd h (by decide)
      · exact (segment_chars (hs s hs')).2.2 hc
  rw [List.append_assoc, show ("?" : PyStr) ++ q = 63 :: q from rfl, idPath_split,
    ← List.append_assoc, basePath_append, ← List.append_assoc,
    requestTarget_query_abs (segments_cut hb ha) (by simp), List.takeWhile_eq_self_iff.2 hhash]

theorem requestTarget_ncrsClose_query :
    (∀ s ∈ demoBase ++ (["ncrs"] : List PyStr) ++ (["close"] : List PyStr), Segment s) ∧ Segment "N-1" ∧
      (35 ∉ ("x=1" : PyStr) ∧ 37 ∉ ("x=1" : PyStr)) ∧
      requestTarget (basePath demoBase ++ NCRsAPI.close ("N-1" ++ "?" ++ "x=1")) =
        (("/api/v1/manufacturing/ncrs/N-1" : PyStr), ("x=1/close" : PyStr)) :=
  ⟨by decide, by decide, by decide,
    (requestTarget_idPath_query (by decide) (by decide) (by decide)).trans (by decide)⟩

/-- **A `#` in an id ends the path**: the request goes to the endpoint's path up to the id's
    text before the `#`; nothing after it is sent, the endpoint's fixed segments after the id
    included. -/
theorem requestTarget_idPath_fragment (hb : ∀ s ∈ base ++ pre ++ suf, Segment s) {a f : PyStr}
    (ha : Segment a) :
    requestTarget (basePath base ++ idPath pre suf (a ++ "#" ++ f)) =
      (joinPath ([] :: (base ++ pre ++ [a])), []) := by
  rw [List.append_assoc, show ("#" : PyStr) ++ f = 35 :: f from rfl, idPath_split,
    ← List.append_assoc, basePath_append, ← List.append_assoc,
    requestTarget_fragment_abs (segments_cut hb ha) (by simp)]

theorem requestTarget_ncrsClose_fragment :
    (∀ s ∈ demoBase ++ (["ncrs"] : List PyStr) ++ (["close"] : List PyStr), Segment s) ∧ Segment "N-1" ∧
      requestTarget (basePath demoBase ++ NCRsAPI.close ("N-1" ++ "#" ++ "")) =
        (("/api/v1/manufacturing/ncrs/N-1" : PyStr), ("" : PyStr)) :=
  ⟨by decide, by decide, (requestTarget_idPath_fragment (by decide) (by decide)).trans (by decide)⟩

end

end DevAdminToken.Path
