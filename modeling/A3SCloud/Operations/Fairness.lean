import A3SCloud.Contracts.Sample
import A3SCloud.Lib.Runs
import A3SCloud.Operations.Reconcile

/-!
# Which operations get their turn

The handler is called again and again while no request is added. `FailsExactly` says of one call
that the attempts at the requests of a set fail and that the others succeed; what the succeeding
runs report is arbitrary.

* Active operations are read behind a cursor that wraps: `mem_ensured_of_active` bounds the wait of
  each of them, whatever fails or ends in between.
* Starts have no cursor. `pendingQueue_step` identifies them with a queue whose failing entries are
  put back at the front, and `mem_ensured_iff` says which of its entries are reached.
* `reconciles_iff`: all operations are reached in time exactly if the queue of starts lets all of
  them through, and a start is reached at all exactly if fewer failing starts than the limit come
  before it. `ensured_within_of_room` counts when the queue does so.
-/

namespace A3SCloud

open Checks List Keyset OperationRequest OperationStore Runs Sample

/-! ### One attempt -/

variable {projection : OperationProjection}

theorem FlowOperationEngine.ensure_operationId {engine : FlowOperationEngine}
    {request : OperationRequest} {flow : FlowCall (.operation request.id)}
    (h : engine.ensure request flow = .ok projection) : projection.operationId = request.id := by
  unfold ensure at h
  split at h
  · cases h
  · simp only [bind_ok_iff, mapError_ok_iff] at h
    obtain ⟨spec, -, -, -, snapshot, hsettled, hprojection⟩ := h
    have hrun := flow.settled_runId snapshot hsettled
    rw [snapshotToProjection, hrun] at hprojection
    split at hprojection
    · rename_i heq
      cases heq
    · rename_i operationId heq
      cases heq
      split at hprojection
      · cases hprojection
      · cases hprojection
        rfl

/-- What an accepted projection leaves: the requests, the projections of the others, and a
projection of its own operation. -/
theorem OperationStore.upsertProjection_ok {store store' : OperationStore} {changed : Bool}
    (h : store.upsertProjection projection = .ok (changed, store')) :
    store'.requests = store.requests ∧
      (∀ id, id ≠ projection.operationId → store'.projections.get? id = store.projections.get? id) ∧
      (store'.projections.get? projection.operationId).isSome = true := by
  have hinsert : ∀ p : OperationProjection, p.operationId = projection.operationId →
      (∀ id, id ≠ projection.operationId →
        (store.projections.insert p).get? id = store.projections.get? id) ∧
      ((store.projections.insert p).get? projection.operationId).isSome = true := by
    intro p hp
    constructor
    · intro id hid
      rw [Table.get?_insert, if_neg (hp ▸ hid)]
    · rw [Table.get?_insert, if_pos hp.symm]
      rfl
  unfold upsertProjection at h
  simp only at h
  split_ifs at h
  split at h
  · cases h
    exact ⟨rfl, hinsert _ rfl⟩
  · rename_i existing hexisting
    have hsame : (store.projections.get? projection.operationId).isSome = true := by
      rw [hexisting]
      rfl
    split_ifs at h
    · cases h
      exact ⟨rfl, fun _ _ => rfl, hsame⟩
    · cases h
      exact ⟨rfl, fun _ _ => rfl, hsame⟩
    · cases h
      exact ⟨rfl, hinsert _ rfl⟩

namespace ReconcileOperations

variable {engine : FlowOperationEngine} {limit : ℕ} {answers : FlowAnswers}

/-- An attempt is reported as a failure and changes nothing, or the request has a projection. -/
theorem attempt_cases (engine : FlowOperationEngine) (answers : FlowAnswers)
    (progress : ReconcileOperationsReport × OperationStore) (request : OperationRequest) :
    ((∃ error, (attempt engine answers progress request).1.failures =
        progress.1.failures ++ [⟨request.id, error⟩]) ∧
      (attempt engine answers progress request).2 = progress.2) ∨
    ((attempt engine answers progress request).1.failures = progress.1.failures ∧
      (attempt engine answers progress request).2.requests = progress.2.requests ∧
      (∀ id, id ≠ request.id → (attempt engine answers progress request).2.projections.get? id =
        progress.2.projections.get? id) ∧
      ((attempt engine answers progress request).2.projections.get? request.id).isSome = true) := by
  unfold attempt
  cases hensure : engine.ensure request (answers request) with
  | error => exact .inl ⟨⟨_, rfl⟩, rfl⟩
  | ok projection =>
    have hid := FlowOperationEngine.ensure_operationId hensure
    cases hupsert : progress.2.upsertProjection projection with
    | error error => exact .inl ⟨⟨error.text, by simp [hupsert]⟩, by simp [hupsert]⟩
    | ok result =>
      obtain ⟨changed, store⟩ := result
      obtain ⟨hrequests, hothers, hown⟩ := upsertProjection_ok hupsert
      rw [hid] at hothers hown
      cases changed <;> exact .inr (by simp [hupsert]; exact ⟨hrequests, hothers, hown⟩)

/-- The loop over a batch without repetitions. -/
theorem attempts_spec (engine : FlowOperationEngine) (answers : FlowAnswers)
    {batch : List OperationRequest} (hnodup : (batch.map OperationRequest.id).Nodup)
    (progress : ReconcileOperationsReport × OperationStore) :
    (batch.foldl (attempt engine answers) progress).2.requests = progress.2.requests ∧
      (∀ id ∉ batch.map OperationRequest.id,
        (batch.foldl (attempt engine answers) progress).2.projections.get? id =
          progress.2.projections.get? id) ∧
      ∃ failures, (batch.foldl (attempt engine answers) progress).1.failures =
          progress.1.failures ++ failures ∧
        (∀ f ∈ failures, f.operationId ∈ batch.map OperationRequest.id) ∧
        ∀ r ∈ batch, progress.2.isPending r = true →
          ((batch.foldl (attempt engine answers) progress).2.isPending r = true ↔
            ∃ f ∈ failures, f.operationId = r.id) := by
  induction batch generalizing progress with
  | nil => exact ⟨rfl, fun _ _ => rfl, [], (append_nil _).symm, by simp, by simp⟩
  | cons request batch ih =>
    rw [map_cons, nodup_cons] at hnodup
    obtain ⟨hrequests, hothers, failures, hfailures, hids, hpending⟩ :=
      ih hnodup.2 (attempt engine answers progress request)
    rw [foldl_cons]
    have hfresh : ∀ f ∈ failures, f.operationId ≠ request.id :=
      fun f hf h => hnodup.1 (h ▸ hids f hf)
    have hown := hothers request.id hnodup.1
    have hne : ∀ r ∈ batch, r.id ≠ request.id :=
      fun r hr h => hnodup.1 (h ▸ mem_map_of_mem hr)
    rcases attempt_cases engine answers progress request with
      ⟨⟨error, hreported⟩, hsame⟩ | ⟨hreported, hrequests', hothers', hdone⟩
    · -- the first attempt fails and leaves the store as it is
      rw [hsame] at hrequests hothers hpending
      rw [hreported, append_assoc] at hfailures
      refine ⟨hrequests, fun id hid => hothers id (fun h => hid (mem_cons_of_mem _ h)),
        _, hfailures, ?_, ?_⟩
      · intro f hf
        rcases mem_cons.1 hf with rfl | hf
        · exact mem_cons_self
        · exact mem_cons_of_mem _ (hids f hf)
      · intro r hr hold
        rcases mem_cons.1 hr with rfl | hr
        · rw [isPending, hown, hsame]
          exact ⟨fun _ => ⟨_, mem_cons_self, rfl⟩, fun _ => hold⟩
        · rw [hpending r hr hold]
          simp [Ne.symm (hne r hr)]
    · -- the first attempt leaves a projection of its request only
      rw [hrequests'] at hrequests
      rw [hreported] at hfailures
      refine ⟨hrequests, ?_, failures, hfailures,
        fun f hf => mem_cons_of_mem _ (hids f hf), ?_⟩
      · intro id hid
        rw [map_cons, mem_cons, not_or] at hid
        rw [hothers id hid.2, hothers' id hid.1]
      · intro r hr hold
        rcases mem_cons.1 hr with rfl | hr
        · rw [isPending, hown]
          constructor
          · intro h
            rw [Option.isNone_iff_eq_none] at h
            rw [h] at hdone
            cases hdone
          · rintro ⟨f, hf, hfid⟩
            exact absurd hfid (hfresh f hf)
        · apply hpending r hr
          rw [isPending, hothers' r.id (hne r hr)]
          exact hold

/-- A projection is never taken away. -/
theorem attempts_keep (engine : FlowOperationEngine) (answers : FlowAnswers)
    (batch : List OperationRequest) {progress : ReconcileOperationsReport × OperationStore}
    {id : Uuid} (h : (progress.2.projections.get? id).isSome = true) :
    ((batch.foldl (attempt engine answers) progress).2.projections.get? id).isSome = true := by
  induction batch generalizing progress with
  | nil => exact h
  | cons request batch ih =>
    apply ih
    rcases attempt_cases engine answers progress request with
      ⟨-, hsame⟩ | ⟨-, -, hothers, hdone⟩
    · rw [hsame]
      exact h
    · by_cases hid : id = request.id
      · rw [hid]
        exact hdone
      · rw [hothers id hid]
        exact h

/-! ### One call -/

/-- The requests of a call, in the order in which they are attempted. -/
def batch (s : ReconcileOperations) (limit : ℕ) : List OperationRequest :=
  s.store.pendingStarts (max limit 1) ++ (s.nextActiveRefreshes (max limit 1)).1

/-- The starts in the order in which they are taken. -/
def pendingQueue (s : ReconcileOperations) : List OperationRequest :=
  sortByKey orderKey (s.store.requests.rows.filter s.store.isPending)

/-- The attempts at the requests of a set fail, and no others. -/
def FailsExactly (engine : FlowOperationEngine) (limit : ℕ) (failing : Finset Uuid)
    (s : ReconcileOperations) (answers : FlowAnswers) : Prop :=
  ∀ r ∈ s.batch limit,
    (∃ f ∈ (s.execute engine limit answers).1.failures, f.operationId = r.id) ↔ r.id ∈ failing

instance (failing : Finset Uuid) (s : ReconcileOperations) :
    Decidable (FailsExactly engine limit failing s answers) := by
  unfold FailsExactly
  infer_instance

theorem orderKey_nodup (s : ReconcileOperations) :
    (s.store.requests.rows.map orderKey).Nodup := by
  apply Nodup.of_map (fun k => (ofLex k).2)
  rw [map_map]
  exact s.store.requests.nodup

variable {s : ReconcileOperations} {r : OperationRequest} {calls : List FlowAnswers}
  {failing : Finset Uuid}

theorem mem_pendingQueue :
    r ∈ s.pendingQueue ↔ r ∈ s.store.requests.rows ∧ s.store.isPending r = true := by
  rw [pendingQueue, mem_sortByKey, mem_filter]

theorem pendingQueue_nodup (s : ReconcileOperations) : s.pendingQueue.Nodup :=
  (perm_sortByKey _ _).nodup_iff.2
    ((Nodup.of_map _ s.store.requests.nodup).filter _)

theorem nextActiveRefreshes_eq (s : ReconcileOperations) (limit : ℕ) :
    s.nextActiveRefreshes (max limit 1) = Keyset.next orderKey (max limit 1)
      s.refreshCursor (s.store.requests.rows.filter s.store.isActive) := by
  have hpage : ∀ after, s.store.activeRefreshes after (max limit 1) =
      page orderKey (max limit 1) after
        (s.store.requests.rows.filter s.store.isActive) := by
    intro after
    rw [activeRefreshes, page, filter_filter, max_assoc, max_self]
    simp only [Bool.and_comm]
  simp only [nextActiveRefreshes, Keyset.next, hpage]

theorem isActive_of_mem_refreshes (h : r ∈ (s.nextActiveRefreshes (max limit 1)).1) :
    r ∈ s.store.requests.rows ∧ s.store.isActive r = true := by
  rw [nextActiveRefreshes_eq] at h
  simp only [Keyset.next] at h
  split_ifs at h
  · exact mem_filter.1 (mem_of_mem_page h).1
  · exact mem_filter.1 (mem_of_mem_page h).1

theorem not_isActive_of_isPending {store : OperationStore} (h : store.isPending r = true) :
    store.isActive r = false := by
  rw [isPending, Option.isNone_iff_eq_none] at h
  rw [isActive, h]
  rfl

theorem mem_rows_of_mem_batch (h : r ∈ s.batch limit) : r ∈ s.store.requests.rows := by
  rcases mem_append.1 h with hstart | hrefresh
  · exact (mem_pendingQueue.1 (mem_of_mem_take hstart)).1
  · exact (isActive_of_mem_refreshes hrefresh).1

theorem nextActiveRefreshes_nodup (s : ReconcileOperations) :
    (s.nextActiveRefreshes (max limit 1)).1.Nodup := by
  have hpage : ∀ after, (page orderKey (max limit 1) after
      (s.store.requests.rows.filter s.store.isActive)).Nodup := fun after =>
    (pairwise_page ((orderKey_nodup s).sublist (filter_sublist.map _))).imp
      fun {a b} h hab => absurd h (by rw [hab]; exact lt_irrefl _)
  rw [nextActiveRefreshes_eq]
  simp only [Keyset.next]
  split_ifs
  · exact hpage _
  · exact hpage _

theorem batch_ids_nodup (limit : ℕ) (s : ReconcileOperations) :
    ((s.batch limit).map OperationRequest.id).Nodup := by
  have hbatch : (s.batch limit).Nodup := by
    refine nodup_append.2 ⟨(pendingQueue_nodup s).sublist (take_sublist _ _),
      nextActiveRefreshes_nodup s, ?_⟩
    rintro a ha b hb rfl
    have hpending := (mem_pendingQueue.1 (mem_of_mem_take ha)).2
    have hactive := (isActive_of_mem_refreshes hb).2
    rw [not_isActive_of_isPending hpending] at hactive
    cases hactive
  exact hbatch.map_on fun a ha b hb h => s.store.requests.eq_of_key_eq
    (mem_rows_of_mem_batch ha) (mem_rows_of_mem_batch hb) h

theorem store_step (engine : FlowOperationEngine) (limit : ℕ) (s : ReconcileOperations)
    (answers : FlowAnswers) :
    (s.step engine limit answers).store.requests = s.store.requests ∧
      (∀ r ∈ s.store.requests.rows, r ∉ s.batch limit →
        (s.step engine limit answers).store.projections.get? r.id =
          s.store.projections.get? r.id) ∧
      (∀ r ∈ s.batch limit, s.store.isPending r = true →
        ((s.step engine limit answers).store.isPending r = true ↔
          ∃ f ∈ (s.execute engine limit answers).1.failures, f.operationId = r.id)) := by
  obtain ⟨hrequests, hothers, failures, hfailures, -, hpending⟩ :=
    attempts_spec engine answers (batch_ids_nodup limit s)
      (⟨(s.store.pendingStarts (max limit 1)).length +
        (s.nextActiveRefreshes (max limit 1)).1.length, 0, []⟩, s.store)
  refine ⟨hrequests, ?_, ?_⟩
  · intro r hr hbatch
    apply hothers
    rw [mem_map]
    rintro ⟨r', hr', hid⟩
    have heq := s.store.requests.eq_of_key_eq (mem_rows_of_mem_batch hr') hr hid
    exact hbatch (heq ▸ hr')
  · intro r hr hold
    have hreport : (s.execute engine limit answers).1.failures = failures :=
      hfailures.trans (nil_append _)
    rw [hreport]
    exact hpending r hr hold

@[simp] theorem ensured_step (s : ReconcileOperations) (answers : FlowAnswers) :
    (s.step engine limit answers).ensured = s.ensured ++ s.batch limit := rfl

@[simp] theorem refreshCursor_step (s : ReconcileOperations) (answers : FlowAnswers) :
    (s.step engine limit answers).refreshCursor = (s.nextActiveRefreshes (max limit 1)).2 := rfl

theorem mem_ensured_run (h : r ∈ s.ensured) (calls : List FlowAnswers) :
    r ∈ (run (step engine limit) s calls).ensured :=
  invariant_all (I := fun s : ReconcileOperations => r ∈ s.ensured)
    (fun _ _ h => mem_append_left _ h) h calls

/-! ### Active operations -/

/-- An active operation is reached by as many calls as its rank says, whatever happens to the
others. -/
theorem mem_ensured_of_active {keys : Finset (ℤ ×ₗ Uuid)}
    (hkeys : ∀ r ∈ s.store.requests.rows, r.orderKey ∈ keys) (hr : r ∈ s.store.requests.rows)
    (hactive : s.store.isActive r = true)
    (hcalls : remaining keys (max limit 1) s.refreshCursor r.orderKey ≤ calls.length) :
    r ∈ (run (step engine limit) s calls).ensured := by
  have hlimit : 0 < max limit 1 := lt_max_of_lt_right Nat.one_pos
  induction calls generalizing s with
  | nil =>
    have hpos := remaining_pos hlimit s.refreshCursor (hkeys r hr)
    rw [length_nil] at hcalls
    omega
  | cons answers calls ih =>
    rw [run_cons]
    by_cases hbatch : r ∈ s.batch limit
    · exact mem_ensured_run (mem_append_right _ hbatch) calls
    · obtain ⟨hrequests, hothers, -⟩ := store_step engine limit s answers
      have hprogress := next_progress hlimit s.refreshCursor
        ((orderKey_nodup s).sublist (filter_sublist.map _))
        (fun a ha => hkeys a (mem_filter.1 ha).1) (mem_filter.2 ⟨hr, hactive⟩)
      rw [← nextActiveRefreshes_eq] at hprogress
      have hnearer := hprogress.resolve_left fun h => hbatch (mem_append_right _ h)
      apply ih
      · rw [hrequests]
        exact hkeys
      · rw [hrequests]
        exact hr
      · rw [isActive, hothers r hr hbatch]
        exact hactive
      · rw [refreshCursor_step]
        rw [length_cons] at hcalls
        omega

/-! ### Starts -/

/-- A call takes the front of the queue of starts and puts the failing ones back. -/
theorem pendingQueue_step {answers : FlowAnswers}
    (hfails : FailsExactly engine limit failing s answers) :
    (s.step engine limit answers).pendingQueue =
      retry (max limit 1) (fun r => decide (r.id ∈ failing)) s.pendingQueue := by
  obtain ⟨hrequests, hothers, hstarts⟩ := store_step engine limit s answers
  have htake : ∀ r ∈ s.store.requests.rows, s.store.isPending r = true →
      (r ∈ s.batch limit ↔ r ∈ s.pendingQueue.take (max limit 1)) := by
    intro r _ hpending
    rw [batch, mem_append]
    refine ⟨fun h => h.resolve_right fun hrefresh => ?_, .inl⟩
    have hactive := (isActive_of_mem_refreshes hrefresh).2
    rw [not_isActive_of_isPending hpending] at hactive
    cases hactive
  rw [retry_eq_filter (pendingQueue_nodup s), pendingQueue, hrequests,
    sortByKey_filter _ (orderKey_nodup s)]
  conv_rhs =>
    arg 2
    rw [pendingQueue, sortByKey_filter _ (orderKey_nodup s)]
  rw [filter_filter]
  apply filter_congr
  intro r hr
  rw [mem_sortByKey] at hr
  by_cases hbatch : r ∈ s.batch limit
  · by_cases hpending : s.store.isPending r = true
    · have hiff := hstarts r hbatch hpending
      rw [hfails r hbatch] at hiff
      have hfront := (htake r hr hpending).1 hbatch
      rw [Bool.eq_iff_iff, hiff]
      simp [hfront, hpending]
    · have hold : (s.store.projections.get? r.id).isSome = true := by
        rw [isPending, Option.isNone_iff_eq_none] at hpending
        exact Option.isSome_iff_ne_none.2 hpending
      have hnew : ((s.step engine limit answers).store.projections.get? r.id).isSome = true :=
        attempts_keep engine answers _ hold
      have hgone : (s.step engine limit answers).store.isPending r = false := by
        rw [isPending]
        exact Option.isNone_eq_false_iff.2 hnew
      rw [hgone]
      simp [hpending]
  · have hsame : (s.step engine limit answers).store.isPending r = s.store.isPending r := by
      rw [isPending, hothers r hr hbatch]
      rfl
    rw [hsame]
    by_cases hpending : s.store.isPending r = true
    · have hback : r ∉ s.pendingQueue.take (max limit 1) := fun h =>
        hbatch ((htake r hr hpending).2 h)
      simp [hback]
    · simp [hpending]

section Fails

variable (hnew : s.ensured = [])
  (hall : Allowed (step engine limit) (FailsExactly engine limit failing) s calls)
  (hcalls : calls.length = s.store.requests.rows.length ⌈/⌉ max limit 1 + 1)

include hall

/-- A start that does not fail is reached by a run if and only if it leaves the queue. -/
theorem mem_ensured_iff (hr : r ∈ s.pendingQueue) (hfine : r.id ∉ failing) :
    r ∈ (run (step engine limit) s calls).ensured ↔
      r ∈ s.ensured ∨ r ∉ (retry (max limit 1)
        fun r => decide (r.id ∈ failing))^[calls.length] s.pendingQueue := by
  have hfine' : decide (r.id ∈ failing) = false := decide_eq_false hfine
  induction calls generalizing s with
  | nil => simp [hr]
  | cons answers calls ih =>
    rw [run_cons, length_cons, Function.iterate_succ_apply]
    by_cases hfront : r ∈ s.pendingQueue.take (max limit 1)
    · -- this call takes it
      have hleft : r ∉ retry (max limit 1) (fun r => decide (r.id ∈ failing))
          s.pendingQueue := fun h =>
        (mem_retry_iff (pendingQueue_nodup s) hr hfine').1 h hfront
      have hnow : r ∈ (s.step engine limit answers).ensured :=
        mem_append_right _ (mem_append_left _ hfront)
      exact ⟨fun _ => .inr fun h => hleft (mem_of_mem_iterate h),
        fun _ => mem_ensured_run hnow calls⟩
    · have hqueue := pendingQueue_step hall.1
      have hstays : r ∈ (s.step engine limit answers).pendingQueue := by
        rw [hqueue]
        exact (mem_retry_iff (pendingQueue_nodup s) hr hfine').2 hfront
      have hbatch : r ∉ s.batch limit := by
        intro h
        rcases mem_append.1 h with hstart | hrefresh
        · exact hfront hstart
        · have hactive := (isActive_of_mem_refreshes hrefresh).2
          rw [not_isActive_of_isPending (mem_pendingQueue.1 hr).2] at hactive
          cases hactive
      have hlater := ih hall.2 hstays
      rw [ensured_step, mem_append, hqueue] at hlater
      rw [or_iff_left hbatch] at hlater
      exact hlater

include hnew

theorem mem_ensured_iff_left (hr : r ∈ s.pendingQueue) (hfine : r.id ∉ failing) :
    r ∈ (run (step engine limit) s calls).ensured ↔ r ∉ (retry (max limit 1)
      fun r => decide (r.id ∈ failing))^[calls.length] s.pendingQueue := by
  rw [mem_ensured_iff hall hr hfine, hnew]
  simp

include hcalls

theorem ensured_within_iff :
    (∀ r ∈ s.store.requests.rows, r.id ∉ failing →
        s.store.isPending r = true ∨ s.store.isActive r = true →
        r ∈ (run (step engine limit) s calls).ensured) ↔
      ∀ r ∈ (retry (max limit 1)
        fun r => decide (r.id ∈ failing))^[calls.length] s.pendingQueue, r.id ∈ failing := by
  have hlimit : 0 < max limit 1 := lt_max_of_lt_right Nat.one_pos
  constructor
  · intro hreached r hr
    by_contra hfine
    have hqueued := mem_pendingQueue.1 (mem_of_mem_iterate hr)
    exact (mem_ensured_iff_left hnew hall (mem_pendingQueue.2 hqueued) hfine).1
      (hreached r hqueued.1 hfine (.inl hqueued.2)) hr
  · rintro hserved r hr hfine (hpending | hactive)
    · exact (mem_ensured_iff_left hnew hall (mem_pendingQueue.2 ⟨hr, hpending⟩) hfine).2
        fun h => hfine (hserved r h)
    · have hkeys : ∀ r ∈ s.store.requests.rows, r.orderKey ∈
          (s.store.requests.rows.map orderKey).toFinset :=
        fun r hr => mem_toFinset.2 (mem_map_of_mem hr)
      apply mem_ensured_of_active hkeys hr hactive
      refine (remaining_le hlimit _ _).trans (le_of_eq ?_)
      rw [hcalls, toFinset_card_of_nodup (orderKey_nodup s), length_map]

/-- When the batches have room for the other starts beside those that fail, as they have if no start
fails, all other waiting requests are reached within the bound. -/
theorem ensured_within_of_room {starts failed : ℕ}
    (hstarts : starts = s.store.requests.rows.countP s.store.isPending)
    (hfailed : failed = s.store.requests.rows.countP fun r =>
      decide (r.id ∈ failing) && s.store.isPending r)
    (hroom : starts ≤ failed + calls.length * (max limit 1 - failed)) :
    ∀ r ∈ s.store.requests.rows, r.id ∉ failing →
      s.store.isPending r = true ∨ s.store.isActive r = true →
      r ∈ (run (step engine limit) s calls).ensured := by
  refine (ensured_within_iff hnew hall hcalls).2 fun r hr => ?_
  have hperm : s.pendingQueue.Perm (s.store.requests.rows.filter s.store.isPending) :=
    perm_sortByKey _ _
  have hleft := fun hroom => failing_of_mem_iterate hroom hr
  simp only [decide_eq_true_eq] at hleft
  refine hleft ?_
  rw [hperm.length_eq, hperm.countP_eq, countP_filter, ← countP_eq_length_filter,
    ← hstarts, ← hfailed]
  exact hroom

end Fails

/-! ### The theorem -/

/-- In every run in which exactly the requests of a set fail: all other waiting requests are reached
within the number of calls that the number of requests and the limit give, if and only if so many
batches of the queue of starts, with the failing ones put back, let all other starts through. In the
long run a start is reached if and only if the failing starts before it do not fill a batch. -/
theorem reconciles_iff {failing : Finset Uuid} {s : ReconcileOperations}
    {calls : List FlowAnswers} (hnew : s.ensured = [])
    (hall : Allowed (step engine limit) (FailsExactly engine limit failing) s calls) :
    (calls.length = s.store.requests.rows.length ⌈/⌉ max limit 1 + 1 →
      ((∀ r ∈ s.store.requests.rows, r.id ∉ failing →
          s.store.isPending r = true ∨ s.store.isActive r = true →
          r ∈ (run (step engine limit) s calls).ensured) ↔
        ∀ r ∈ (retry (max limit 1)
          fun r => decide (r.id ∈ failing))^[calls.length] s.pendingQueue, r.id ∈ failing)) ∧
    (s.store.requests.rows.length ≤ calls.length →
      ∀ r ∈ s.store.requests.rows, r.id ∉ failing → s.store.isPending r = true →
        (r ∈ (run (step engine limit) s calls).ensured ↔
          blockers (fun r => decide (r.id ∈ failing)) s.pendingQueue r < max limit 1)) := by
  constructor
  · exact ensured_within_iff hnew hall
  · intro hcalls r hr hfine hpending
    have hqueued := mem_pendingQueue.2 ⟨hr, hpending⟩
    have hfine' : decide (r.id ∈ failing) = false := decide_eq_false hfine
    rw [mem_ensured_iff_left hnew hall hqueued hfine]
    constructor
    · intro hleft
      by_contra hblocked
      exact hleft (mem_retry_iterate_of_blocked _ (pendingQueue_nodup s) hqueued hfine'
        (not_lt.1 hblocked))
    · intro hfew
      refine notMem_retry_iterate (pendingQueue_nodup s) hqueued hfine' hfew ?_
      calc (s.pendingQueue.takeWhile (· ≠ r)).length < s.pendingQueue.length :=
            length_takeWhile_lt (by rwa [take_length])
        _ ≤ s.store.requests.rows.length := by
            rw [pendingQueue, (perm_sortByKey _ _).length_eq]
            exact length_filter_le _ _
        _ ≤ calls.length := hcalls

end ReconcileOperations

/-! ### Samples -/

namespace Sample

def operationRequest (id : Uuid) : OperationRequest :=
  .new id 1 ⟨"deployment", id⟩ ⟨"cloud.deployment", "2"⟩ "\x7b\x7d" (seconds id)

def operationEngine : FlowOperationEngine := ⟨some "build-1", toString⟩

/-- The workflow engine refuses the runs of a set and reports the others as running. -/
def flowAnswers (failing : Finset Uuid) : FlowAnswers := fun request =>
  if request.id ∈ failing then
    { found := .error (.runConflict "run exists with another input"), started := fun _ _ => .ok ()
      settled := .error (.other "not started"), now := 0, settled_runId := by intro _ h; cases h }
  else
    { found := .error (.runNotFound "no run"), started := fun _ _ => .ok ()
      settled := .ok
        { runId := .operation request.id
          spec := FlowOperationEngine.expectedSpec request "build-1"
          status := .running, output := none, error := none, lastSequence := 1 }
      now := 0, settled_runId := by intro _ h; cases h; rfl }

/-- The handler with the requests that have been enqueued and no projection yet. -/
def enqueued (ids : List Uuid) : ReconcileOperations where
  store := { requests := (ids.map operationRequest).foldl Table.insert .empty, projections := .empty }
  refreshCursor := none
  ensured := []

end Sample

/-- Three starts, of which the first fails, in batches of two. -/
theorem ReconcileOperations.reconciles_iff_threeStarts :
    ((∀ r ∈ (Sample.enqueued [1, 2, 3]).store.requests.rows, r.id ∉ ({1} : Finset Uuid) →
        (Sample.enqueued [1, 2, 3]).store.isPending r = true ∨
          (Sample.enqueued [1, 2, 3]).store.isActive r = true →
        r ∈ (run (step operationEngine 2) (Sample.enqueued [1, 2, 3])
          (replicate 3 (flowAnswers {1}))).ensured) ↔
      ∀ r ∈ (retry (max 2 1) fun r : OperationRequest =>
        decide (r.id ∈ ({1} : Finset Uuid)))^[3] (Sample.enqueued [1, 2, 3]).pendingQueue,
          r.id ∈ ({1} : Finset Uuid)) ∧
    (operationRequest 3 ∈ (run (step operationEngine 2)
        (Sample.enqueued [1, 2, 3]) (replicate 3 (flowAnswers {1}))).ensured ↔
      blockers (fun r => decide (r.id ∈ ({1} : Finset Uuid)))
        (Sample.enqueued [1, 2, 3]).pendingQueue (operationRequest 3) < max 2 1) := by
  obtain ⟨hbound, hreached⟩ := @reconciles_iff operationEngine 2 {1}
    (Sample.enqueued [1, 2, 3]) (replicate 3 (flowAnswers {1})) rfl (by decide +kernel)
  exact ⟨hbound (by decide +kernel), hreached (by decide +kernel) (operationRequest 3)
    (by decide +kernel) (by decide +kernel) (by decide +kernel)⟩

/-- Two starts, of which the first fails, in batches of one: the second is not reached by the three
calls, nor by any number of them. -/
theorem ReconcileOperations.failing_start_blocks_next :
    Allowed (step operationEngine 1) (FailsExactly operationEngine 1 {1})
        (Sample.enqueued [1, 2]) (replicate 3 (flowAnswers {1})) ∧
      (Sample.enqueued [1, 2]).store.requests.rows.length ⌈/⌉ max 1 1 + 1 = 3 ∧
      (Sample.enqueued [1, 2]).store.isPending (operationRequest 2) = true ∧
      operationRequest 2 ∉ (run (step operationEngine 1) (Sample.enqueued [1, 2])
        (replicate 3 (flowAnswers {1}))).ensured ∧
      ∀ n, Allowed (step operationEngine 1) (FailsExactly operationEngine 1 {1})
          (Sample.enqueued [1, 2]) (replicate n (flowAnswers {1})) →
        operationRequest 2 ∉ (run (step operationEngine 1)
          (Sample.enqueued [1, 2]) (replicate n (flowAnswers {1}))).ensured := by
  refine ⟨by decide +kernel, by decide +kernel, by decide +kernel, by decide +kernel, ?_⟩
  intro n hall hreached
  have hqueued : operationRequest 2 ∈ (Sample.enqueued [1, 2]).pendingQueue := by
    decide +kernel
  rw [mem_ensured_iff hall hqueued (by decide)] at hreached
  rcases hreached with hold | hleft
  · cases hold
  · exact hleft (mem_retry_iterate_of_blocked _ (pendingQueue_nodup _) hqueued
      (by decide) (by decide +kernel))

end A3SCloud
