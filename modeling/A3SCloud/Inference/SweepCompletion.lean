import A3SCloud.Inference.UsageDatabase
import A3SCloud.Inference.Sample

/-!
# When a sweep completes

A sweep of the database deletes the events that the watermark of their Gateway has passed in their
own boot epoch, but it takes an organization for completed only if no old event at all is left. The
two agree as long as a Gateway stays in one epoch.

* `OrganizationRows.sweep_completed_iff` compares the two for one organization, and
  `UsageDatabase.sweep_completes_iff` for every organization that a sweep inspects.
* `UsageDatabase.sweep_ok` says that in a reachable database a sweep fails only if a count overflows.
-/

namespace A3SCloud

open Checks List InferenceUsageRetentionState OrganizationRows Sample Table

namespace OrganizationRows

variable {rows : OrganizationRows} {boundary : ℤ} {remaining : ℕ}

/-- Nothing is left before a boundary. -/
structure NothingBefore (rows : OrganizationRows) (boundary : ℤ) : Prop where
  events : ∀ event ∈ rows.events.rows, boundary ≤ event.acceptedAt
  facts : ∀ fact ∈ rows.projections.facts.rows, boundary ≤ fact.startedAt
  rollups : ∀ rollup ∈ rows.projections.rollups.rows, dateNaive boundary ≤ rollup.key.day

theorem isCompleted_iff : rows.isCompleted boundary = true ↔ rows.NothingBefore boundary := by
  simp only [isCompleted, Bool.and_eq_true, Bool.not_eq_true', any_eq_false,
    decide_eq_true_eq, not_lt]
  exact ⟨fun ⟨⟨he, hf⟩, hr⟩ => ⟨he, hf, hr⟩, fun h => ⟨⟨h.events, h.facts⟩, h.rollups⟩⟩

/-- Every event that was accepted before a boundary has been passed by the watermark of its Gateway
in its own epoch. -/
def EventsPassed (rows : OrganizationRows) (boundary : ℤ) : Prop :=
  ∀ event ∈ rows.events.rows, event.acceptedAt < boundary →
    ∃ tip, rows.watermark event.gatewayId = some tip ∧
      tip.bootEpoch = event.cursor.bootEpoch ∧ event.cursor.sequence ≤ tip.sequence

/-- When budget is left, all facts and rollups before the boundary are gone, and of the events
exactly those that may be deleted. -/
theorem deleteBefore_of_left (h : 0 < (rows.deleteBefore boundary remaining).2.1) :
    (∀ event ∈ (rows.deleteBefore boundary remaining).1.events.rows,
        event ∈ rows.events.rows ∧ rows.deletable boundary event = false) ∧
      (∀ event ∈ rows.events.rows, rows.deletable boundary event = false →
        event ∈ (rows.deleteBefore boundary remaining).1.events.rows) ∧
      (∀ fact ∈ (rows.deleteBefore boundary remaining).1.projections.facts.rows,
        boundary ≤ fact.startedAt) ∧
      ∀ rollup ∈ (rows.deleteBefore boundary remaining).1.projections.rollups.rows,
        dateNaive boundary ≤ rollup.key.day := by
  simp only [deleteBefore] at h ⊢
  refine ⟨fun event he => ⟨mem_of_mem_dropFirst he, not_of_mem_dropFirst ?_ he⟩,
    fun event he hnot => mem_dropFirst_of_not he hnot, fun fact hf => ?_,
    fun rollup hr => ?_⟩
  · omega
  · have hold := not_of_mem_dropFirst (by omega) hf
    simpa using hold
  · have hold := not_of_mem_dropFirst (by omega) hr
    simpa using hold

theorem deletable_eq_true_iff {event : UsageEventRow} : rows.deletable boundary event = true ↔
    event.acceptedAt < boundary ∧ ∃ tip, rows.watermark event.gatewayId = some tip ∧
      tip.bootEpoch = event.cursor.bootEpoch ∧ event.cursor.sequence ≤ tip.sequence := by
  simp [deletable]

theorem nothingBefore_iff (h : 0 < (rows.deleteBefore boundary remaining).2.1) :
    (rows.deleteBefore boundary remaining).1.NothingBefore boundary ↔
      rows.EventsPassed boundary := by
  obtain ⟨hevents, hkept, hfacts, hrollups⟩ := deleteBefore_of_left h
  constructor
  · intro hnothing event hevent hold
    by_contra hnot
    have hkeep := hkept event hevent (by
      rw [← Bool.not_eq_true, deletable_eq_true_iff]
      exact fun hdelete => hnot hdelete.2)
    exact absurd (hnothing.events event hkeep) (not_le.2 hold)
  · intro hpassed
    refine ⟨fun event hevent => ?_, hfacts, hrollups⟩
    obtain ⟨hmem, hnot⟩ := hevents event hevent
    by_contra hold
    rw [not_le] at hold
    rw [← Bool.not_eq_true, deletable_eq_true_iff] at hnot
    exact hnot ⟨hold, hpassed event hmem hold⟩

variable {inspected : Inspected} {next : OrganizationRows} {batch : InferenceUsageBatch}
  {acceptedAt : ℤ} {inserted : List Uuid}

variable {sweep : InferenceUsageRetentionSweep} {codec : UsageCodec}

/-- What the sweep of an organization does. -/
theorem sweep_ok (h : rows.sweep sweep remaining = .ok inspected) :
    inspected.before = rows ∧
      inspected.remaining = (rows.deleteBefore (rows.retention.boundary sweep) remaining).2.1 ∧
      inspected.completed = (rows.deleteBefore (rows.retention.boundary sweep)
        remaining).1.isCompleted (rows.retention.boundary sweep) ∧
      ∃ total version, inspected.after =
        { (rows.deleteBefore (rows.retention.boundary sweep) remaining).1 with
          retention := rows.retention.swept sweep inspected.completed total version } := by
  simp only [OrganizationRows.sweep, ok_rules] at h
  obtain ⟨total, -, version, -, -, -, -, rfl⟩ := h
  exact ⟨rfl, rfl, rfl, total, version, rfl⟩

/-- An organization with budget left is completed exactly when its old events were passed. -/
theorem sweep_completed_iff (h : rows.sweep sweep remaining = .ok inspected)
    (hleft : 0 < inspected.remaining) :
    (inspected.after.NothingBefore (rows.retention.boundary sweep) ∧ inspected.completed = true ∧
      inspected.after.retention.recordsDeletedBefore = some (rows.retention.boundary sweep)) ↔
      rows.EventsPassed (rows.retention.boundary sweep) := by
  obtain ⟨-, hremaining, hcompleted, total, version, hafter⟩ := sweep_ok h
  rw [hremaining] at hleft
  rw [← nothingBefore_iff hleft]
  have hsame : inspected.after.NothingBefore (rows.retention.boundary sweep) ↔
      (rows.deleteBefore (rows.retention.boundary sweep) remaining).1.NothingBefore
        (rows.retention.boundary sweep) := by
    rw [hafter]
    exact ⟨fun h => ⟨h.events, h.facts, h.rollups⟩, fun h => ⟨h.events, h.facts, h.rollups⟩⟩
  rw [hsame]
  refine ⟨And.left, fun hnothing => ?_⟩
  have htrue : inspected.completed = true := by
    rw [hcompleted]
    exact isCompleted_iff.2 hnothing
  refine ⟨hnothing, htrue, ?_⟩
  rw [hafter, htrue]
  rfl

/-! ### A sweep succeeds -/

theorem deleteBefore_count_le (rows : OrganizationRows) (boundary : ℤ) (remaining : ℕ) :
    (rows.deleteBefore boundary remaining).2.2 ≤ remaining := by
  have htake : ∀ {α κ : Type} {key : α → κ} (t : Table key) (p : α → Bool) (le : α → α → Prop)
      [DecidableRel le] (limit : ℕ), (t.firstRows p le limit).length ≤ limit := by
    intro α κ key t p le _ limit
    rw [firstRows]
    exact length_take_le _ _
  simp only [deleteBefore]
  have hevents := htake rows.events (rows.deletable boundary) eventOrder remaining
  have hfacts := htake rows.projections.facts
    (fun fact => decide (fact.startedAt < boundary)) factOrder
    (remaining - (rows.events.firstRows (rows.deletable boundary) eventOrder remaining).length)
  have hrollups := htake rows.projections.rollups
    (fun rollup => decide (rollup.key.day < dateNaive boundary)) rollupOrder
    (remaining - (rows.events.firstRows (rows.deletable boundary) eventOrder remaining).length -
      (rows.projections.facts.firstRows (fun fact => decide (fact.startedAt < boundary)) factOrder
        (remaining - (rows.events.firstRows (rows.deletable boundary) eventOrder
          remaining).length)).length)
  omega

theorem not_goesBack {old new : Option ℤ} (h : ∀ before, old = some before →
    ∃ after, new = some after ∧ before ≤ after) : ¬ goesBack old new := by
  rintro ⟨before, hbefore, hall⟩
  obtain ⟨after, hafter, hle⟩ := h before hbefore
  have hlt := hall after hafter
  omega

/-- The retention state that a sweep leaves is accepted by the table. -/
theorem updateRetention_swept {state : InferenceUsageRetentionState} (hstate : state.Valid)
    (hsweep : sweep.Valid) (hdue : state.nextScanAt ≤ sweep.sweptAt) (completed : Bool) {total : ℕ}
    (htotal : state.totalDeletedRecords ≤ total) :
    updateRetention state (state.swept sweep completed total (state.version + 1)) = .ok () := by
  simp only [updateRetention, ok_rules, validate_ok_iff]
  refine ⟨?_, hstate.after_sweep hsweep hdue completed total _⟩
  have hswept : ∀ swept, state.lastSweptAt = some swept → swept ≤ sweep.sweptAt :=
    fun swept h => (hstate.nextScan swept h).le.trans hdue
  rintro (h | h | h | h | ⟨-, h⟩ | h | h | h | h)
  · exact h rfl
  · refine not_goesBack (fun current hcurrent => ⟨_, rfl, ?_⟩) h
    exact le_boundary hcurrent
  · refine not_goesBack (fun deleted hdeleted => ?_) h
    cases completed with
    | true =>
      obtain ⟨available, havailable, hle⟩ := hstate.deleted deleted hdeleted
      exact ⟨_, rfl, hle.trans (le_boundary havailable)⟩
    | false => exact ⟨deleted, hdeleted, le_rfl⟩
  · exact absurd h (not_lt.2 htotal)
  · cases h
  · exact not_goesBack (fun swept h => ⟨_, rfl, hswept swept h⟩) h
  · refine not_goesBack (fun time htime => ?_) h
    cases completed with
    | true =>
      obtain ⟨-, swept, h, hle⟩ := hstate.completed time htime
      exact ⟨_, rfl, hle.trans (hswept swept h)⟩
    | false => exact ⟨time, htime, le_rfl⟩
  · exact absurd h (not_lt.2 (hdue.trans hsweep.nextScan.le))
  · exact h rfl

/-- The counts of an organization have room for a sweep. -/
def CountsFit (rows : OrganizationRows) : Prop :=
  rows.retention.totalDeletedRecords + maximumInferenceUsageRetentionBatchSize ≤ i64Max ∧
    rows.retention.version + 1 ≤ i64Max

theorem sweep_returns (hstate : rows.retention.Valid) (hsweep : sweep.Valid)
    (hdue : rows.retention.nextScanAt ≤ sweep.sweptAt)
    (hbudget : remaining ≤ maximumInferenceUsageRetentionBatchSize) (hfit : rows.CountsFit) :
    ∃ inspected, rows.sweep sweep remaining = .ok inspected ∧
      inspected.remaining ≤ maximumInferenceUsageRetentionBatchSize := by
  have hcount := rows.deleteBefore_count_le (rows.retention.boundary sweep) remaining
  have hleft : (rows.deleteBefore (rows.retention.boundary sweep) remaining).2.1 ≤ remaining := by
    simp only [deleteBefore]
    omega
  obtain ⟨htotal, hversion⟩ := hfit
  have hsum := (Nat.add_le_add_left (hcount.trans hbudget) rows.retention.totalDeletedRecords).trans
    htotal
  have hlt : i64Max < 2 ^ 64 := by decide
  simp only [OrganizationRows.sweep, ok_rules, toI64, not_lt]
  refine ⟨_, ⟨_, checkedAdd_eq_some.2 ⟨rfl, ?_⟩, _, checkedAdd_eq_some.2 ⟨rfl, ?_⟩, ?_, hversion,
    updateRetention_swept hstate hsweep hdue _ (Nat.le_add_right _ _), rfl⟩, hleft.trans hbudget⟩
  · exact hsum.trans_lt hlt
  · exact hversion.trans_lt hlt
  · exact hsum

/-! ### A batch leaves the retention state alone -/

theorem upsertAll_keeps {α : Type}
    {upsert : OrganizationRows → α → Except RepositoryError OrganizationRows}
    {P : OrganizationRows → Prop}
    (hstep : ∀ rows a next, P rows → upsert rows a = .ok next → P next) {list : List α}
    (hrows : P rows) (h : upsertAll upsert rows list = .ok next) : P next := by
  induction list generalizing rows with
  | nil =>
    cases h
    exact hrows
  | cons a list ih =>
    simp only [upsertAll, bind_ok_iff] at h
    obtain ⟨middle, hmiddle, hrest⟩ := h
    exact ih (hstep rows a middle hrows hmiddle) hrest

theorem insertEvents_retention {records : List InferenceUsageRecord}
    (h : rows.insertEvents codec batch acceptedAt inserted records = .ok next) :
    next.retention = rows.retention := by
  induction records generalizing rows with
  | nil =>
    cases h
    rfl
  | cons record records ih =>
    rw [insertEvents] at h
    split_ifs at h
    · simp only [ok_rules, insertEvent] at h
      obtain ⟨payload, -, _, ⟨-, -, -, -, rfl⟩, hrest⟩ := h
      have hkept := ih hrest
      exact hkept
    · exact ih h

theorem persistUsageProjections_retention
    (h : rows.persistUsageProjections codec batch inserted = .ok next) :
    next.retention = rows.retention := by
  rw [persistUsageProjections] at h
  split_ifs at h
  · cases h
    rfl
  · simp only [ok_rules] at h
    obtain ⟨ids, -, -, middle, hfacts, hrollups⟩ := h
    have hmiddle : middle.retention = rows.retention :=
      upsertAll_keeps (P := fun r => r.retention = rows.retention) (by
        intro r fact next hr hnext
        simp only [upsertRequestFact, ok_rules] at hnext
        obtain ⟨-, -, -, -, -, rfl⟩ := hnext
        exact hr) rfl hfacts
    exact upsertAll_keeps (P := fun r => r.retention = rows.retention) (by
      intro r rollup next hr hnext
      simp only [upsertDailyRollupDelta, ok_rules] at hnext
      obtain ⟨_, -, _, -, _, -, _, -, _, -, _, -, _, -, _, -, _, -, rfl⟩ := hnext
      exact hr) hmiddle hrollups

theorem acceptBatch_retention {receipt : InferenceUsageReceipt}
    (h : rows.acceptBatch codec batch acceptedAt = .ok (receipt, next)) :
    next.retention = rows.retention := by
  simp only [acceptBatch, ok_rules] at h
  obtain ⟨applied, -, h⟩ := h
  split_ifs at h
  · simp only [pure_ok_iff, Prod.mk.injEq] at h
    rw [← h.2]
    rfl
  · simp only [ok_rules, updateWatermark, Prod.mk.injEq] at h
    obtain ⟨events, hevents, _, ⟨-, rfl⟩, projected, hprojected, -, rfl⟩ := h
    have hkept := insertEvents_retention hevents
    rw [persistUsageProjections_retention hprojected]
    exact hkept

end OrganizationRows

/-! ### The repository -/

namespace UsageDatabase

variable {codec : UsageCodec} {database : UsageDatabase} {sweep : InferenceUsageRetentionSweep}

def Sound (database : UsageDatabase) : Prop :=
  ∀ rows ∈ database.organizations.rows, rows.retention.Valid

/-- The organizations that are inspected are swept one after the other, as long as budget is
left. -/
theorem inspect_ok {remaining : ℕ} {due : List OrganizationRows}
    {inspected : List Inspected} (h : inspect sweep remaining due = .ok inspected) :
    (inspected.map (·.before)).Sublist due ∧
      ∀ i ∈ inspected, ∃ budget, i.before.sweep sweep budget = .ok i := by
  induction due generalizing remaining inspected with
  | nil =>
    cases h
    simp
  | cons rows due ih =>
    rw [inspect] at h
    by_cases hremaining : remaining = 0
    · rw [if_pos hremaining] at h
      cases h
      simp
    · rw [if_neg hremaining] at h
      simp only [ok_rules] at h
      obtain ⟨first, hfirst, others, hothers, rfl⟩ := h
      obtain ⟨hsublist, hall⟩ := ih hothers
      have hbefore := (OrganizationRows.sweep_ok hfirst).1
      refine ⟨?_, forall_mem_cons.2 ⟨⟨remaining, by rw [hbefore]; exact hfirst⟩, hall⟩⟩
      rw [map_cons, hbefore]
      exact hsublist.cons_cons rows

theorem due_spec (database : UsageDatabase) (sweep : InferenceUsageRetentionSweep) :
    ((database.due sweep).map (·.organizationId)).Nodup ∧
      ∀ rows ∈ database.due sweep,
        rows ∈ database.organizations.rows ∧ rows.retention.nextScanAt ≤ sweep.sweptAt := by
  constructor
  · have hfilter : ((database.organizations.rows.filter
        (fun rows => decide (rows.retention.nextScanAt ≤ sweep.sweptAt))).map
          (·.organizationId)).Nodup :=
      database.organizations.nodup.sublist (filter_sublist.map _)
    have hsorted := (Perm.map (·.organizationId) (perm_insertionSort
      (fun a b : OrganizationRows => a.retention.nextScanAt < b.retention.nextScanAt ∨
        (a.retention.nextScanAt = b.retention.nextScanAt ∧ a.organizationId ≤ b.organizationId))
      (database.organizations.rows.filter
        (fun rows => decide (rows.retention.nextScanAt ≤ sweep.sweptAt))))).nodup_iff.2 hfilter
    exact hsorted.sublist ((take_sublist _ _).map _)
  · intro rows hrows
    have hmem := mem_of_mem_take hrows
    rw [mem_insertionSort, mem_filter] at hmem
    exact ⟨hmem.1, by simpa using hmem.2⟩

variable {next : UsageDatabase}

theorem Sound.accept (h : database.Sound) {write : AcceptInferenceUsageBatchWrite}
    {receipt : InferenceUsageReceipt}
    (haccept : database.acceptUsageBatch codec write = .ok (receipt, next)) : next.Sound := by
  simp only [acceptUsageBatch, ok_rules, AcceptInferenceUsageBatchWrite.validate, not_or] at haccept
  obtain ⟨⟨-, hid, -⟩, ⟨receipt', rows⟩, hrows, hnext⟩ := haccept
  simp only [Prod.mk.injEq] at hnext
  obtain ⟨-, rfl⟩ := hnext
  intro stored hstored
  rcases mem_insert.1 hstored with rfl | ⟨hstored, -⟩
  · rw [acceptBatch_retention hrows, organization]
    cases hget : database.organizations.get? write.organizationId with
    | none => exact valid_initial hid
    | some before => exact h before (get?_eq_some_iff.1 hget).1
  · exact h stored hstored

theorem Sound.sweepRetention (h : database.Sound) {report : InferenceUsageRetentionReport}
    (hsweep : database.sweepRetention sweep = .ok (report, next)) : next.Sound := by
  simp only [UsageDatabase.sweepRetention, inspected, ok_rules, Prod.mk.injEq] at hsweep
  obtain ⟨hvalid, inspected, ⟨-, hinspect⟩, -, rfl⟩ := hsweep
  obtain ⟨hsublist, hall⟩ := inspect_ok hinspect
  intro stored hstored
  rcases mem_insertAll hstored with hstored | hstored
  · obtain ⟨i, hi, rfl⟩ := mem_map.1 hstored
    obtain ⟨budget, hswept⟩ := hall i hi
    obtain ⟨-, -, -, total, version, hafter⟩ := OrganizationRows.sweep_ok hswept
    obtain ⟨hmem, hdue⟩ := (database.due_spec sweep).2 i.before
      (hsublist.subset (mem_map.2 ⟨i, hi, rfl⟩))
    rw [hafter]
    exact (h i.before hmem).after_sweep
      (InferenceUsageRetentionSweep.valid_of_validate hvalid) hdue _ _ _
  · exact h stored hstored

variable {organizationIds : List Uuid}

theorem mem_initial {rows : OrganizationRows}
    (h : rows ∈ (initial organizationIds).organizations.rows) :
    ∃ organizationId ∈ organizationIds, OrganizationRows.initial organizationId = rows := by
  rcases mem_insertAll h with h | h
  · exact mem_map.1 h
  · cases h

theorem sound_run (hids : 0 ∉ organizationIds) (calls : List UsageStore.Call) :
    (Runs.run (step codec) (initial organizationIds) calls).Sound := by
  refine Runs.invariant_all (fun database call h => ?_) (fun rows hrows => ?_) calls
  · cases call with
    | accept => exact Runs.afterResult_of h fun _ _ haccept => h.accept haccept
    | sweep => exact Runs.afterResult_of h fun _ _ hsweep => h.sweepRetention hsweep
  · obtain ⟨organizationId, hmem, rfl⟩ := mem_initial hrows
    exact valid_initial fun hzero => hids (hzero ▸ hmem)

/-- In a sound database a sweep fails only if a count overflows. -/
theorem sweep_ok (hsound : database.Sound) (hvalid : sweep.validate = .ok ())
    (hfit : ∀ rows ∈ database.organizations.rows, rows.CountsFit) :
    ∃ result, database.sweepRetention sweep = .ok result := by
  have hsweep := InferenceUsageRetentionSweep.valid_of_validate hvalid
  have hdue := (database.due_spec sweep).2
  have hinspect : ∀ (due : List OrganizationRows) (remaining : ℕ),
      remaining ≤ maximumInferenceUsageRetentionBatchSize →
      (∀ rows ∈ due, rows ∈ database.organizations.rows ∧
        rows.retention.nextScanAt ≤ sweep.sweptAt) →
      ∃ inspected, inspect sweep remaining due = .ok inspected := by
    intro due
    induction due with
    | nil => exact fun _ _ _ => ⟨[], rfl⟩
    | cons rows due ih =>
      intro remaining hbudget hall
      obtain ⟨⟨hmem, hscan⟩, hrest⟩ := forall_mem_cons.1 hall
      by_cases hremaining : remaining = 0
      · exact ⟨[], by rw [inspect, if_pos hremaining]⟩
      · obtain ⟨first, hfirst, hleft⟩ := sweep_returns (hsound rows hmem) hsweep
          hscan hbudget (hfit rows hmem)
        obtain ⟨others, hothers⟩ := ih first.remaining hleft hrest
        refine ⟨first :: others, ?_⟩
        rw [inspect, if_neg hremaining]
        simp only [ok_rules]
        exact ⟨first, hfirst, others, hothers, rfl⟩
  obtain ⟨inspected, hinspected⟩ := hinspect _ _ hsweep.recordsBound hdue
  simp only [sweepRetention, UsageDatabase.inspected, ok_rules, checkAll_ok_iff, validate_ok_iff]
  exact ⟨_, hvalid, inspected, ⟨fun rows hrows => hsound rows (hdue rows hrows).1, hinspected⟩, rfl⟩

/-- In every reachable database, an organization that a sweep inspects with budget left afterwards is
completed exactly when every event that was accepted before the new boundary has been passed by the
watermark of its Gateway in its own boot epoch. A sweep fails only if a count overflows. -/
theorem sweep_completes_iff (codec : UsageCodec)
    (hids : 0 ∉ organizationIds) (calls : List UsageStore.Call)
    {sweep : InferenceUsageRetentionSweep} (hvalid : sweep.validate = .ok ()) :
    let database := Runs.run (step codec) (initial organizationIds) calls
    ((∀ rows ∈ database.organizations.rows, rows.CountsFit) →
      ∃ result, database.sweepRetention sweep = .ok result) ∧
    ∀ report next, database.sweepRetention sweep = .ok (report, next) →
      ∃ inspected, database.inspected sweep = .ok inspected ∧
        report.inspectedOrganizations = inspected.length ∧
        report.completedOrganizations = (inspected.filter (·.completed)).length ∧
        ∀ i ∈ inspected, 0 < i.remaining →
          database.organizations.get? i.before.organizationId = some i.before ∧
          next.organizations.get? i.before.organizationId = some i.after ∧
          ((i.after.NothingBefore (i.before.retention.boundary sweep) ∧ i.completed = true ∧
              i.after.retention.recordsDeletedBefore =
                some (i.before.retention.boundary sweep)) ↔
            i.before.EventsPassed (i.before.retention.boundary sweep)) := by
  intro database
  have hsound : database.Sound := sound_run hids calls
  refine ⟨fun hfit => sweep_ok hsound hvalid hfit, fun report next hsweep => ?_⟩
  simp only [sweepRetention, ok_rules, Prod.mk.injEq] at hsweep
  obtain ⟨-, inspected, hinspected, rfl, rfl⟩ := hsweep
  refine ⟨inspected, hinspected, rfl, rfl, fun i hi hleft => ?_⟩
  simp only [UsageDatabase.inspected, ok_rules] at hinspected
  obtain ⟨hsublist, hall⟩ := inspect_ok hinspected.2
  obtain ⟨hnodup, hdue⟩ := database.due_spec sweep
  obtain ⟨budget, hswept⟩ := hall i hi
  have hbefore : i.before ∈ database.organizations.rows :=
    (hdue i.before (hsublist.subset (mem_map.2 ⟨i, hi, rfl⟩))).1
  -- No organization is inspected twice, so its rows are those its own sweep has left.
  have hkey : ∀ j ∈ inspected, j.after.organizationId = j.before.organizationId := by
    intro j hj
    obtain ⟨budget, hswept⟩ := hall j hj
    obtain ⟨-, -, -, total, version, hafter⟩ := OrganizationRows.sweep_ok hswept
    rw [hafter]
    rfl
  have hkeys : (inspected.map (·.before.organizationId)).Nodup := by
    have hsub := hnodup.sublist (hsublist.map (·.organizationId))
    rwa [map_map] at hsub
  have hinj : ∀ a ∈ inspected.map (·.after), ∀ b ∈ inspected.map (·.after),
      a.organizationId = b.organizationId → a = b := by
    intro a ha b hb heq
    obtain ⟨j, hj, rfl⟩ := mem_map.1 ha
    obtain ⟨k, hk, rfl⟩ := mem_map.1 hb
    rw [hkey j hj, hkey k hk] at heq
    rw [inj_on_of_nodup_map hkeys hj hk heq]
  refine ⟨get?_eq_some_iff.2 ⟨hbefore, rfl⟩, ?_,
    sweep_completed_iff hswept hleft⟩
  rw [← hkey i hi]
  exact get?_insertAll_of_mem hinj (mem_map.2 ⟨i, hi, rfl⟩)

/-- The sweep of the samples: everything before the thousandth second. -/
def sampleSweep : InferenceUsageRetentionSweep where
  cutoff := seconds 1000
  sweptAt := seconds 1000
  nextScanAt := seconds 2000
  policyDigest := .sha256 1
  organizationBatchSize := 10
  recordBatchSize := 10

def oneEpoch : List UsageStore.Call :=
  [.accept ⟨1, 1, usageBatch none [⟨1, 1⟩, ⟨1, 2⟩], seconds 10⟩]

/-- The calls of a Gateway that starts again after its first record. -/
def restarted : List UsageStore.Call :=
  [.accept ⟨1, 1, usageBatch none [⟨1, 1⟩], seconds 10⟩,
    .accept ⟨1, 1, usageBatch (some ⟨1, 1⟩) [⟨2, 1⟩], seconds 20⟩]

/-- Without a restart the organization is inspected and completed. -/
theorem sweep_completes_one_epoch : ∃ inspected,
    (Runs.run (step startedCodec) (initial [1]) oneEpoch).inspected sampleSweep =
        .ok inspected ∧
      inspected.length = 1 ∧ (inspected.filter (·.completed)).length = 1 ∧
      ∀ i ∈ inspected, 0 < i.remaining →
        ((i.after.NothingBefore (i.before.retention.boundary sampleSweep) ∧ i.completed = true ∧
            i.after.retention.recordsDeletedBefore =
              some (i.before.retention.boundary sampleSweep)) ↔
          i.before.EventsPassed (i.before.retention.boundary sampleSweep)) := by
  obtain ⟨⟨report, next⟩, hsweep, hlength, hcompleted⟩ : ∃ result,
      (Runs.run (step startedCodec) (initial [1]) oneEpoch).sweepRetention sampleSweep =
        .ok result ∧ result.1.inspectedOrganizations = 1 ∧ result.1.completedOrganizations = 1 := by
    decide +kernel
  obtain ⟨inspected, hinspected, hinspectedLength, hcompletedLength, hall⟩ :=
    (sweep_completes_iff startedCodec (by decide) oneEpoch (by decide +kernel)).2 report next
      hsweep
  exact ⟨inspected, hinspected, hinspectedLength.symm.trans hlength,
    hcompletedLength.symm.trans hcompleted, fun i hi hleft => (hall i hi hleft).2.2⟩

/-- After a restart the event of the first epoch is never deleted: the sweep has most of its budget
left and does not complete. The repository in memory deletes the event and completes. -/
theorem restart_not_completed :
    sampleSweep.validate = .ok () ∧
      (∃ inspected, (Runs.run (step startedCodec) (initial [1]) restarted).inspected sampleSweep =
        .ok inspected ∧ inspected.map (fun i => (i.remaining, i.completed)) = [(8, false)]) ∧
      (∃ result, (Runs.run (step startedCodec) (initial [1]) restarted).sweepRetention sampleSweep =
        .ok result ∧ result.1.completedOrganizations = 0 ∧
          (result.2.organization 1).events.rows.map (fun event => (event.cursor, event.acceptedAt)) =
            [(⟨1, 1⟩, seconds 10)]) ∧
      ((Runs.run (UsageStore.step startedCodec) UsageStore.empty restarted).sweepRetention
        sampleSweep).1 = .ok ⟨1, 1, 3⟩ := by
  decide +kernel

end UsageDatabase

end A3SCloud
