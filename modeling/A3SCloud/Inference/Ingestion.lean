import A3SCloud.Inference.Spool
import A3SCloud.Inference.SweepCompletion

/-!
# Ingestion by honest Gateways

The Gateways of an organization send their spools in batches, batches and receipts get lost, and
sweeps delete what is too old. A batch is refused when a sweep has deleted the fact of a request
whose later events it carries, and with it everything behind it in the spool.

* `OrganizationRows.acceptBatch_new` and `OrganizationRows.acceptBatch_held` say when a stretch of a
  spool is accepted.
* `Ingestion` is the system, `Ingestion.Sends` what an honest Gateway does and `Ingestion.Retained`
  the condition under which it is never stuck.
* `Ingestion.IngestedTo` is the invariant: the watermark of a Gateway is between what it knows to be
  acknowledged and what it has sent, and the requests that started there have their facts unless
  they are too old.
-/

namespace A3SCloud

open Checks List Function OrganizationRows Sample Table UsageDatabase

/-! ### When a stretch of a spool is accepted -/

namespace OrganizationRows

variable {codec : UsageCodec} {rows : OrganizationRows} {batch : InferenceUsageBatch}
  {acceptedAt : ℤ} {spool : Uuid → List InferenceUsageRecord}
  {sent rest : List InferenceUsageRecord}

/-- Events that are new and recent enough are inserted. -/
theorem insertEvents_returns {inserted : List Uuid} {records : List InferenceUsageRecord}
    (hin : ∀ record ∈ records, record.eventId ∈ inserted)
    (hrecords : ∀ record ∈ records, record.validate codec = .ok () ∧
      record.payloadBytes codec ≠ 0 ∧ record.cursor.sequence ≤ i64Max)
    (hretained : ∀ retained, rows.retention.recordsAvailableFrom = some retained →
      retained ≤ canonicalTimestamp acceptedAt)
    (hnew : ∀ record ∈ records, rows.events.get? (batch.gatewayId, record.eventId) = none)
    (hnodup : (records.map (·.eventId)).Nodup) :
    ∃ events, rows.insertEvents codec batch acceptedAt inserted records =
        .ok { rows with events := events } ∧
      ∀ row ∈ events.rows, row ∈ rows.events.rows ∨
        (row.gatewayId = batch.gatewayId ∧ row.eventId ∈ records.map (·.eventId)) := by
  induction records generalizing rows with
  | nil => exact ⟨rows.events, rfl, fun row h => .inl h⟩
  | cons record records ih =>
    obtain ⟨hfirst, hin⟩ := forall_mem_cons.1 hin
    obtain ⟨⟨hvalid, hnonempty, hsequence⟩, hrecords⟩ := forall_mem_cons.1 hrecords
    obtain ⟨hnone, hnew⟩ := forall_mem_cons.1 hnew
    rw [map_cons, nodup_cons] at hnodup
    obtain ⟨bytes, hbytes, hlength⟩ := InferenceUsageRecord.payload_of_validate hvalid
    let row : UsageEventRow := ⟨batch.gatewayId, record.eventId, record.payloadSha256, bytes,
      record.cursor, batch.batchId, canonicalTimestamp acceptedAt⟩
    have hrow : rows.insertEvent row = .ok { rows with events := rows.events.insert row } := by
      simp only [insertEvent, ok_rules, toI64, not_lt]
      refine ⟨hsequence, ?_, ?_, ?_, trivial⟩
      · rintro ⟨retained, hsome, hlt⟩
        exact absurd (hretained retained hsome) (not_le.2 hlt)
      · rintro (rfl : bytes = [])
        exact hnonempty hlength.symm
      · rw [show rows.events.get? row.key = none from hnone]
        simp
    obtain ⟨events, hevents, hall⟩ := @ih { rows with events := rows.events.insert row } hin
      hrecords hretained
      (fun r hr => by
        rw [get?_insert, if_neg, hnew r hr]
        intro heq
        exact hnodup.1 (mem_map.2 ⟨r, hr, congrArg Prod.snd heq⟩))
      hnodup.2
    refine ⟨events, ?_, fun stored hstored => ?_⟩
    · rw [insertEvents, if_pos hfirst]
      simp only [ok_rules]
      exact ⟨bytes, hbytes, _, hrow, hevents⟩
    · rcases hall stored hstored with hold | ⟨hgateway, hid⟩
      · rcases mem_insert.1 hold with rfl | ⟨hold, -⟩
        · exact .inr ⟨rfl, mem_cons_self⟩
        · exact .inl hold
      · exact .inr ⟨hgateway, mem_cons_of_mem _ hid⟩

theorem requestIds_returns {inserted : List Uuid} {records : List InferenceUsageRecord}
    (hin : ∀ record ∈ records, record.eventId ∈ inserted)
    (hdecodes : ∀ record ∈ records, ∃ event, record.event codec = .ok event) :
    ∃ ids, requestIds codec inserted records = .ok ids ∧ ∀ id, id ∈ ids ↔
      ∃ record ∈ records, ∃ event, record.event codec = .ok event ∧
        event.request.requestId = id := by
  induction records with
  | nil => exact ⟨[], rfl, by simp⟩
  | cons record records ih =>
    obtain ⟨hfirst, hin⟩ := forall_mem_cons.1 hin
    obtain ⟨⟨event, hevent⟩, hdecodes⟩ := forall_mem_cons.1 hdecodes
    obtain ⟨ids, hids, hall⟩ := ih hin hdecodes
    refine ⟨event.request.requestId :: ids, ?_, fun id => ?_⟩
    · rw [requestIds, if_pos hfirst]
      simp only [ok_rules]
      exact ⟨event, hevent, ids, hids, rfl⟩
    · rw [mem_cons, hall]
      simp [hevent, eq_comm]

/-- What a batch needs of the tables in order to be projected. -/
structure Projectable (codec : UsageCodec) (spool : Uuid → List InferenceUsageRecord)
    (rows : OrganizationRows) (batch : InferenceUsageBatch) (sent : List InferenceUsageRecord) :
    Prop where
  facts : ∀ record ∈ batch.records, ∀ event, record.event codec = .ok event →
    ∀ fact, rows.projections.facts.get? event.request.requestId = some fact →
      fact.StartedIn codec (spool batch.gatewayId)
  started : ∀ record ∈ batch.records, ∀ event, record.event codec = .ok event →
    ∀ first ∈ sent, ∀ begun, first.Starts codec event.request.requestId begun →
      (rows.projections.facts.get? event.request.requestId).isSome
  recent : ∀ retained, rows.retention.recordsAvailableFrom = some retained →
    ∀ record ∈ batch.records, ∀ event, record.event codec = .ok event →
      ∀ first ∈ spool batch.gatewayId, ∀ begun,
        first.Starts codec event.request.requestId begun →
          retained ≤ canonicalTimestamp begun.occurredAt
  fits : ∀ key counter, (rows.projections.rollup key).counter counter +
    (batch.records.map (·.weight codec)).sum ≤ i64Max

variable {record : InferenceUsageRecord}

theorem Projectable.retained {fact : InferenceUsageRequestFact}
    (hready : rows.Projectable codec spool batch sent)
    (hfact : fact.StartedIn codec (spool batch.gatewayId)) (hrecord : record ∈ batch.records)
    {event : InferenceUsageLifecycleEvent} (hevent : record.event codec = .ok event)
    (hid : event.request.requestId = fact.requestId) {retained : ℤ}
    (hretained : rows.retention.recordsAvailableFrom = some retained) :
    retained ≤ canonicalTimestamp fact.startedAt := by
  obtain ⟨first, hfirst, begun, hstarts, -, htime⟩ := hfact.starts
  rw [htime]
  rw [← hid] at hstarts
  exact hready.recent retained hretained record hrecord event hevent first hfirst begun hstarts

/-- The projections from which a batch that is ready starts. -/
theorem Projectable.loaded (hready : rows.Projectable codec spool batch sent) {ids : List Uuid}
    (hrequests : ∀ id, id ∈ ids ↔ ∃ record ∈ batch.records, ∃ event,
      record.event codec = .ok event ∧ event.request.requestId = id) :
    Projected codec (spool batch.gatewayId) ids sent 0 ⟨rows.loadFacts ids, .empty⟩ := by
  refine ⟨fun fact hfact => ?_, fun first hfirst id hid begun hstarts => ?_, fun key counter => ?_⟩
  · obtain ⟨hrow, hid⟩ := mem_filter.1 hfact
    have hid := of_decide_eq_true hid
    obtain ⟨record, hr, event, hevent, hrequest⟩ := (hrequests _).1 hid
    exact ⟨hready.facts record hr event hevent fact
      (get?_eq_some_iff.2 ⟨hrow, hrequest.symm⟩), hid⟩
  · obtain ⟨record, hr, event, hevent, rfl⟩ := (hrequests _).1 hid
    obtain ⟨fact, hfact⟩ := Option.isSome_iff_exists.1
      (hready.started record hr event hevent first hfirst begun hstarts)
    have hkey := (get?_eq_some_iff.1 hfact).2
    rw [loadFacts, get?_filter, hfact, Option.filter_some, if_pos]
    · rfl
    · rw [hkey]
      exact decide_eq_true hid
  · simp [UsageProjections.rollup]

/-- The records of a batch that is ready are projected, and the projections stored. -/
theorem persistUsageProjections_returns (h : HonestSpools codec spool)
    (hstorable : StorableSpools codec spool)
    (hbatch : HonestSpools.Stretch codec spool batch sent rest)
    (hready : rows.Projectable codec spool batch sent) :
    ∃ facts rollups, rows.persistUsageProjections codec batch (batch.records.map (·.eventId)) =
        .ok { rows with projections := ⟨facts, rollups⟩ } ∧
      (∀ fact ∈ facts.rows, fact ∈ rows.projections.facts.rows ∨
        fact.StartedIn codec (spool batch.gatewayId)) ∧
      (∀ id, (rows.projections.facts.get? id).isSome → (facts.get? id).isSome) ∧
      ∀ first ∈ batch.records, ∀ id begun, first.Starts codec id begun → (facts.get? id).isSome := by
  have hmem : ∀ record ∈ batch.records, record ∈ spool batch.gatewayId := fun record hr => by
    rw [hbatch.split]
    exact mem_append_left _ (mem_append_right _ hr)
  have hin : ∀ record ∈ batch.records, record.eventId ∈ batch.records.map (·.eventId) :=
    fun record hr => mem_map.2 ⟨record, hr, rfl⟩
  obtain ⟨ids, hids, hrequests⟩ := requestIds_returns hin
    fun record hr => h.decodes _ record (hmem record hr)
  have hweight : (batch.records.map (·.weight codec)).sum ≤ i64Max :=
    (Nat.le_add_left _ _).trans (hready.fits ⟨0, 0, 0, .models⟩ .requests)
  have hmax : i64Max ≤ u64Max := by decide
  have hloaded := hready.loaded hrequests
  obtain ⟨next, hnext, hprojected⟩ := h.projected hstorable hbatch.gatewayId hloaded hbatch.split hin
    (fun record hr event hevent => (hrequests _).2 ⟨record, hr, event, hevent, rfl⟩) (by omega)
  have hfacts := @upsertRequestFacts_returns rows codec (spool batch.gatewayId) next.facts.rows
    (fun fact hfact => by
      obtain ⟨hstarted, hid⟩ := hprojected.facts fact hfact
      obtain ⟨record, hr, event, hevent, hrequest⟩ := (hrequests _).1 hid
      exact ⟨hstarted, fun retained hretained =>
        hready.retained hstarted hr hevent hrequest hretained⟩)
  obtain ⟨rollups, hrollups⟩ := @upsertDailyRollupDeltas_returns
    { rows with projections := { rows.projections with
      facts := rows.projections.facts.insertAll (next.facts.rows.map storedFact) } }
    next.rollups.rows next.rollups.nodup (fun delta hdelta counter => by
      have hdelta : next.rollup delta.key = delta := by
        rw [UsageProjections.rollup, get?_eq_some_iff.2 ⟨hdelta, rfl⟩]
        rfl
      have hle := hprojected.counters delta.key counter
      rw [hdelta] at hle
      have hfits := hready.fits delta.key counter
      exact (Nat.add_le_add_left (by omega) _).trans hfits)
  refine ⟨rows.projections.facts.insertAll (next.facts.rows.map storedFact), rollups, ?_,
    fun fact hfact => ?_, fun id hid => isSome_insertAll (.inr hid),
    fun first hfirst id begun hstarts => ?_⟩
  · rw [persistUsageProjections, if_neg (by simpa using hbatch.nonempty)]
    simp only [ok_rules]
    refine ⟨ids, hids, ?_⟩
    rw [hnext]
    exact ⟨rfl, _, hfacts, hrollups⟩
  · rcases mem_insertAll hfact with hstored | hold
    · obtain ⟨projected, hp, rfl⟩ := mem_map.1 hstored
      exact .inr (hprojected.facts projected hp).1.stored
    · exact .inl hold
  · refine isSome_insertAll (.inl ?_)
    obtain ⟨hevent, hkind, hrequest⟩ := hstarts
    have hid : id ∈ ids := (hrequests id).2 ⟨first, hfirst, begun, hevent, hrequest⟩
    obtain ⟨fact, hfact⟩ := Option.isSome_iff_exists.1 (hprojected.started first
      (mem_append_right _ hfirst) id hid begun ⟨hevent, hkind, hrequest⟩)
    obtain ⟨hrow, hkey⟩ := get?_eq_some_iff.1 hfact
    rw [map_map]
    exact mem_map.2 ⟨fact, hrow, hkey⟩

theorem watermark_ensureWatermark (rows : OrganizationRows) (gatewayId other : Uuid) (time : ℤ) :
    (rows.ensureWatermark gatewayId time).watermark other = rows.watermark other := by
  simp only [watermark, ensureWatermark, get?_insertIfAbsent]
  split_ifs with hsame
  · cases rows.watermarks.get? other with
    | none => rfl
    | some => rfl
  · rfl

/-- What a batch needs of the tables in order to be accepted after the watermark. -/
structure Ready (codec : UsageCodec) (spool : Uuid → List InferenceUsageRecord)
    (rows : OrganizationRows) (batch : InferenceUsageBatch) (acceptedAt : ℤ)
    (sent : List InferenceUsageRecord) : Prop extends rows.Projectable codec spool batch sent where
  watermark : rows.watermark batch.gatewayId = batch.after
  events : ∀ record ∈ batch.records, rows.events.get? (batch.gatewayId, record.eventId) = none
  accepted : ∀ retained, rows.retention.recordsAvailableFrom = some retained →
    retained ≤ canonicalTimestamp acceptedAt

/-- What an accepted batch does to the tables. -/
structure Accepted (codec : UsageCodec) (spool : Uuid → List InferenceUsageRecord)
    (batch : InferenceUsageBatch) (rows next : OrganizationRows) : Prop where
  retention : next.retention = rows.retention
  watermark : next.watermark batch.gatewayId = batch.records.getLast?.map (·.cursor)
  others : ∀ other, other ≠ batch.gatewayId → next.watermark other = rows.watermark other
  events : ∀ row ∈ next.events.rows, row ∈ rows.events.rows ∨
    (row.gatewayId = batch.gatewayId ∧ row.eventId ∈ batch.records.map (·.eventId))
  facts : ∀ fact ∈ next.projections.facts.rows, fact ∈ rows.projections.facts.rows ∨
    fact.StartedIn codec (spool batch.gatewayId)
  kept : ∀ id, (rows.projections.facts.get? id).isSome → (next.projections.facts.get? id).isSome
  started : ∀ first ∈ batch.records, ∀ id begun, first.Starts codec id begun →
    (next.projections.facts.get? id).isSome

/-- A stretch of a spool that comes after the watermark is accepted if the tables are ready for
it. -/
theorem acceptBatch_new (h : HonestSpools codec spool) (hstorable : StorableSpools codec spool)
    (hbatch : HonestSpools.Stretch codec spool batch sent rest)
    (hready : rows.Ready codec spool batch acceptedAt sent) {last : InferenceUsageRecord}
    (hlast : batch.records.getLast? = some last) :
    ∃ next, rows.acceptBatch codec batch acceptedAt =
        .ok (batch.receipt (some last.cursor) [], next) ∧ Accepted codec spool batch rows next := by
  have hvalid := h.batch_valid hstorable hbatch
  have hmem : ∀ record ∈ batch.records, record ∈ spool batch.gatewayId := fun record hr => by
    rw [hbatch.split]
    exact mem_append_left _ (mem_append_right _ hr)
  have hdecodes : ∀ record ∈ batch.records, ∃ event, record.event codec = .ok event :=
    fun record hr => h.decodes _ record (hmem record hr)
  have hnodup : (batch.records.map (·.eventId)).Nodup := by
    refine (h.eventIds batch.gatewayId).sublist (List.Sublist.map _ ?_)
    rw [hbatch.split]
    exact (sublist_append_right _ _).trans (sublist_append_left _ _)
  let ensured := rows.ensureWatermark batch.gatewayId acceptedAt
  have hwatermark : (ensured.ledger batch).watermark = batch.after :=
    (watermark_ensureWatermark rows _ _ _).trans hready.watermark
  have hdigests : ∀ record ∈ batch.records,
      (ensured.ledger batch).events.get? record.eventId = none := by
    intro record hr
    rw [ledger, digests, get?_insertAll_of_not_mem, get?_empty]
    intro digest hdigest heq
    obtain ⟨row, hrow, rfl⟩ := mem_map.1 hdigest
    obtain ⟨hrow, hof⟩ := mem_filter.1 hrow
    obtain ⟨hgateway, -⟩ := of_decide_eq_true hof
    exact get?_eq_none_iff.1 (hready.events record hr) row hrow (Prod.ext hgateway heq)
  obtain ⟨digests, happly⟩ := applyInferenceUsageBatch_new hvalid hdecodes hwatermark.symm
    (fun front record back hsplit => h.continues hstorable hbatch hsplit) hdigests hnodup hlast
  obtain ⟨events, hevents, hrows⟩ := @insertEvents_returns codec ensured batch acceptedAt
    (batch.records.map (·.eventId)) batch.records
    (fun record hr => mem_map.2 ⟨record, hr, rfl⟩)
    (fun record hr => by
      obtain ⟨event, hevent⟩ := hdecodes record hr
      have hstored := hstorable _ record (hmem record hr) event hevent
      exact ⟨h.valid_of_mem (hmem record hr), hstored.payload, hstored.sequence⟩)
    hready.accepted hready.events hnodup
  have hsequence : last.cursor.sequence ≤ i64Max := by
    have hl := mem_of_getLast? hlast
    obtain ⟨event, hevent⟩ := hdecodes last hl
    exact (hstorable _ last (hmem last hl) event hevent).sequence
  let moved : OrganizationRows := { ensured with
    events := events
    watermarks := ensured.watermarks.insert
      ⟨batch.gatewayId, some last.cursor, canonicalTimestamp acceptedAt⟩ }
  have hmoved : ({ ensured with events := events } : OrganizationRows).updateWatermark
      batch.gatewayId (some last.cursor) acceptedAt = .ok moved := by
    simp only [updateWatermark, checkWatermark, ok_rules, toI64, not_lt]
    exact ⟨hsequence, rfl⟩
  obtain ⟨facts, rollups, hpersist, hfacts, hkept, hstarted⟩ :=
    @persistUsageProjections_returns codec moved batch spool sent rest h hstorable hbatch
      ⟨hready.facts, hready.started, hready.recent, hready.fits⟩
  refine ⟨{ moved with projections := ⟨facts, rollups⟩ }, ?_,
    ⟨rfl, ?_, fun other hother => ?_, hrows, hfacts, hkept, hstarted⟩⟩
  · have hnew : batch.after ≠ some last.cursor := by
      obtain ⟨front, hsplit⟩ := getLast?_eq_some_iff.1 hlast
      exact (hvalid.follows front last [] hsplit).notAfter
    simp only [acceptBatch, ok_rules]
    refine ⟨_, happly, ?_⟩
    rw [if_neg (fun hsame => hnew (hwatermark.symm.trans hsame.1.symm))]
    simp only [ok_rules]
    exact ⟨_, hevents, _, hmoved, _, hpersist, rfl⟩
  · rw [hlast, OrganizationRows.watermark, get?_insert_self]
    rfl
  · rw [OrganizationRows.watermark, get?_insert, if_neg hother]
    exact watermark_ensureWatermark rows _ _ _

/-- A stretch of a spool that was accepted up to one of its records is acknowledged up to there. -/
theorem acceptBatch_held (h : HonestSpools codec spool) (hstorable : StorableSpools codec spool)
    (hbatch : HonestSpools.Stretch codec spool batch sent rest) (hmem : record ∈ batch.records)
    (hwatermark : rows.watermark batch.gatewayId = some record.cursor) :
    rows.acceptBatch codec batch acceptedAt = .ok (batch.receipt (some record.cursor) [],
      rows.ensureWatermark batch.gatewayId acceptedAt) := by
  have hheld := @applyInferenceUsageBatch_held codec
    ((rows.ensureWatermark batch.gatewayId acceptedAt).ledger batch) batch
    (h.batch_valid hstorable hbatch)
    (fun r hr => h.decodes _ r (by
      rw [hbatch.split]
      exact mem_append_left _ (mem_append_right _ hr))) record hmem
    ((watermark_ensureWatermark rows _ _ _).trans hwatermark)
  simp only [acceptBatch, ok_rules]
  refine ⟨_, hheld, ?_⟩
  rw [if_pos ⟨rfl, rfl⟩]
  rfl

end OrganizationRows

/-! ### The system -/

/-- What becomes of a batch that a Gateway sends. -/
inductive UsageFate
  | batchLost
  | receiptLost
  | answered
  deriving DecidableEq

/-- The database, and how far each Gateway has come in its spool: how many records it knows to be
acknowledged, and how many it has sent after them without an answer. -/
structure Ingestion where
  database : UsageDatabase
  acknowledged : Uuid → ℕ
  pending : Uuid → ℕ

namespace Ingestion

inductive Action
  | send (gatewayId : Uuid) (count : ℕ) (batchId authenticatedNodeId : Uuid) (acceptedAt : ℤ)
      (fate : UsageFate)
  | sweep (sweep : InferenceUsageRetentionSweep)
  deriving DecidableEq

def initial (organizationIds : List Uuid) : Ingestion :=
  ⟨.initial organizationIds, fun _ => 0, fun _ => 0⟩

variable (codec : UsageCodec) (spool : Uuid → List InferenceUsageRecord) (organizationId : Uuid)

variable (system : Ingestion)

/-- The next records of a spool after the acknowledged ones. -/
def batch (gatewayId : Uuid) (count : ℕ) (batchId : Uuid) : InferenceUsageBatch where
  schema := .current
  gatewayId := gatewayId
  batchId := batchId
  after := ((spool gatewayId).take (system.acknowledged gatewayId)).getLast?.map (·.cursor)
  records := ((spool gatewayId).drop (system.acknowledged gatewayId)).take count

def answer (gatewayId : Uuid) (count : ℕ) (batchId authenticatedNodeId : Uuid)
    (acceptedAt : ℤ) : Except RepositoryError (InferenceUsageReceipt × UsageDatabase) :=
  system.database.acceptUsageBatch codec
    ⟨organizationId, authenticatedNodeId, system.batch spool gatewayId count batchId, acceptedAt⟩

/-- How many records an acknowledged position stands for. -/
def position (records : List InferenceUsageRecord) : Option InferenceUsageCursor → ℕ
  | none => 0
  | some cursor => (records.map (·.cursor)).idxOf cursor + 1

/-- A Gateway that gets no receipt keeps the batch. -/
def wait (gatewayId : Uuid) (count : ℕ) : Ingestion :=
  { system with pending := update system.pending gatewayId count }

def step : Action → Ingestion
  | .send gatewayId count batchId authenticatedNodeId acceptedAt fate =>
    let answer :=
      system.answer codec spool organizationId gatewayId count batchId authenticatedNodeId acceptedAt
    match fate with
    | .batchLost => system.wait gatewayId count
    | .receiptLost =>
      { system with database := Runs.afterResult system.database answer }.wait gatewayId count
    | .answered =>
      match answer with
      | .ok (receipt, database) =>
        { database := database
          acknowledged := update system.acknowledged gatewayId
            (position (spool gatewayId) receipt.acknowledgedThrough)
          pending := update system.pending gatewayId 0 }
      | .error _ => system.wait gatewayId count
  | .sweep sweep =>
    { system with
      database := Runs.afterResult system.database (system.database.sweepRetention sweep) }

/-- What an honest Gateway does: it sends at least one record, and at least those that it has sent
without an answer, within the limits of a batch. A sweep passes its check. -/
def Sends : Action → Prop
  | .send gatewayId count batchId authenticatedNodeId _ _ =>
    gatewayId ≠ 0 ∧ batchId ≠ 0 ∧ authenticatedNodeId ≠ 0 ∧
      0 < count ∧ count ≤ inferenceUsageMaxRecords ∧ system.pending gatewayId ≤ count ∧
      system.acknowledged gatewayId + count ≤ (spool gatewayId).length ∧
      (((system.batch spool gatewayId count batchId).records).map
        (·.payloadBytes codec)).sum ≤ inferenceUsageMaxBatchBytes
  | .sweep sweep => sweep.validate = .ok ()

/-- No request of a Gateway with this identifier has started before the boundary. -/
def Recent (available : Option ℤ) (records : List InferenceUsageRecord) (requestId : Uuid) : Prop :=
  ∀ retained, available = some retained → ∀ first ∈ records, ∀ begun,
    first.Starts codec requestId begun → retained ≤ canonicalTimestamp begun.occurredAt

/-- The condition on a batch that reaches the database and comes after the watermark: it and the
requests it is about are not older than the boundary of the organization, and the counters of the
rollups have room for it. -/
def Retained : Action → Prop
  | .send gatewayId count batchId _ acceptedAt fate =>
    let rows := system.database.organization organizationId
    let batch := system.batch spool gatewayId count batchId
    fate ≠ .batchLost → rows.watermark gatewayId = batch.after →
      (∀ retained, rows.retention.recordsAvailableFrom = some retained →
        retained ≤ canonicalTimestamp acceptedAt) ∧
      (∀ record ∈ batch.records, ∀ event, record.event codec = .ok event →
        Recent codec rows.retention.recordsAvailableFrom (spool gatewayId)
          event.request.requestId) ∧
      ∀ key counter, (rows.projections.rollup key).counter counter +
        (batch.records.map (·.weight codec)).sum ≤ i64Max
  | .sweep _ => True

end Ingestion

/-! ### The invariant -/

namespace OrganizationRows

variable {codec : UsageCodec} {spool : Uuid → List InferenceUsageRecord} {rows : OrganizationRows}
  {through : Uuid → ℕ}

/-- The tables when so many records of each spool have gone through them. -/
structure Through (codec : UsageCodec) (spool : Uuid → List InferenceUsageRecord)
    (through : Uuid → ℕ) (rows : OrganizationRows) : Prop where
  watermark : ∀ g, rows.watermark g = ((spool g).take (through g)).getLast?.map (·.cursor)
  events : ∀ row ∈ rows.events.rows,
    row.eventId ∈ ((spool row.gatewayId).take (through row.gatewayId)).map (·.eventId)
  facts : ∀ fact ∈ rows.projections.facts.rows, ∃ g, fact.StartedIn codec (spool g)
  started : ∀ g, ∀ first ∈ (spool g).take (through g), ∀ id begun, first.Starts codec id begun →
    Ingestion.Recent codec rows.retention.recordsAvailableFrom (spool g) id →
      (rows.projections.facts.get? id).isSome

theorem through_initial (organizationId : Uuid) :
    (initial organizationId).Through codec spool (fun _ => 0) where
  watermark g := by simp [watermark, initial]
  events row hrow := by cases hrow
  facts fact hfact := by cases hfact
  started g first hfirst := by simp at hfirst

theorem Through.ensureWatermark (h : rows.Through codec spool through) (gatewayId : Uuid)
    (time : ℤ) : (rows.ensureWatermark gatewayId time).Through codec spool through :=
  ⟨fun g => (watermark_ensureWatermark rows gatewayId g time).trans (h.watermark g), h.events,
    h.facts, h.started⟩

variable {count : ℕ}

/-- The records of an accepted batch have gone through the tables. -/
theorem Through.accepted {batch : InferenceUsageBatch} {next : OrganizationRows}
    (h : rows.Through codec spool through) (hnext : Accepted codec spool batch rows next)
    (hrecords : batch.records =
      ((spool batch.gatewayId).drop (through batch.gatewayId)).take count)
    (hnonempty : batch.records ≠ []) :
    next.Through codec spool (update through batch.gatewayId
      (through batch.gatewayId + count)) := by
  have htake : (spool batch.gatewayId).take (through batch.gatewayId + count) =
      (spool batch.gatewayId).take (through batch.gatewayId) ++ batch.records := by
    rw [take_add, hrecords]
  refine ⟨fun g => ?_, fun row hrow => ?_, fun fact hfact => ?_,
    fun g first hfirst id begun hstarts hrecent => ?_⟩
  · by_cases hg : g = batch.gatewayId
    · subst hg
      rw [update_self, htake, getLast?_append_of_ne_nil _ hnonempty, hnext.watermark]
    · rw [update_of_ne hg, hnext.others g hg, h.watermark g]
  · by_cases hg : row.gatewayId = batch.gatewayId
    · rw [hg, update_self, htake, map_append, mem_append]
      rcases hnext.events row hrow with hold | ⟨-, hnew⟩
      · rw [← hg]
        exact .inl (h.events row hold)
      · exact .inr hnew
    · rw [update_of_ne hg]
      rcases hnext.events row hrow with hold | ⟨hsame, -⟩
      · exact h.events row hold
      · exact absurd hsame hg
  · rcases hnext.facts fact hfact with hold | hnew
    · exact h.facts fact hold
    · exact ⟨_, hnew⟩
  · rw [hnext.retention] at hrecent
    by_cases hg : g = batch.gatewayId
    · subst hg
      rw [update_self, htake] at hfirst
      rcases mem_append.1 hfirst with hold | hnew
      · exact hnext.kept id (h.started _ first hold id begun hstarts hrecent)
      · exact hnext.started first hnew id begun hstarts
    · rw [update_of_ne hg] at hfirst
      exact hnext.kept id (h.started g first hfirst id begun hstarts hrecent)

theorem Through.startedIn (h : rows.Through codec spool through) (hhonest : HonestSpools codec spool)
    {g : Uuid} {first : InferenceUsageRecord} (hfirst : first ∈ spool g)
    {event : InferenceUsageLifecycleEvent} (hevent : first.event codec = .ok event)
    {fact : InferenceUsageRequestFact} (hfact : fact ∈ rows.projections.facts.rows)
    (hid : fact.requestId = event.request.requestId) : fact.StartedIn codec (spool g) := by
  obtain ⟨g', hstarted⟩ := h.facts fact hfact
  obtain ⟨other, hother, begun, ⟨hbegun, -, hrequest⟩, -⟩ := hstarted.starts
  obtain ⟨rfl, -⟩ := hhonest.descriptors g' g other first begun event hother hfirst hbegun hevent
    (hrequest.trans hid)
  exact hstarted

/-- A sweep deletes only facts that are too old. -/
theorem Through.sweep (h : rows.Through codec spool through) (hhonest : HonestSpools codec spool)
    {sweep : InferenceUsageRetentionSweep}
    {remaining : ℕ} {inspected : Inspected} (hsweep : rows.sweep sweep remaining = .ok inspected) :
    inspected.after.Through codec spool through := by
  obtain ⟨-, -, -, total, version, hafter⟩ := sweep_ok hsweep
  rw [hafter]
  refine ⟨h.watermark, fun row hrow => h.events row (mem_of_mem_dropFirst hrow),
    fun fact hfact => h.facts fact (mem_of_mem_dropFirst hfact),
    fun g first hfirst id begun hstarts hrecent => ?_⟩
  have hboundary := hrecent _ rfl
  obtain ⟨fact, hfact⟩ := Option.isSome_iff_exists.1 (h.started g first hfirst id begun hstarts
    (fun retained hretained other hother begun' hstarts' =>
      (InferenceUsageRetentionState.le_boundary hretained).trans
        (hboundary other hother begun' hstarts')))
  obtain ⟨hrow, hkey⟩ := get?_eq_some_iff.1 hfact
  have hmem := mem_of_mem_take hfirst
  have hstarted := h.startedIn hhonest hmem hstarts.1 hrow (hkey.trans hstarts.2.2.symm)
  obtain ⟨other, hother, begun', hstarts', -, htime⟩ := hstarted.starts
  rw [hkey] at hstarts'
  have hkept : rows.retention.boundary sweep ≤ fact.startedAt := by
    have hle := hboundary other hother begun' hstarts'
    rw [← htime] at hle
    exact hle.trans (canonicalTimestamp_le _)
  refine Option.isSome_iff_exists.2 ⟨fact, get?_eq_some_iff.2 ⟨?_, hkey⟩⟩
  exact mem_dropFirst_of_not hrow (decide_eq_false (not_lt.2 hkept))

/-- The tables are ready for the next records if these are recent enough. -/
theorem Through.ready (h : rows.Through codec spool through) (hhonest : HonestSpools codec spool)
    {batch : InferenceUsageBatch} {acceptedAt : ℤ} (hrecords : batch.records =
      ((spool batch.gatewayId).drop (through batch.gatewayId)).take count)
    (hafter : batch.after =
      ((spool batch.gatewayId).take (through batch.gatewayId)).getLast?.map (·.cursor))
    (haccepted : ∀ retained, rows.retention.recordsAvailableFrom = some retained →
      retained ≤ canonicalTimestamp acceptedAt)
    (hrecent : ∀ record ∈ batch.records, ∀ event, record.event codec = .ok event →
      Ingestion.Recent codec rows.retention.recordsAvailableFrom (spool batch.gatewayId)
        event.request.requestId)
    (hfits : ∀ key counter, (rows.projections.rollup key).counter counter +
      (batch.records.map (·.weight codec)).sum ≤ i64Max) :
    rows.Ready codec spool batch acceptedAt
      ((spool batch.gatewayId).take (through batch.gatewayId)) := by
  have hdrop : ∀ record ∈ batch.records,
      record ∈ (spool batch.gatewayId).drop (through batch.gatewayId) := fun record hr => by
    rw [hrecords] at hr
    exact mem_of_mem_take hr
  refine ⟨⟨fun record hr event hevent fact hfact => ?_, fun record hr event hevent first hfirst begun
    hstarts => ?_, fun retained hretained record hr event hevent => ?_, hfits⟩,
    (h.watermark _).trans hafter.symm, fun record hr => ?_, haccepted⟩
  · obtain ⟨hrow, hkey⟩ := get?_eq_some_iff.1 hfact
    exact h.startedIn hhonest (mem_of_mem_drop (hdrop record hr)) hevent hrow hkey
  · exact h.started _ first hfirst _ begun hstarts (hrecent record hr event hevent)
  · exact hrecent record hr event hevent retained hretained
  · -- The events that are stored are those of earlier records of the spool.
    rw [get?_eq_none_iff]
    intro row hrow hkey
    have hgateway : row.gatewayId = batch.gatewayId := congrArg Prod.fst hkey
    have hid : row.eventId = record.eventId := congrArg Prod.snd hkey
    have hstored := h.events row hrow
    have hnodup := hhonest.eventIds batch.gatewayId
    rw [hgateway] at hstored
    rw [← take_append_drop (through batch.gatewayId) (spool batch.gatewayId), map_append,
      nodup_append'] at hnodup
    exact hnodup.2.2 hstored (mem_map.2 ⟨record, hdrop record hr, hid.symm⟩)

end OrganizationRows

/-! ### Every batch is accepted -/

namespace Ingestion

variable {codec : UsageCodec} {spool : Uuid → List InferenceUsageRecord} {organizationId : Uuid}
  {system : Ingestion}

/-- The records of a Gateway that have gone through the tables are at least those that it knows to
be acknowledged, and at most those that it has sent. -/
structure IngestedTo (codec : UsageCodec) (spool : Uuid → List InferenceUsageRecord)
    (organizationId : Uuid) (system : Ingestion) (through : Uuid → ℕ) : Prop where
  acknowledged : ∀ g, system.acknowledged g ≤ through g
  sent : ∀ g, through g ≤ system.acknowledged g + system.pending g
  spooled : ∀ g, through g ≤ (spool g).length
  rows : (system.database.organization organizationId).Through codec spool through

variable {g batchId : Uuid} {count : ℕ} {acceptedAt : ℤ} {fate : UsageFate}
  {record : InferenceUsageRecord}

/-- A position in a spool stands for the records up to it. -/
theorem position_last (h : HonestSpools codec spool) {n : ℕ} {last : InferenceUsageRecord}
    (hn : n ≤ (spool g).length) (hlast : ((spool g).take n).getLast? = some last) :
    position (spool g) (some last.cursor) = n := by
  obtain ⟨front, hfront⟩ := getLast?_eq_some_iff.1 hlast
  have hsplit : spool g = front ++ last :: (spool g).drop n := by
    rw [append_cons, ← hfront, take_append_drop]
  obtain ⟨horderly, hextends⟩ := h.extends_of_split hsplit
  have hfresh := hextends.fresh horderly
  have hlength : front.length + 1 = n := by
    have hlen := congrArg length hfront
    rw [length_take, length_append, length_singleton, Nat.min_eq_left hn] at hlen
    exact hlen.symm
  rw [position, hsplit, map_append, map_cons, idxOf_append_of_notMem hfresh,
    idxOf_cons_self, length_map, Nat.add_zero, hlength]

theorem stretch {nodeId : Uuid}
    (hsends : system.Sends codec spool (.send g count batchId nodeId acceptedAt fate)) :
    HonestSpools.Stretch codec spool (system.batch spool g count batchId)
      ((spool g).take (system.acknowledged g)) ((spool g).drop (system.acknowledged g + count)) := by
  obtain ⟨hgateway, hbatch, -, hpos, hcount, -, hlength, hpayload⟩ := hsends
  have hrecords : (system.batch spool g count batchId).records.length = count := by
    rw [batch, length_take, length_drop]
    omega
  refine ⟨?_, rfl, rfl, hgateway, hbatch, ?_, by rw [hrecords]; exact hcount, hpayload⟩
  · simp only [batch]
    rw [← take_add, take_append_drop]
  · intro hempty
    rw [hempty] at hrecords
    simp at hrecords
    omega

theorem organizationId_organization (database : UsageDatabase) (organizationId : Uuid) :
    (database.organization organizationId).organizationId = organizationId := by
  rw [organization]
  cases hget : database.organizations.get? organizationId with
  | none => rfl
  | some => exact (get?_eq_some_iff.1 hget).2

theorem answer_of_acceptBatch (h : HonestSpools codec spool)
    (hstorable : StorableSpools codec spool) (horganization : organizationId ≠ 0) {nodeId : Uuid}
    (hsends : system.Sends codec spool (.send g count batchId nodeId acceptedAt fate))
    {receipt : InferenceUsageReceipt} {next : OrganizationRows}
    (haccept : (system.database.organization organizationId).acceptBatch codec
      (system.batch spool g count batchId) acceptedAt = .ok (receipt, next)) :
    ∃ database, system.answer codec spool organizationId g count batchId nodeId acceptedAt =
      .ok (receipt, database) ∧ database.organization organizationId = next := by
  have hvalid := h.batch_valid hstorable (stretch hsends)
  refine ⟨⟨system.database.organizations.insert next⟩, ?_, ?_⟩
  · simp only [answer, acceptUsageBatch, AcceptInferenceUsageBatchWrite.validate, ok_rules, not_or,
      InferenceUsageBatch.validate_ok_iff]
    exact ⟨⟨hvalid, horganization, hsends.2.2.1⟩, _, haccept, rfl⟩
  · have hid : next.organizationId = organizationId := by
      rw [OrganizationRows.organizationId, acceptBatch_retention haccept]
      exact organizationId_organization system.database organizationId
    rw [organization, get?_insert, if_pos hid.symm]
    rfl

/-- A receipt acknowledges a later record of the batch, and the records up to it have gone through
the tables. -/
structure Acknowledges (codec : UsageCodec) (spool : Uuid → List InferenceUsageRecord)
    (organizationId : Uuid) (system : Ingestion) (g : Uuid) (count : ℕ) (through : Uuid → ℕ)
    (receipt : InferenceUsageReceipt) (database : UsageDatabase) (n : ℕ)
    (last : InferenceUsageRecord) : Prop where
  acknowledged : receipt.acknowledgedThrough = some last.cursor
  fresh : last ∈ (spool g).drop (system.acknowledged g)
  later : system.acknowledged g < n
  within : n ≤ system.acknowledged g + count
  last : ((spool g).take n).getLast? = some last
  rows : (database.organization organizationId).Through codec spool (update through g n)

section answer

variable {through : Uuid → ℕ} {g batchId nodeId : Uuid} {count : ℕ} {acceptedAt : ℤ}
  {fate : UsageFate}

section Accepted

variable (h : HonestSpools codec spool) (hstorable : StorableSpools codec spool)
  (horganization : organizationId ≠ 0)
  (hingested : system.IngestedTo codec spool organizationId through)
  (hsends : system.Sends codec spool (.send g count batchId nodeId acceptedAt fate))

include h hstorable horganization hingested hsends

/-- A batch of which nothing has gone through the tables is acknowledged as a whole. -/
theorem answer_new (hfate : fate ≠ .batchLost) (hretained : system.Retained codec spool organizationId
      (.send g count batchId nodeId acceptedAt fate)) (hnone : system.acknowledged g = through g) :
    ∃ receipt database n last, system.answer codec spool organizationId g count batchId nodeId
        acceptedAt = .ok (receipt, database) ∧
      system.Acknowledges codec spool organizationId g count through receipt database n last := by
  have hstretch := stretch hsends
  have hpos := hsends.2.2.2.1
  have hrecords : (system.batch spool g count batchId).records =
      ((spool g).drop (through g)).take count := by rw [← hnone]; rfl
  have hafter : (system.batch spool g count batchId).after =
      ((spool g).take (through g)).getLast?.map (·.cursor) := by rw [← hnone]; rfl
  obtain ⟨haccepted, hrecent, hfits⟩ :=
    hretained hfate ((hingested.rows.watermark g).trans hafter.symm)
  have hready := hingested.rows.ready h hrecords hafter haccepted hrecent hfits
  rw [show (spool (system.batch spool g count batchId).gatewayId).take (through
    (system.batch spool g count batchId).gatewayId) =
      (spool g).take (system.acknowledged g) by rw [hnone]; rfl] at hready
  have hlast := getLast?_eq_some_getLast hstretch.nonempty
  obtain ⟨next, haccept, hnext⟩ :=
    acceptBatch_new h hstorable hstretch hready hlast
  obtain ⟨database, hanswer, hrows⟩ :=
    answer_of_acceptBatch h hstorable horganization hsends haccept
  refine ⟨_, database, system.acknowledged g + count, _, hanswer, rfl,
    mem_of_mem_take (mem_of_getLast? hlast), by omega, le_rfl, ?_, ?_⟩
  · rw [take_add]
    exact (getLast?_append_of_ne_nil _ hstretch.nonempty).trans hlast
  · rw [hrows, hnone]
    exact hingested.rows.accepted hnext hrecords hstretch.nonempty

/-- A batch whose receipt was lost is acknowledged up to the watermark, which is in the middle of
it. -/
theorem answer_held (hsome : system.acknowledged g < through g) :
    ∃ receipt database n last, system.answer codec spool organizationId g count batchId nodeId
        acceptedAt = .ok (receipt, database) ∧
      system.Acknowledges codec spool organizationId g count through receipt database n last := by
  have hpending := hsends.2.2.2.2.2.1
  have hspooled := hingested.spooled g
  have hsent := hingested.sent g
  have hsplit : (spool g).take (through g) = (spool g).take (system.acknowledged g) ++
      ((spool g).drop (system.acknowledged g)).take (through g - system.acknowledged g) := by
    rw [← take_add, Nat.add_sub_cancel' hsome.le]
  have hne : ((spool g).drop (system.acknowledged g)).take
      (through g - system.acknowledged g) ≠ [] := by
    intro hnil
    have hzero := congrArg length hnil
    rw [length_take, length_drop, length_nil] at hzero
    omega
  have hlast : ((spool g).take (through g)).getLast? = some (getLast _ hne) := by
    rw [hsplit, getLast?_append_of_ne_nil _ hne]
    exact getLast?_eq_some_getLast hne
  have hmem : getLast _ hne ∈ (system.batch spool g count batchId).records :=
    (take_subset_take_left _ (by omega)) (getLast_mem hne)
  have hwatermark := hingested.rows.watermark g
  rw [hlast] at hwatermark
  have haccept : (system.database.organization organizationId).acceptBatch codec
      (system.batch spool g count batchId) acceptedAt = _ :=
    acceptBatch_held h hstorable (stretch hsends) hmem hwatermark
  obtain ⟨database, hanswer, hrows⟩ :=
    answer_of_acceptBatch h hstorable horganization hsends haccept
  refine ⟨_, database, through g, _, hanswer, rfl, mem_of_mem_take (getLast_mem hne),
    hsome, by omega, hlast, ?_⟩
  rw [hrows, update_eq_self]
  exact hingested.rows.ensureWatermark g acceptedAt

theorem answer_ok (hfate : fate ≠ .batchLost) (hretained : system.Retained codec spool organizationId
      (.send g count batchId nodeId acceptedAt fate)) :
    ∃ receipt database n last, system.answer codec spool organizationId g count batchId nodeId
        acceptedAt = .ok (receipt, database) ∧
      system.Acknowledges codec spool organizationId g count through receipt database n last := by
  rcases (hingested.acknowledged g).eq_or_lt with hnone | hsome
  · exact answer_new h hstorable horganization hingested hsends hfate hretained hnone
  · exact answer_held h hstorable horganization hingested hsends hsome

end Accepted

/-- A batch without an answer keeps what has gone through between its bounds. -/
theorem IngestedTo.wait (hingested : system.IngestedTo codec spool organizationId through)
    {database : UsageDatabase} {through' : Uuid → ℕ}
    (hrows : (database.organization organizationId).Through codec spool through')
    (hothers : ∀ other, other ≠ g → through' other = through other)
    (hlower : system.acknowledged g ≤ through' g)
    (hupper : through' g ≤ system.acknowledged g + count) (hspooled : through' g ≤ (spool g).length) :
    ({ system with database := database }.wait g count).IngestedTo codec spool organizationId
      through' where
  acknowledged other := by
    by_cases hother : other = g
    · subst hother
      exact hlower
    · rw [hothers other hother]
      exact hingested.acknowledged other
  sent other := by
    by_cases hother : other = g
    · subst hother
      simp only [Ingestion.wait, update_self]
      exact hupper
    · simp only [Ingestion.wait, update_of_ne hother, hothers other hother]
      exact hingested.sent other
  spooled other := by
    by_cases hother : other = g
    · subst hother
      exact hspooled
    · rw [hothers other hother]
      exact hingested.spooled other
  rows := hrows

end answer

/-- What a sweep does to an organization: nothing, or its own sweep. -/
theorem organization_sweepRetention {database next : UsageDatabase}
    {sweep : InferenceUsageRetentionSweep} {report : InferenceUsageRetentionReport}
    (h : database.sweepRetention sweep = .ok (report, next)) (organizationId : Uuid) :
    next.organization organizationId = database.organization organizationId ∨
      ∃ remaining inspected,
        (database.organization organizationId).sweep sweep remaining = .ok inspected ∧
          next.organization organizationId = inspected.after := by
  simp only [sweepRetention, UsageDatabase.inspected, ok_rules, Prod.mk.injEq] at h
  obtain ⟨-, inspected, ⟨-, hinspect⟩, -, rfl⟩ := h
  obtain ⟨hsublist, hall⟩ := inspect_ok hinspect
  simp only [organization]
  cases hget : (database.organizations.insertAll (inspected.map (·.after))).get? organizationId with
  | none =>
    have hnone : database.organizations.get? organizationId = none := by
      by_contra hsome
      have hkept : ((database.organizations.insertAll (inspected.map (·.after))).get?
          organizationId).isSome :=
        isSome_insertAll (.inr (Option.isSome_iff_ne_none.2 hsome))
      rw [hget] at hkept
      cases hkept
    exact .inl (by rw [hnone])
  | some =>
    obtain ⟨hafter, rfl⟩ := get?_eq_some_iff.1 hget
    rcases mem_insertAll hafter with hswept | hold
    · obtain ⟨i, hi, rfl⟩ := mem_map.1 hswept
      obtain ⟨budget, hsweep⟩ := hall i hi
      obtain ⟨-, -, -, total, version, heq⟩ := OrganizationRows.sweep_ok hsweep
      have hbefore : i.before ∈ database.organizations.rows :=
        ((database.due_spec sweep).2 i.before
          (hsublist.subset (mem_map.2 ⟨i, hi, rfl⟩))).1
      have hkey : i.after.organizationId = i.before.organizationId := by
        rw [heq]
        rfl
      rw [hkey, get?_eq_some_iff.2 ⟨hbefore, rfl⟩]
      exact .inr ⟨budget, i, hsweep, rfl⟩
    · rw [get?_eq_some_iff.2 ⟨hold, rfl⟩]
      exact .inl rfl

/-- Every honest action keeps the invariant. -/
theorem ingested_step (h : HonestSpools codec spool) (hstorable : StorableSpools codec spool)
    (horganization : organizationId ≠ 0) {through : Uuid → ℕ}
    (hingested : system.IngestedTo codec spool organizationId through) {action : Action}
    (hsends : system.Sends codec spool action)
    (hretained : system.Retained codec spool organizationId action) :
    ∃ through', (system.step codec spool organizationId action).IngestedTo codec spool
      organizationId through' := by
  cases action with
  | sweep =>
    refine ⟨through, hingested.acknowledged, hingested.sent, hingested.spooled, ?_⟩
    refine Runs.afterResult_of (P := fun database : UsageDatabase =>
      (database.organization organizationId).Through codec spool through) hingested.rows ?_
    intro report next hsweep
    rcases organization_sweepRetention hsweep organizationId with hsame | ⟨_, _, hswept, hafter⟩
    · rw [hsame]
      exact hingested.rows
    · rw [hafter]
      exact hingested.rows.sweep h hswept
  | send g count batchId nodeId acceptedAt fate =>
    have hpending := hsends.2.2.2.2.2.1
    have hlength := hsends.2.2.2.2.2.2.1
    have hlower := hingested.acknowledged g
    have hupper := hingested.sent g
    cases fate with
    | batchLost =>
      exact ⟨through, hingested.wait hingested.rows (fun _ _ => rfl) hlower (by omega)
        (hingested.spooled g)⟩
    | receiptLost =>
      obtain ⟨receipt, database, n, last, hanswer, hack⟩ :=
        answer_ok h hstorable horganization hingested hsends (by simp) hretained
      have hlater := hack.later
      have hwithin := hack.within
      refine ⟨update through g n, ?_⟩
      simp only [step, hanswer]
      exact hingested.wait hack.rows (fun other hother => update_of_ne hother _ _)
        (by simp only [update_self]; omega) (by simp only [update_self]; omega)
        (by simp only [update_self]; omega)
    | answered =>
      obtain ⟨receipt, database, n, last, hanswer, hack⟩ :=
        answer_ok h hstorable horganization hingested hsends (by simp) hretained
      have hwithin := hack.within
      have hposition : position (spool g) receipt.acknowledgedThrough = n := by
        rw [hack.acknowledged]
        exact position_last h (by omega) hack.last
      refine ⟨update through g n, ?_⟩
      simp only [step, hanswer, hposition]
      refine ⟨fun other => ?_, fun other => ?_, fun other => ?_, hack.rows⟩
      all_goals by_cases hother : other = g
      · subst hother
        simp
      · simp only [update_of_ne hother]
        exact hingested.acknowledged other
      · subst hother
        simp
      · simp only [update_of_ne hother]
        exact hingested.sent other
      · subst hother
        simp only [update_self]
        omega
      · simp only [update_of_ne hother]
        exact hingested.spooled other

theorem organization_initial (organizationIds : List Uuid) (organizationId : Uuid) :
    (initial organizationIds).database.organization organizationId = .initial organizationId := by
  rw [organization]
  cases hget : (initial organizationIds).database.organizations.get? organizationId with
  | none => rfl
  | some rows =>
    obtain ⟨hmem, hid⟩ := get?_eq_some_iff.1 hget
    obtain ⟨_, -, rfl⟩ := mem_initial hmem
    exact congrArg OrganizationRows.initial hid

/-- Under the condition, every batch of an honest Gateway that reaches the database is accepted, and
its receipt acknowledges a record of the spool after those that were acknowledged before. -/
theorem accepts_all (h : HonestSpools codec spool) (hstorable : StorableSpools codec spool)
    (horganization : organizationId ≠ 0) {organizationIds : List Uuid} {actions : List Action}
    (hall : Runs.Allowed (step codec spool organizationId) (fun system action =>
      system.Sends codec spool action ∧ system.Retained codec spool organizationId action)
      (initial organizationIds) actions)
    {front back : List Action} {g batchId nodeId : Uuid} {count : ℕ} {acceptedAt : ℤ}
    {fate : UsageFate}
    (hsplit : actions = front ++ .send g count batchId nodeId acceptedAt fate :: back)
    (hfate : fate ≠ .batchLost) :
    let system := Runs.run (step codec spool organizationId) (initial organizationIds) front
    ∃ receipt database, system.answer codec spool organizationId g count batchId nodeId acceptedAt =
        .ok (receipt, database) ∧
      ∃ record ∈ (spool g).drop (system.acknowledged g),
        receipt.acknowledgedThrough = some record.cursor := by
  intro system
  rw [hsplit] at hall
  obtain ⟨hfront, hsends, hretained⟩ := hall.split
  have hingested : ∃ through, system.IngestedTo codec spool organizationId through := by
    refine Runs.invariant (I := fun system =>
      ∃ through, system.IngestedTo codec spool organizationId through) ?_ ?_ hfront
    · rintro s action ⟨through, hs⟩ ⟨hsends, hretained⟩
      exact ingested_step h hstorable horganization hs hsends hretained
    · refine ⟨fun _ => 0, fun _ => le_rfl, fun _ => Nat.zero_le _, fun _ => Nat.zero_le _, ?_⟩
      rw [organization_initial]
      exact through_initial organizationId
  obtain ⟨through, hingested⟩ := hingested
  obtain ⟨receipt, database, n, last, hanswer, hack⟩ :=
    answer_ok h hstorable horganization hingested hsends hfate hretained
  exact ⟨receipt, database, hanswer, last, hack.fresh, hack.acknowledged⟩

/-! ### A request that ends after a sweep -/

instance (system : Ingestion) (action : Action) : Decidable (system.Sends codec spool action) :=
  match action with
  | .send _ _ _ _ _ _ => inferInstanceAs (Decidable (_ ∧ _))
  | .sweep sweep => inferInstanceAs (Decidable (sweep.validate = .ok ()))

/-- The payloads of a request that takes ten seconds. -/
def sampleCodec : UsageCodec := usageCodec
  [("started", requestStarted 1 (seconds 10)),
    ("ended", requestTerminal 1 (seconds 20))]

def sampleSpool (g : Uuid) : List InferenceUsageRecord :=
  if g = 8 then [usageRecord ⟨1, 1⟩ "started", usageRecord ⟨1, 2⟩ "ended"] else []

theorem mem_sampleSpool (h : record ∈ sampleSpool g) :
    g = 8 ∧ (record = usageRecord ⟨1, 1⟩ "started" ∨
      record = usageRecord ⟨1, 2⟩ "ended") := by
  unfold sampleSpool at h
  split_ifs at h with hg
  · simpa [hg] using h
  · simp at h

theorem event_started : (usageRecord ⟨1, 1⟩ "started").event sampleCodec =
    .ok (requestStarted 1 (seconds 10)) := by decide +kernel

theorem event_ended : (usageRecord ⟨1, 2⟩ "ended").event sampleCodec =
    .ok (requestTerminal 1 (seconds 20)) := by decide +kernel

theorem request_sampleSpool {event : InferenceUsageLifecycleEvent} (h : record ∈ sampleSpool g)
    (hevent : record.event sampleCodec = .ok event) : event.request = usageRequest 1 := by
  rcases (mem_sampleSpool h).2 with rfl | rfl
  · rw [event_started] at hevent
    cases hevent
    rfl
  · rw [event_ended] at hevent
    cases hevent
    rfl

theorem sampleSpool_honest : HonestSpools sampleCodec sampleSpool where
  decodes g record h := by
    rcases (mem_sampleSpool h).2 with rfl | rfl
    · exact ⟨_, event_started⟩
    · exact ⟨_, event_ended⟩
  orderly g := by
    unfold sampleSpool
    split_ifs
    · have hfirst : Orderly ([] ++ [⟨1, 1⟩]) :=
        orderly_concat_iff.2 ⟨orderly_nil, ⟨rfl, by simp⟩⟩
      have hsecond : Orderly ([⟨1, 1⟩] ++ [⟨1, 2⟩]) :=
        orderly_concat_iff.2 ⟨hfirst, ⟨rfl, fun _ => rfl⟩⟩
      exact hsecond
    · exact orderly_nil
  eventIds g := by
    unfold sampleSpool
    split_ifs <;> decide
  started g front record back event hsplit hevent hkind := by
    have hmem : record ∈ sampleSpool g := by simp [hsplit]
    obtain ⟨rfl, rfl | rfl⟩ := mem_sampleSpool hmem
    · rw [event_started] at hevent
      cases hevent
      exact absurd rfl hkind
    · rw [event_ended] at hevent
      cases hevent
      refine ⟨usageRecord ⟨1, 1⟩ "started", ?_, _, event_started, rfl, rfl⟩
      rcases front with _ | ⟨first, front⟩
      · simp [sampleSpool, usageRecord] at hsplit
      · simp [sampleSpool] at hsplit
        simp [hsplit.1]
  descriptors g g' r r' event event' hr hr' hevent hevent' _ := by
    refine ⟨(mem_sampleSpool hr).1.trans (mem_sampleSpool hr').1.symm, ?_⟩
    rw [request_sampleSpool hr hevent, request_sampleSpool hr' hevent']
    exact ⟨rfl, rfl, rfl, rfl, rfl, rfl⟩

theorem sampleSpool_storable : StorableSpools sampleCodec sampleSpool := by
  intro g record hmem event hevent
  rcases (mem_sampleSpool hmem).2 with rfl | rfl
  · rw [event_started] at hevent
    cases hevent
    exact ⟨by decide, by decide, by decide, by decide, by decide, by simp [requestStarted]⟩
  · rw [event_ended] at hevent
    cases hevent
    exact ⟨by decide, by decide, by decide, by decide, by decide,
      by simp [requestTerminal]⟩

/-- A sweep between the two records of the request. -/
def betweenSweep (cutoff : ℕ) : InferenceUsageRetentionSweep where
  cutoff := seconds cutoff
  sweptAt := seconds 100
  nextScanAt := seconds 200
  policyDigest := .sha256 1
  organizationBatchSize := 10
  recordBatchSize := 10

/-- Before the request has ended, and while the boundary is not after its start. -/
theorem retained_sampleSpool {nodeId : Uuid}
    (hrollups : (system.database.organization 1).projections.rollups.rows = [])
    (hboundary : ∀ retained ∈ (system.database.organization 1).retention.recordsAvailableFrom,
      retained ≤ seconds 10)
    (haccepted : seconds 10 ≤ canonicalTimestamp acceptedAt)
    (hweight : ((system.batch sampleSpool 8 count batchId).records.map
      (·.weight sampleCodec)).sum ≤ i64Max) :
    system.Retained sampleCodec sampleSpool 1 (.send 8 count batchId nodeId acceptedAt fate) := by
  intro _ _
  refine ⟨fun retained h => (hboundary retained h).trans haccepted,
    fun _ _ _ _ retained h first hfirst begun hstarts => (hboundary retained h).trans ?_,
    fun key counter => ?_⟩
  · obtain ⟨hevent, hkind, -⟩ := hstarts
    rcases (mem_sampleSpool hfirst).2 with rfl | rfl
    · rw [event_started] at hevent
      cases hevent
      decide
    · rw [event_ended] at hevent
      cases hevent
      cases hkind
  · rw [UsageProjections.rollup, get?, hrollups, find?_nil, Option.getD_none,
      InferenceUsageDailyRollup.counter_empty, Nat.zero_add]
    exact hweight

/-- The receipt of the first record is lost, a sweep keeps the request, and the whole spool is sent
and acknowledged up to the first record. -/
def resent : List Action :=
  [.send 8 1 9 1 (seconds 15) .receiptLost, .sweep (betweenSweep 5),
    .send 8 2 10 1 (seconds 110) .answered]

/-- The second record is accepted after them. -/
theorem accepts_all_resent :
    let system := Runs.run (step sampleCodec sampleSpool 1) (initial [1]) resent
    ∃ receipt database, system.answer sampleCodec sampleSpool 1 8 1 11 1 (seconds 120) =
        .ok (receipt, database) ∧
      ∃ record ∈ [usageRecord ⟨1, 2⟩ "ended"],
        receipt.acknowledgedThrough = some record.cursor := by
  intro system
  have hsends : Runs.Allowed (step sampleCodec sampleSpool 1) (fun system action =>
      system.Sends sampleCodec sampleSpool action) (initial [1])
      (resent ++ [.send 8 1 11 1 (seconds 120) .answered]) := by decide +kernel
  obtain ⟨hfirst, hsweep, hsecond, hlast, -⟩ := hsends
  have hall : Runs.Allowed (step sampleCodec sampleSpool 1) (fun system action =>
      system.Sends sampleCodec sampleSpool action ∧
        system.Retained sampleCodec sampleSpool 1 action) (initial [1])
      (resent ++ [.send 8 1 11 1 (seconds 120) .answered]) := by
    refine ⟨⟨hfirst, ?_⟩, ⟨hsweep, trivial⟩, ⟨hsecond, ?_⟩, ⟨hlast, ?_⟩, trivial⟩
    · exact retained_sampleSpool (by decide +kernel) (by decide +kernel) (by decide)
        (by decide +kernel)
    · exact retained_sampleSpool (by decide +kernel) (by decide +kernel) (by decide)
        (by decide +kernel)
    · exact retained_sampleSpool (by decide +kernel) (by decide +kernel) (by decide)
        (by decide +kernel)
  have hdropped : (sampleSpool 8).drop (system.acknowledged 8) =
      [usageRecord ⟨1, 2⟩ "ended"] := by decide +kernel
  rw [← hdropped]
  exact accepts_all sampleSpool_honest sampleSpool_storable (by decide) hall rfl (by decide)

/-- After a sweep that deletes the fact of a request, the record of its end is refused, however often
it is sent. -/
theorem refuses_late_end :
    let actions : List Action := [.send 8 1 9 1 (seconds 15) .answered, .sweep (betweenSweep 50),
      .send 8 1 10 1 (seconds 110) .answered, .send 8 1 11 1 (seconds 120) .answered]
    HonestSpools sampleCodec sampleSpool ∧ StorableSpools sampleCodec sampleSpool ∧
      Runs.Allowed (step sampleCodec sampleSpool 1) (fun system action =>
        system.Sends sampleCodec sampleSpool action) (initial [1]) actions ∧
      ∀ n ∈ [2, 3], ((Runs.run (step sampleCodec sampleSpool 1) (initial [1]) (actions.take n)).answer
        sampleCodec sampleSpool 1 8 1 10 1 (seconds 110)).map Prod.fst =
          .error (.storage "request_terminal without request_started") := by
  intro actions
  refine ⟨sampleSpool_honest, sampleSpool_storable, by decide +kernel, by decide +kernel⟩

end Ingestion

end A3SCloud
