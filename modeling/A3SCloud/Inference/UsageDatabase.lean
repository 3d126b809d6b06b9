import A3SCloud.Inference.UsageStore

/-!
# The usage repository in PostgreSQL

`inference/infrastructure/persistence/postgres.rs` with the checks and triggers of the migrations
`192_inference_usage_ledger.sql` to `195_inference_usage_retention_authority.sql`. Every operation is
one transaction: an error leaves the tables as they were.

The tables are grouped by organization, the first column of every key. A number is stored as a signed
64-bit one and a time with a precision of microseconds.

* `UsageDatabase.acceptUsageBatch` is `accept_usage_batch`, with `persistUsageProjections`.
* `UsageDatabase.sweepRetention` is `sweep_retention_in_transaction`; `OrganizationRows.sweep` is the
  body of its loop.
-/

namespace A3SCloud

open Checks

def i64Max : ℕ := 2 ^ 63 - 1

/-- `i32::MAX`. -/
def i32Max : ℕ := 2 ^ 31 - 1

/-- The conversion of a number that must fit. -/
def toI64 (message : String) (n : ℕ) : Except RepositoryError Unit :=
  refuseIf (i64Max < n) (.storage message)

/-! ### Tables -/

structure UsageWatermarkRow where
  gatewayId : Uuid
  cursor : Option InferenceUsageCursor
  updatedAt : ℤ
  deriving DecidableEq

structure UsageEventRow where
  gatewayId : Uuid
  eventId : Uuid
  payloadSha256 : String
  payload : List UInt8
  cursor : InferenceUsageCursor
  batchId : Uuid
  acceptedAt : ℤ
  deriving DecidableEq

def UsageEventRow.key (row : UsageEventRow) : Uuid × Uuid := (row.gatewayId, row.eventId)

structure OrganizationRows where
  retention : InferenceUsageRetentionState
  watermarks : Table UsageWatermarkRow.gatewayId
  events : Table UsageEventRow.key
  projections : UsageProjections

def OrganizationRows.organizationId (rows : OrganizationRows) : Uuid :=
  rows.retention.organizationId

structure UsageDatabase where
  organizations : Table OrganizationRows.organizationId

def OrganizationRows.initial (organizationId : Uuid) : OrganizationRows :=
  ⟨.initial organizationId, .empty, .empty, .empty⟩

namespace OrganizationRows

variable (rows : OrganizationRows)

def watermark (gatewayId : Uuid) : Option InferenceUsageCursor :=
  (rows.watermarks.get? gatewayId).bind (·.cursor)

/-- The digests of a Gateway's events that a batch names. -/
def digests (batch : InferenceUsageBatch) : Table UsageEventDigest.eventId :=
  Table.empty.insertAll ((rows.events.rows.filter (fun row => row.gatewayId = batch.gatewayId ∧
    row.eventId ∈ batch.records.map (·.eventId))).map
      (fun row => ⟨row.eventId, row.payloadSha256⟩))

/-- What the ledger reads of the tables. -/
def ledger (batch : InferenceUsageBatch) : InferenceUsageLedgerState :=
  ⟨rows.watermark batch.gatewayId, rows.digests batch⟩

/-! ### Accepting a batch -/

/-- The trigger on events, and the checks of their table. -/
def insertEvent (row : UsageEventRow) : Except RepositoryError OrganizationRows := do
  toI64 "inference usage sequence exceeds i64" row.cursor.sequence
  refuseIf (∃ retained ∈ rows.retention.recordsAvailableFrom, row.acceptedAt < retained)
    (.storage "inference usage event is older than the retained availability boundary")
  refuseIf (row.payload = [])
    (.storage "violates check constraint inference_usage_events_payload_not_empty")
  refuseIf (rows.events.get? row.key).isSome
    (.storage "violates unique constraint inference_usage_events_pkey")
  pure { rows with events := rows.events.insert row }

/-- The events of a batch that are new. -/
def insertEvents (codec : UsageCodec) (batch : InferenceUsageBatch) (acceptedAt : ℤ)
    (insertedEventIds : List Uuid) :
    OrganizationRows → List InferenceUsageRecord → Except RepositoryError OrganizationRows
  | rows, [] => .ok rows
  | rows, record :: rest =>
    if record.eventId ∈ insertedEventIds then do
      let payload ← (record.payload codec).mapError .storage
      let rows ← rows.insertEvent ⟨batch.gatewayId, record.eventId, record.payloadSha256, payload,
        record.cursor, batch.batchId, canonicalTimestamp acceptedAt⟩
      rows.insertEvents codec batch acceptedAt insertedEventIds rest
    else rows.insertEvents codec batch acceptedAt insertedEventIds rest

/-- The sequence of a watermark is stored as a number. -/
def checkWatermark : Option InferenceUsageCursor → Except RepositoryError Unit
  | some tip => toI64 "inference usage watermark sequence exceeds i64" tip.sequence
  | none => .ok ()

def updateWatermark (gatewayId : Uuid) (cursor : Option InferenceUsageCursor) (acceptedAt : ℤ) :
    Except RepositoryError OrganizationRows := do
  checkWatermark cursor
  pure { rows with watermarks :=
    rows.watermarks.insert ⟨gatewayId, cursor, canonicalTimestamp acceptedAt⟩ }

def storedFact (fact : InferenceUsageRequestFact) : InferenceUsageRequestFact :=
  { fact with
    startedAt := canonicalTimestamp fact.startedAt
    terminatedAt := fact.terminatedAt.map canonicalTimestamp
    durationMs := fact.durationMs.map (min · i64Max)
    totalTokens := fact.totalTokens.map (min · i64Max)
    attemptCount := min fact.attemptCount i32Max }

/-- `upsert_request_fact`, with the trigger on facts and the checks of their table. -/
def upsertRequestFact (fact : InferenceUsageRequestFact) :
    Except RepositoryError OrganizationRows := do
  toI64 "credential_generation exceeds i64" fact.credentialGeneration
  toI64 "route_policy_revision exceeds i64" fact.routePolicyRevision
  let stored := storedFact fact
  refuseIf (∃ retained ∈ rows.retention.recordsAvailableFrom, stored.startedAt < retained)
    (.storage "inference usage request fact is older than the retained availability boundary")
  refuseIf (∃ status ∈ stored.httpStatus, status < 100 ∨ 599 < status)
    (.storage "violates check constraint inference_usage_request_facts_http_status_check")
  refuseIf (containsAny stored.modelAlias ['\x00'])
    (.storage "invalid byte sequence for encoding UTF8: 0x00")
  pure { rows with projections :=
    { rows.projections with facts := rows.projections.facts.insert stored } }

/-- A counter and what is added to it, if the sum fits. -/
def addCounter (stored delta : ℕ) : Except RepositoryError ℕ :=
  if stored + min delta i64Max ≤ i64Max then .ok (stored + min delta i64Max)
  else .error (.storage "bigint out of range")

def upsertDailyRollupDelta (delta : InferenceUsageDailyRollup) :
    Except RepositoryError OrganizationRows := do
  let stored := rows.projections.rollup delta.key
  let requestCount ← addCounter stored.requestCount delta.requestCount
  let succeededCount ← addCounter stored.succeededCount delta.succeededCount
  let failedCount ← addCounter stored.failedCount delta.failedCount
  let fallbackCount ← addCounter stored.fallbackCount delta.fallbackCount
  let cancelledCount ← addCounter stored.cancelledCount delta.cancelledCount
  let disconnectedCount ← addCounter stored.disconnectedCount delta.disconnectedCount
  let unknownMeasurementCount ←
    addCounter stored.unknownMeasurementCount delta.unknownMeasurementCount
  let upstreamUsageCount ← addCounter stored.upstreamUsageCount delta.upstreamUsageCount
  let totalTokens ← addCounter stored.totalTokens delta.totalTokens
  pure { rows with projections := { rows.projections with
    rollups := rows.projections.rollups.insert ⟨delta.key, requestCount, succeededCount,
      failedCount, fallbackCount, cancelledCount, disconnectedCount, unknownMeasurementCount,
      upstreamUsageCount, totalTokens⟩ } }

def upsertAll {α : Type} (upsert : OrganizationRows → α → Except RepositoryError OrganizationRows) :
    OrganizationRows → List α → Except RepositoryError OrganizationRows
  | rows, [] => .ok rows
  | rows, a :: rest => do
    let rows ← upsert rows a
    upsertAll upsert rows rest

/-- The requests that the new records of a batch are about. -/
def requestIds (codec : UsageCodec) (insertedEventIds : List Uuid) :
    List InferenceUsageRecord → Except RepositoryError (List Uuid)
  | [] => .ok []
  | record :: rest =>
    if record.eventId ∈ insertedEventIds then do
      let event ← (record.event codec).mapError .storage
      let ids ← requestIds codec insertedEventIds rest
      pure (event.request.requestId :: ids)
    else requestIds codec insertedEventIds rest

def loadFacts (requestIds : List Uuid) : Table InferenceUsageRequestFact.requestId :=
  rows.projections.facts.filter (fun fact => fact.requestId ∈ requestIds)

/-- `persist_usage_projections`: the rollups it projects to start empty, so they are what is to be
added to the stored ones. -/
def persistUsageProjections (codec : UsageCodec) (rows : OrganizationRows)
    (batch : InferenceUsageBatch) (insertedEventIds : List Uuid) :
    Except RepositoryError OrganizationRows :=
  if insertedEventIds = [] then .ok rows
  else do
    let ids ← requestIds codec insertedEventIds batch.records
    let (projected, result) := UsageProjections.projectInsertedUsageRecords codec batch.gatewayId
      insertedEventIds ⟨rows.loadFacts ids, .empty⟩ batch.records
    result.mapError .storage
    let rows ← upsertAll upsertRequestFact rows projected.facts.rows
    upsertAll upsertDailyRollupDelta rows projected.rollups.rows

/-- The row of a Gateway that is inserted unless there is one. -/
def ensureWatermark (gatewayId : Uuid) (acceptedAt : ℤ) : OrganizationRows :=
  { rows with watermarks :=
    rows.watermarks.insertIfAbsent ⟨gatewayId, none, canonicalTimestamp acceptedAt⟩ }

/-- The body of `accept_usage_batch` on the rows of its organization. -/
def acceptBatch (codec : UsageCodec) (rows : OrganizationRows) (batch : InferenceUsageBatch)
    (acceptedAt : ℤ) : Except RepositoryError (InferenceUsageReceipt × OrganizationRows) := do
  let rows := rows.ensureWatermark batch.gatewayId acceptedAt
  let state := rows.ledger batch
  let applied ← (applyInferenceUsageBatch codec state batch).mapError
    InferenceUsageLedgerError.toRepository
  if applied.next.watermark = state.watermark ∧ applied.next.events.rows = state.events.rows then
    pure (applied.receipt, rows)
  else do
    let rows ← rows.insertEvents codec batch acceptedAt applied.insertedEventIds batch.records
    let rows ← rows.updateWatermark batch.gatewayId applied.next.watermark acceptedAt
    let rows ← rows.persistUsageProjections codec batch applied.insertedEventIds
    pure (applied.receipt, rows)

/-! ### Sweeping an organization -/

/-- The events that a sweep may delete: those that were accepted before the boundary and that the
watermark of their Gateway has passed in their own epoch. -/
def deletable (boundary : ℤ) (event : UsageEventRow) : Bool :=
  event.acceptedAt < boundary ∧ ∃ tip ∈ rows.watermark event.gatewayId,
    tip.bootEpoch = event.cursor.bootEpoch ∧ event.cursor.sequence ≤ tip.sequence

/-- `order by accepted_at, event_id`. -/
def eventOrder (a b : UsageEventRow) : Prop :=
  a.acceptedAt < b.acceptedAt ∨ (a.acceptedAt = b.acceptedAt ∧ a.eventId ≤ b.eventId)

/-- `order by started_at, request_id`. -/
def factOrder (a b : InferenceUsageRequestFact) : Prop :=
  a.startedAt < b.startedAt ∨ (a.startedAt = b.startedAt ∧ a.requestId ≤ b.requestId)

/-- The order of the endpoints' names. -/
def endpointRank : InferenceUsageEndpoint → ℕ
  | .chatCompletions => 0
  | .completions => 1
  | .embeddings => 2
  | .models => 3

/-- `order by day, environment_id, model_id, endpoint`. -/
def rollupOrder (a b : InferenceUsageDailyRollup) : Prop :=
  a.key.day < b.key.day ∨ (a.key.day = b.key.day ∧
    (a.key.environmentId < b.key.environmentId ∨ (a.key.environmentId = b.key.environmentId ∧
      (a.key.modelId < b.key.modelId ∨ (a.key.modelId = b.key.modelId ∧
        endpointRank a.key.endpoint ≤ endpointRank b.key.endpoint)))))

instance : DecidableRel eventOrder := fun _ _ => inferInstanceAs (Decidable (_ ∨ _))

instance : DecidableRel factOrder := fun _ _ => inferInstanceAs (Decidable (_ ∨ _))

instance : DecidableRel rollupOrder := fun _ _ => inferInstanceAs (Decidable (_ ∨ _))

/-- Whether nothing is left before a boundary. -/
def isCompleted (boundary : ℤ) : Bool :=
  !rows.events.rows.any (fun event => event.acceptedAt < boundary) &&
    !rows.projections.facts.rows.any (fun fact => fact.startedAt < boundary) &&
    !rows.projections.rollups.rows.any (fun rollup => rollup.key.day < dateNaive boundary)

/-- What is left of the rows and of the budget after the deletions of a sweep, and how many rows were
deleted. Each deletion is limited by what the ones before it have left of the budget. -/
def deleteBefore (boundary : ℤ) (remaining : ℕ) : OrganizationRows × ℕ × ℕ :=
  let oldFact := fun fact : InferenceUsageRequestFact => decide (fact.startedAt < boundary)
  let oldRollup := fun rollup : InferenceUsageDailyRollup =>
    decide (rollup.key.day < dateNaive boundary)
  let events := (rows.events.firstRows (rows.deletable boundary) eventOrder remaining).length
  let afterEvents := remaining - events
  let facts := (rows.projections.facts.firstRows oldFact factOrder afterEvents).length
  let afterFacts := afterEvents - facts
  let rollups := (rows.projections.rollups.firstRows oldRollup rollupOrder afterFacts).length
  ({ rows with
      events := rows.events.dropFirst (rows.deletable boundary) eventOrder remaining
      projections :=
        { facts := rows.projections.facts.dropFirst oldFact factOrder afterEvents
          rollups := rows.projections.rollups.dropFirst oldRollup rollupOrder afterFacts } },
    afterFacts - rollups, events + facts + rollups)

/-- A value that was set is not lost and does not go back. -/
def goesBack (old new : Option ℤ) : Prop :=
  ∃ before ∈ old, ∀ after ∈ new, after < before

instance (old new : Option ℤ) : Decidable (goesBack old new) :=
  inferInstanceAs (Decidable (∃ before ∈ old, ∀ after ∈ new, after < before))

/-- The trigger on updates of the retention state, and the checks of its table. -/
def updateRetention (old new : InferenceUsageRetentionState) : Except RepositoryError Unit := do
  refuseIf (new.organizationId ≠ old.organizationId ∨
      goesBack old.recordsAvailableFrom new.recordsAvailableFrom ∨
      goesBack old.recordsDeletedBefore new.recordsDeletedBefore ∨
      new.totalDeletedRecords < old.totalDeletedRecords ∨
      (old.appliedPolicyDigest.isSome ∧ new.appliedPolicyDigest.isNone) ∨
      goesBack old.lastSweptAt new.lastSweptAt ∨
      goesBack old.lastCompletedAt new.lastCompletedAt ∨
      new.nextScanAt < old.nextScanAt ∨ new.version ≠ old.version + 1)
    (.storage "inference usage retention state must advance monotonically")
  new.validate.mapError .storage

/-- An organization that was inspected: its rows before and after, the budget that is left and what
is reported of it. -/
structure Inspected where
  before : OrganizationRows
  after : OrganizationRows
  remaining : ℕ
  deleted : ℕ
  completed : Bool

def sweep (sweep : InferenceUsageRetentionSweep) (remaining : ℕ) (rows : OrganizationRows) :
    Except RepositoryError Inspected := do
  let state := rows.retention
  let boundary := state.boundary sweep
  let (deleted, left, count) := rows.deleteBefore boundary remaining
  let completed := deleted.isCompleted boundary
  let total ← orElse (.storage "inference usage retention deleted-record count overflowed")
    (checkedAdd state.totalDeletedRecords count)
  let version ← orElse (.storage "inference usage retention version overflowed")
    (checkedAdd state.version 1)
  toI64 "inference usage retention deleted-record count exceeds i64" total
  toI64 "inference usage retention version exceeds i64" version
  let next := state.swept sweep completed total version
  updateRetention state next
  pure ⟨rows, { deleted with retention := next }, left, count, completed⟩

end OrganizationRows

/-! ### The repository -/

namespace UsageDatabase

/-- The tables with the row that every organization has from its creation on. -/
def initial (organizationIds : List Uuid) : UsageDatabase :=
  ⟨Table.empty.insertAll (organizationIds.map .initial)⟩

variable (database : UsageDatabase)

def organization (organizationId : Uuid) : OrganizationRows :=
  (database.organizations.get? organizationId).getD (.initial organizationId)

def acceptUsageBatch (codec : UsageCodec) (database : UsageDatabase)
    (write : AcceptInferenceUsageBatchWrite) :
    Except RepositoryError (InferenceUsageReceipt × UsageDatabase) := do
  (write.validate codec).mapError .storage
  let (receipt, rows) ← (database.organization write.organizationId).acceptBatch codec write.batch
    write.acceptedAt
  pure (receipt, ⟨database.organizations.insert rows⟩)

variable (sweep : InferenceUsageRetentionSweep)

/-- The organizations that are due for a sweep, the one that is due for longest first. -/
def due : List OrganizationRows :=
  ((database.organizations.rows.filter
    (fun rows => rows.retention.nextScanAt ≤ sweep.sweptAt)).insertionSort
    (fun a b => a.retention.nextScanAt < b.retention.nextScanAt ∨
      (a.retention.nextScanAt = b.retention.nextScanAt ∧ a.organizationId ≤ b.organizationId))).take
    sweep.organizationBatchSize

/-- The loop of a sweep: it stops when the budget is used up. -/
def inspect (sweep : InferenceUsageRetentionSweep) :
    ℕ → List OrganizationRows → Except RepositoryError (List OrganizationRows.Inspected)
  | _, [] => .ok []
  | remaining, rows :: rest =>
    if remaining = 0 then .ok []
    else do
      let inspected ← rows.sweep sweep remaining
      let others ← inspect sweep inspected.remaining rest
      pure (inspected :: others)

def inspected : Except RepositoryError (List OrganizationRows.Inspected) := do
  checkAll (fun rows => rows.retention.validate.mapError RepositoryError.storage)
    (database.due sweep)
  inspect sweep sweep.recordBatchSize (database.due sweep)

/-- `sweep_retention`, with `sweep_retention_in_transaction`. -/
def sweepRetention : Except RepositoryError (InferenceUsageRetentionReport × UsageDatabase) := do
  sweep.validate.mapError .storage
  let inspected ← database.inspected sweep
  pure ({ inspectedOrganizations := inspected.length
          completedOrganizations := (inspected.filter (·.completed)).length
          deletedRecords := (inspected.map (·.deleted)).sum },
    ⟨database.organizations.insertAll (inspected.map (·.after))⟩)

/-- The tables after a call; one that fails leaves them as they are. -/
def step (codec : UsageCodec) (database : UsageDatabase) : UsageStore.Call → UsageDatabase
  | .accept write => Runs.afterResult database (database.acceptUsageBatch codec write)
  | .sweep sweep => Runs.afterResult database (database.sweepRetention sweep)

end UsageDatabase

end A3SCloud
