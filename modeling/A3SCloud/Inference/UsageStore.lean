import Mathlib.Data.List.Sort
import A3SCloud.Inference.Ledger
import A3SCloud.Inference.Projection
import A3SCloud.Inference.Retention
import A3SCloud.Shared.Idempotency

/-!
# The usage repository in memory

`inference/infrastructure/persistence/in_memory.rs`. Its operations change the maps of the process
as they go, so an operation that fails may leave part of its work behind: each of them returns its
result and the store it leaves.

* `UsageStore.acceptUsageBatch` applies a batch to the ledger of its Gateway and projects the records
  that are new.
* `UsageStore.sweepRetention` deletes what is older than the boundary of each organization that is
  due, within a budget of records.
-/

namespace A3SCloud

open Checks

structure AcceptInferenceUsageBatchWrite where
  organizationId : Uuid
  authenticatedNodeId : Uuid
  batch : InferenceUsageBatch
  acceptedAt : ℤ
  deriving DecidableEq

def AcceptInferenceUsageBatchWrite.validate (codec : UsageCodec)
    (write : AcceptInferenceUsageBatchWrite) : Except String Unit := do
  write.batch.validate codec
  refuseIf (write.organizationId = 0 ∨ write.authenticatedNodeId = 0)
    "inference usage batch write identity is invalid"

/-- How an error of the ledger is reported by a repository. -/
def InferenceUsageLedgerError.toRepository : InferenceUsageLedgerError → RepositoryError
  | .conflict message => .conflict message
  | .contract message => .storage message

structure StoredUsageEvent where
  eventId : Uuid
  digest : String
  acceptedAt : ℤ
  cursor : InferenceUsageCursor
  deriving DecidableEq

structure GatewayLedger where
  gatewayId : Uuid
  ledger : InferenceUsageLedgerState

def GatewayLedger.forget (gateway : GatewayLedger) (eventIds : List Uuid) : GatewayLedger :=
  { gateway with ledger :=
    { gateway.ledger with
      events := gateway.ledger.events.filter (fun digest => digest.eventId ∉ eventIds) } }

structure OrganizationUsageState where
  organizationId : Uuid
  gateways : Table GatewayLedger.gatewayId
  eventMeta : Table StoredUsageEvent.eventId
  projections : UsageProjections
  retention : InferenceUsageRetentionState

structure UsageStore where
  organizations : Table OrganizationUsageState.organizationId

namespace OrganizationUsageState

def initial (organizationId : Uuid) : OrganizationUsageState :=
  ⟨organizationId, .empty, .empty, .empty, .initial organizationId⟩

def ledger (organization : OrganizationUsageState) (gatewayId : Uuid) : InferenceUsageLedgerState :=
  ((organization.gateways.get? gatewayId).map (·.ledger)).getD .initial

/-! ### Accepting a batch -/

/-- The ledger of a Gateway after a batch, with the records that are new. -/
def record (organization : OrganizationUsageState) (batch : InferenceUsageBatch) (acceptedAt : ℤ)
    (applied : InferenceUsageLedgerApply) : OrganizationUsageState :=
  { organization with
    gateways := organization.gateways.insert ⟨batch.gatewayId, applied.next⟩
    eventMeta := organization.eventMeta.insertAll
      ((batch.records.filter (fun record => record.eventId ∈ applied.insertedEventIds)).map
        (fun record => ⟨record.eventId, record.payloadSha256, acceptedAt, record.cursor⟩)) }

def acceptBatch (codec : UsageCodec) (organization : OrganizationUsageState)
    (batch : InferenceUsageBatch) (acceptedAt : ℤ) :
    Except RepositoryError InferenceUsageReceipt × OrganizationUsageState :=
  let ledger := organization.ledger batch.gatewayId
  match applyInferenceUsageBatch codec ledger batch with
  | .error e =>
    (.error e.toRepository,
      { organization with gateways := organization.gateways.insert ⟨batch.gatewayId, ledger⟩ })
  | .ok applied =>
    let recorded := organization.record batch acceptedAt applied
    let (projections, result) := recorded.projections.projectInsertedUsageRecords codec
      batch.gatewayId applied.insertedEventIds batch.records
    ((result.mapError .storage).map (fun _ => applied.receipt),
      { recorded with projections := projections })

/-! ### Sweeping an organization -/

variable (organization : OrganizationUsageState)

/-- Whether the digest of an event may be forgotten. -/
def purgeable (boundary : ℤ) (stored : StoredUsageEvent) : Bool :=
  stored.acceptedAt < boundary &&
    match organization.gateways.rows.find?
      (fun gateway => (gateway.ledger.events.get? stored.eventId).isSome) with
    | none => true
    | some gateway =>
      match gateway.ledger.watermark with
      | none => false
      | some watermark => stored.cursor.bootEpoch ≠ watermark.bootEpoch ∨
          stored.cursor.sequence ≤ watermark.sequence

/-- The events a sweep forgets, within its budget. -/
def purgeEventIds (boundary : ℤ) (remaining : ℕ) : List Uuid :=
  (((organization.eventMeta.rows.filter (organization.purgeable boundary)).map (·.eventId)
    ).insertionSort (· ≤ ·)).take remaining

/-- Drops what is before a boundary; the budget limits the events. -/
def dropBefore (boundary : ℤ) (remaining : ℕ) : OrganizationUsageState :=
  let purged := organization.purgeEventIds boundary remaining
  { organization with
    eventMeta := organization.eventMeta.filter (fun stored => stored.eventId ∉ purged)
    gateways := organization.gateways.mapRows (GatewayLedger.forget · purged) (fun _ => rfl)
    projections :=
      { facts := organization.projections.facts.filter (fun fact => boundary ≤ fact.startedAt)
        rollups := organization.projections.rollups.filter
          (fun rollup => dateNaive boundary ≤ rollup.key.day) } }

/-- Whether nothing is left before a boundary. -/
def isCompleted (boundary : ℤ) : Bool :=
  !organization.eventMeta.rows.any (fun stored => stored.acceptedAt < boundary) &&
    !organization.projections.facts.rows.any (fun fact => fact.startedAt < boundary) &&
    !organization.projections.rollups.rows.any
      (fun rollup => rollup.key.day < dateNaive boundary)

/-- The error of a count that has reached its end. -/
def deletedRecordsOverflowed : RepositoryError :=
  .storage "inference usage retention deleted-record count overflowed"

def versionOverflowed : RepositoryError :=
  .storage "inference usage retention version overflowed"

/-- The retention state after the records were deleted, if its counts do not overflow. -/
def nextRetention (sweep : InferenceUsageRetentionSweep)
    (completed : Bool) (deleted : ℕ) : Except RepositoryError InferenceUsageRetentionState := do
  let state := organization.retention
  let total ← orElse deletedRecordsOverflowed (checkedAdd state.totalDeletedRecords deleted)
  let version ← orElse versionOverflowed (checkedAdd state.version 1)
  pure (state.swept sweep completed total version)

/-- What is left after an organization was swept: its state, the budget and what to report. -/
structure Swept where
  organization : OrganizationUsageState
  remaining : ℕ
  deleted : ℕ
  completed : Bool

/-- The sweep of one organization. The records are gone when a count overflows. -/
def sweep (sweep : InferenceUsageRetentionSweep) (remaining : ℕ)
    (organization : OrganizationUsageState) : Except RepositoryError Unit × Swept :=
  let boundary := organization.retention.boundary sweep
  let dropped := organization.dropBefore boundary remaining
  let events := (organization.purgeEventIds boundary remaining).length
  let facts := organization.projections.facts.rows.length - dropped.projections.facts.rows.length
  let rollups :=
    organization.projections.rollups.rows.length - dropped.projections.rollups.rows.length
  let afterEvents := remaining - events
  let afterFacts := afterEvents - min facts afterEvents
  let afterRollups := afterFacts - min rollups afterFacts
  let completed := dropped.isCompleted boundary
  let deleted := events + facts + rollups
  match organization.nextRetention sweep completed deleted with
  | .error e => (.error e, ⟨dropped, afterRollups, deleted, completed⟩)
  | .ok retention =>
    (retention.validate.mapError .storage,
      ⟨{ dropped with retention := retention }, afterRollups, deleted, completed⟩)

end OrganizationUsageState

/-! ### The repository -/

namespace UsageStore

def empty : UsageStore := ⟨.empty⟩

def organization (store : UsageStore) (organizationId : Uuid) : OrganizationUsageState :=
  (store.organizations.get? organizationId).getD (.initial organizationId)

def acceptUsageBatch (codec : UsageCodec) (store : UsageStore)
    (write : AcceptInferenceUsageBatchWrite) :
    Except RepositoryError InferenceUsageReceipt × UsageStore :=
  match write.validate codec with
  | .error message => (.error (.storage message), store)
  | .ok () =>
    let (result, organization) :=
      (store.organization write.organizationId).acceptBatch codec write.batch write.acceptedAt
    (result, ⟨store.organizations.insert organization⟩)

/-- The organizations that are due for a sweep, the one that is due for longest first. -/
def due (store : UsageStore) (sweep : InferenceUsageRetentionSweep) : List Uuid :=
  (((store.organizations.rows.filter
    (fun organization => organization.retention.nextScanAt ≤ sweep.sweptAt)).insertionSort
    (fun a b => a.retention.nextScanAt < b.retention.nextScanAt ∨
      (a.retention.nextScanAt = b.retention.nextScanAt ∧ a.organizationId ≤ b.organizationId))).take
    sweep.organizationBatchSize).map (·.organizationId)

/-- The loop over the organizations that are due. -/
def sweepOrganizations (sweep : InferenceUsageRetentionSweep) :
    UsageStore → ℕ → InferenceUsageRetentionReport → List Uuid →
      Except RepositoryError InferenceUsageRetentionReport × UsageStore
  | store, _, report, [] => (.ok report, store)
  | store, remaining, report, organizationId :: rest =>
    if remaining = 0 then (.ok report, store)
    else
      let (result, swept) := (store.organization organizationId).sweep sweep remaining
      let store := ⟨store.organizations.insert swept.organization⟩
      match result with
      | .error e => (.error e, store)
      | .ok () => sweepOrganizations sweep store swept.remaining
          { inspectedOrganizations := report.inspectedOrganizations + 1
            completedOrganizations :=
              report.completedOrganizations + if swept.completed then 1 else 0
            deletedRecords := report.deletedRecords + swept.deleted } rest

def sweepRetention (store : UsageStore) (sweep : InferenceUsageRetentionSweep) :
    Except RepositoryError InferenceUsageRetentionReport × UsageStore :=
  match sweep.validate with
  | .error message => (.error (.storage message), store)
  | .ok () =>
    store.sweepOrganizations sweep sweep.recordBatchSize ⟨0, 0, 0⟩ (store.due sweep)

inductive Call
  | accept (write : AcceptInferenceUsageBatchWrite)
  | sweep (sweep : InferenceUsageRetentionSweep)

def step (codec : UsageCodec) (store : UsageStore) : Call → UsageStore
  | .accept write => (store.acceptUsageBatch codec write).2
  | .sweep sweep => (store.sweepRetention sweep).2

end UsageStore

end A3SCloud
