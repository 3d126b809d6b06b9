import A3SCloud.Fleet.Control
import A3SCloud.Lib.Keyset

/-!
# Operations and their reconciliation

The requests of durable operations and the projections of their Flow runs
(`modules/operations/domain/entities`), the store that holds them
(`infrastructure/persistence/in_memory.rs`), the engine that starts and reads a run
(`infrastructure/flow_operation_engine.rs`) and the handler that works through them in bounded
batches (`application/commands/reconcile_operations/handler.rs`).

The workflow engine itself is foreign: what it answers to the three calls that `ensure` makes for a
request is a `FlowCall`, which may differ at every attempt. A snapshot is read under a run id, and
it is the snapshot of that run (`FlowCall.settled_runId`).

* `OperationStore.pendingStarts` and `OperationStore.activeRefreshes` are the two queries, in order
  of request time and id.
* `ReconcileOperations.execute` is one call of the handler; `ensured` keeps the requests that have
  been passed to the engine.
-/

namespace A3SCloud

/-! ### Requests and projections -/

inductive OperationStatus
  | queued
  | running
  | suspended
  | cancelling
  | succeeded
  | failed
  | cancelled
  deriving DecidableEq

def OperationStatus.isTerminal : OperationStatus → Bool
  | succeeded | failed | cancelled => true
  | queued | running | suspended | cancelling => false

structure OperationSubject where
  kind : String
  id : Uuid
  deriving DecidableEq

structure WorkflowIdentity where
  name : String
  version : String
  deriving DecidableEq

structure OperationRequest where
  id : Uuid
  organizationId : Uuid
  subject : OperationSubject
  workflow : WorkflowIdentity
  input : String
  requestedAt : ℤ
  deriving DecidableEq

/-- A JSON output, with the text that is found under `operationStatus`. -/
structure OperationOutput where
  json : String
  operationStatus : Option String
  deriving DecidableEq

structure OperationProjection where
  operationId : Uuid
  status : OperationStatus
  lastSequence : ℕ
  output : Option OperationOutput
  error : Option String
  updatedAt : ℤ
  deriving DecidableEq

namespace OperationRequest

def new (id organizationId : Uuid) (subject : OperationSubject) (workflow : WorkflowIdentity)
    (input : String) (requestedAt : ℤ) : OperationRequest :=
  ⟨id, organizationId, subject, workflow, input, canonicalTimestamp requestedAt⟩

def hasSameDefinition (r other : OperationRequest) : Bool :=
  r.id = other.id ∧ r.organizationId = other.organizationId ∧ r.subject = other.subject ∧
    r.workflow = other.workflow ∧ r.input = other.input

/-- The key of both queries; also the cursor that points behind a request. -/
def orderKey (r : OperationRequest) : ℤ ×ₗ Uuid := toLex (r.requestedAt, r.id)

end OperationRequest

def RepositoryError.text : RepositoryError → String
  | notFound => "resource was not found"
  | conflict message => "resource already exists: " ++ message
  | forbidden message => "repository authorization rejected the request: " ++ message
  | idempotencyConflict => "idempotency key was reused with different input"
  | storage message => "repository failed: " ++ message

/-! ### The store -/

structure OperationStore where
  requests : Table OperationRequest.id
  projections : Table OperationProjection.operationId

namespace OperationStore

def empty : OperationStore := ⟨.empty, .empty⟩

variable (store : OperationStore)

def enqueue (request : OperationRequest) :
    Except RepositoryError (IdempotentWrite OperationRequest × OperationStore) :=
  match store.requests.get? request.id with
  | some existing =>
    if existing.hasSameDefinition request then .ok (⟨existing, true⟩, store)
    else .error (.conflict "operation ID was reused with a different request")
  | none => .ok (⟨request, false⟩, { store with requests := store.requests.insert request })

def isPending (request : OperationRequest) : Bool :=
  (store.projections.get? request.id).isNone

/-- The request has a projection that is not terminal. -/
def isActive (request : OperationRequest) : Bool :=
  (store.projections.get? request.id).any (!·.status.isTerminal)

def pendingStarts (limit : ℕ) : List OperationRequest :=
  (Keyset.sortByKey OperationRequest.orderKey
    (store.requests.rows.filter store.isPending)).take limit

def activeRefreshes (after : Option (ℤ ×ₗ Uuid)) (limit : ℕ) : List OperationRequest :=
  (Keyset.sortByKey OperationRequest.orderKey (store.requests.rows.filter fun request =>
    store.isActive request && after.all (· < request.orderKey))).take (max limit 1)

def upsertProjection (projection : OperationProjection) :
    Except RepositoryError (Bool × OperationStore) :=
  let projection := { projection with updatedAt := canonicalTimestamp projection.updatedAt }
  let stored := { store with projections := store.projections.insert projection }
  if (store.requests.get? projection.operationId).isNone then .error .notFound
  else match store.projections.get? projection.operationId with
    | none => .ok (true, stored)
    | some existing =>
      if projection.lastSequence < existing.lastSequence then .ok (false, store)
      else if existing.lastSequence = projection.lastSequence then
        if existing.status ≠ projection.status ∨ existing.output ≠ projection.output ∨
            existing.error ≠ projection.error then
          .error (.storage "operation projection changed without advancing its sequence")
        else .ok (false, store)
      else .ok (true, stored)

end OperationStore

/-! ### The engine -/

inductive FlowError
  | runNotFound (text : String)
  | runConflict (text : String)
  | nonDeterministic (text : String)
  | invalidRunId (text : String)
  | invalidWorkflow (text : String)
  | invalidTransition (text : String)
  | serialization (text : String)
  | other (text : String)
  deriving DecidableEq

inductive OperationEngineError
  | conflict (message : String)
  | unavailable (message : String)
  | invalid (message : String)
  deriving DecidableEq

def OperationEngineError.text : OperationEngineError → String
  | conflict message =>
    "operation definition conflicts with an existing durable run: " ++ message
  | unavailable message => "operation engine failed: " ++ message
  | invalid message => "operation history is invalid: " ++ message

def mapFlowError : FlowError → OperationEngineError
  | .runConflict text | .nonDeterministic text => .conflict text
  | .invalidRunId text | .invalidWorkflow text | .invalidTransition text | .serialization text =>
    .invalid text
  | .runNotFound text | .other text => .unavailable text

/-- The text of a run id: the id of an operation, or a text that is none, with what the parser says
of it. -/
inductive FlowRunId
  | operation (id : Uuid)
  | other (text parseError : String)
  deriving DecidableEq

inductive WorkflowRunStatus
  | pending
  | running
  | suspended
  | cancelling
  | completed
  | failed
  | cancelled
  | other (text : String)
  deriving DecidableEq

/-- A run that is executed by a Rust function embedded in this program. -/
structure WorkflowRuntime where
  package : String
  entry : String
  deriving DecidableEq

structure WorkflowSpec where
  name : String
  version : String
  runtime : WorkflowRuntime
  patchMarkers : List String
  runtimeBuild : Option String
  deriving DecidableEq

structure WorkflowRunSnapshot where
  runId : FlowRunId
  spec : WorkflowSpec
  status : WorkflowRunStatus
  output : Option OperationOutput
  error : Option String
  lastSequence : ℕ
  deriving DecidableEq

/-- The status of an operation, or the text of a status that has none. -/
def snapshotStatus (snapshot : WorkflowRunSnapshot) : Except String OperationStatus :=
  match snapshot.status with
  | .pending => .ok .queued
  | .running => .ok .running
  | .suspended => .ok .suspended
  | .cancelling => .ok .cancelling
  | .completed =>
    if snapshot.output.bind (·.operationStatus) = some "cancelled" then .ok .cancelled
    else .ok .succeeded
  | .failed => .ok .failed
  | .cancelled => .ok .cancelled
  | .other text => .error text

/-- What the workflow engine answers during one attempt at a run: the snapshot before, the start, the
snapshot after it, and the time. -/
structure FlowCall (runId : FlowRunId) where
  found : Except FlowError WorkflowRunSnapshot
  started : WorkflowSpec → String → Except FlowError Unit
  settled : Except FlowError WorkflowRunSnapshot
  now : ℤ
  settled_runId : ∀ snapshot, settled = .ok snapshot → snapshot.runId = runId

/-- What it answers to the attempts of one call of the handler. -/
abbrev FlowAnswers := (request : OperationRequest) → FlowCall (.operation request.id)

/-- The engine: the build id of the runtime compatibility, if one is configured, and how an id is
written. -/
structure FlowOperationEngine where
  currentBuildId : Option String
  uuidText : Uuid → String

def boundedStepRetryPatchId : String := "cloud.flow.bounded-step-retries-v1"

namespace FlowOperationEngine

variable (engine : FlowOperationEngine)

def runIdText : FlowRunId → String
  | .operation id => engine.uuidText id
  | .other text _ => text

def snapshotToProjection (snapshot : WorkflowRunSnapshot)
    (now : ℤ) : Except OperationEngineError OperationProjection :=
  match snapshot.runId with
  | .other text parseError => .error (.invalid
      ("Flow run ID " ++ text.quote ++ " is not an operation UUID: " ++ parseError))
  | .operation operationId =>
    match snapshotStatus snapshot with
    | .error status => .error (.unavailable
        ("Flow run " ++ (engine.runIdText snapshot.runId).quote ++
          " has an unsupported status " ++ status))
    | .ok status => .ok
        { operationId, status, lastSequence := snapshot.lastSequence, output := snapshot.output,
          error := snapshot.error, updatedAt := now }

def expectedSpec (request : OperationRequest) (buildId : String) : WorkflowSpec where
  name := request.workflow.name
  version := request.workflow.version
  runtime := ⟨"a3s-cloud", "main"⟩
  patchMarkers := [boundedStepRetryPatchId]
  runtimeBuild := some buildId

/-- The spec under which the run is started: that of the run if it exists. -/
def runSpec (runId : FlowRunId) (expected : WorkflowSpec) :
    Except FlowError WorkflowRunSnapshot → Except OperationEngineError WorkflowSpec
  | .ok snapshot =>
    if snapshot.spec.name ≠ expected.name ∨ snapshot.spec.version ≠ expected.version ∨
        snapshot.spec.runtime ≠ expected.runtime then
      .error (.conflict
        ("Flow run " ++ engine.runIdText runId ++ " has a different persisted workflow contract"))
    else .ok snapshot.spec
  | .error (.runNotFound _) => .ok expected
  | .error error => .error (mapFlowError error)

def ensure (request : OperationRequest)
    (flow : FlowCall (.operation request.id)) : Except OperationEngineError OperationProjection :=
  match engine.currentBuildId with
  | none =>
    .error (.unavailable "A3S Flow runtime build compatibility is not configured")
  | some buildId => do
    let spec ← engine.runSpec (.operation request.id) (expectedSpec request buildId) flow.found
    (flow.started spec request.input).mapError mapFlowError
    let snapshot ← flow.settled.mapError mapFlowError
    engine.snapshotToProjection snapshot flow.now

end FlowOperationEngine

/-! ### The handler -/

structure OperationReconcileFailure where
  operationId : Uuid
  error : String
  deriving DecidableEq

structure ReconcileOperationsReport where
  inspected : ℕ
  projected : ℕ
  failures : List OperationReconcileFailure
  deriving DecidableEq

/-- The store, the refresh cursor of the handler, and the requests that it has passed to the
engine. -/
structure ReconcileOperations where
  store : OperationStore
  refreshCursor : Option (ℤ ×ₗ Uuid)
  ensured : List OperationRequest

namespace ReconcileOperations

/-- The page of active requests behind the cursor, and the next cursor. -/
def nextActiveRefreshes (s : ReconcileOperations) (limit : ℕ) :
    List OperationRequest × Option (ℤ ×ₗ Uuid) :=
  let requests := s.store.activeRefreshes s.refreshCursor limit
  let requests :=
    if requests = [] ∧ s.refreshCursor.isSome then s.store.activeRefreshes none limit else requests
  (requests, if requests.length = limit then requests.getLast?.map OperationRequest.orderKey
    else none)

def attempt (engine : FlowOperationEngine) (answers : FlowAnswers)
    (progress : ReconcileOperationsReport × OperationStore) (request : OperationRequest) :
    ReconcileOperationsReport × OperationStore :=
  let fail (error : String) : ReconcileOperationsReport × OperationStore :=
    ({ progress.1 with failures := progress.1.failures ++ [⟨request.id, error⟩] }, progress.2)
  match engine.ensure request (answers request) with
  | .error error => fail error.text
  | .ok projection =>
    match progress.2.upsertProjection projection with
    | .ok (true, store) => ({ progress.1 with projected := progress.1.projected + 1 }, store)
    | .ok (false, store) => (progress.1, store)
    | .error error => fail error.text

def execute (engine : FlowOperationEngine) (limit : ℕ) (s : ReconcileOperations)
    (answers : FlowAnswers) : ReconcileOperationsReport × ReconcileOperations :=
  let limit := max limit 1
  let starts := s.store.pendingStarts limit
  let (refreshes, refreshCursor) := s.nextActiveRefreshes limit
  let (report, store) := (starts ++ refreshes).foldl (attempt engine answers)
    (⟨starts.length + refreshes.length, 0, []⟩, s.store)
  (report, { store, refreshCursor, ensured := s.ensured ++ (starts ++ refreshes) })

/-- One call as a step. -/
def step (engine : FlowOperationEngine) (limit : ℕ) (s : ReconcileOperations)
    (answers : FlowAnswers) : ReconcileOperations :=
  (s.execute engine limit answers).2

end ReconcileOperations

end A3SCloud
