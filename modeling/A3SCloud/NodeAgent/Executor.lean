import A3SCloud.NodeAgent.Journal
import A3SCloud.NodeAgent.Prepare

/-!
# Executing a command on a node

The model of `crates/node-agent/src/executor.rs`. What the Runtime, the Gateway, the artifact
manager, the inventory authority, the adapters and the clock answer during one execution is an
`ExecutionIo`; `dispatch`, `executionOutcome` and `execute` are functions of the journal, the command
and these answers.

The three parts of a Runtime apply are kept apart: `admitApply` is what happens before
`runtime.apply` is called, `ExecutionIo.runtimeApply` is its answer, and `finishApply` is what happens
to an observation it returned.
-/

namespace A3SCloud

open Checks

variable (X : External)

/-! ### Errors -/

/-- The variants of the Runtime crate's `RuntimeError`. -/
inductive RuntimeErrorKind
  | invalidRequest
  | notFound
  | requestNotFound
  | requestConflict
  | staleGeneration
  | generationConflict
  | deadlineExceeded
  | unsupportedCapabilities
  | providerUnavailable
  | transport
  | logDiscontinuity
  | protocol
  deriving DecidableEq

/-- A Runtime error with the text it displays. -/
structure RuntimeError where
  kind : RuntimeErrorKind
  text : String
  deriving DecidableEq

inductive GatewaySnapshotInstallError
  | invalidState (message : String)
  | storage (message : String)
  | unavailable (message : String)
  | protocol (message : String)
  deriving DecidableEq

namespace GatewaySnapshotInstallError

def retryable : GatewaySnapshotInstallError → Bool
  | .storage _ | .unavailable _ => true
  | .invalidState _ | .protocol _ => false

def code : GatewaySnapshotInstallError → String
  | .invalidState _ => "gateway_state_invalid"
  | .storage _ => "gateway_state_storage"
  | .unavailable _ => "gateway_unavailable"
  | .protocol _ => "gateway_protocol"

def toString : GatewaySnapshotInstallError → String
  | .invalidState message => "invalid Gateway snapshot state: " ++ message
  | .storage message => "Gateway snapshot storage failed: " ++ message
  | .unavailable message => "Gateway management API is unavailable: " ++ message
  | .protocol message => "Gateway management protocol failed: " ++ message

end GatewaySnapshotInstallError

inductive NodeArtifactError
  | invalid (message : String)
  | transport (message : String) (retryable : Bool)
  | integrity (message : String)
  | storage (message : String)
  deriving DecidableEq

def NodeArtifactError.toString : NodeArtifactError → String
  | .invalid message => "node artifact request is invalid: " ++ message
  | .transport message _ => "node artifact transport failed: " ++ message
  | .integrity message => "node artifact cache failed integrity validation: " ++ message
  | .storage message => "node artifact cache storage failed: " ++ message

inductive FailureStatus
  | rejected
  | failed
  deriving DecidableEq

/-- The error of an adapter, with the status, code and retry advice its kind maps to. -/
structure AdapterError where
  status : FailureStatus
  code : String
  text : String
  retryable : Bool
  deriving DecidableEq

inductive DispatchError
  | runtime (error : RuntimeError)
  | gateway (error : GatewaySnapshotInstallError)
  | artifact (error : NodeArtifactError)
  | resourceClaim (error : ResourceClaimExecutionError)
  | adapter (error : AdapterError)
  deriving DecidableEq

/-! ### Failure outcomes -/

/-- `str::trim`. -/
def trimText (text : List Char) : List Char :=
  ((text.dropWhile isTrimmed).reverse.dropWhile isTrimmed).reverse

def sanitizeError (message : String) : String :=
  let text := trimText (message.toList.map (fun c =>
    if c = '\x00' ∨ c = '\r' ∨ c = '\n' then ' ' else c))
  if text = [] then "Runtime operation failed" else String.ofList (text.take (16 * 1024))

def FailureStatus.outcome (status : FailureStatus) (failure : NodeCommandFailure) :
    NodeCommandOutcome :=
  match status with
  | .rejected => .rejected failure
  | .failed => .failed failure

/-- An error that may be retried is a failure, any other one a rejection. -/
def FailureStatus.ofRetryable (retryable : Bool) : FailureStatus :=
  if retryable then .failed else .rejected

def rejected (code message : String) : NodeCommandOutcome :=
  .rejected { code := code, message := message, retryable := false }

def RuntimeErrorKind.failure : RuntimeErrorKind → FailureStatus × String × Bool
  | .invalidRequest => (.rejected, "invalid_request", false)
  | .notFound | .requestNotFound => (.rejected, "not_found", false)
  | .requestConflict => (.rejected, "request_conflict", false)
  | .staleGeneration => (.rejected, "stale_generation", false)
  | .generationConflict => (.rejected, "generation_conflict", false)
  | .deadlineExceeded => (.rejected, "deadline_exceeded", false)
  | .unsupportedCapabilities => (.rejected, "unsupported_capabilities", false)
  | .providerUnavailable => (.failed, "provider_unavailable", true)
  | .transport => (.failed, "runtime_transport", true)
  | .logDiscontinuity => (.failed, "log_discontinuity", false)
  | .protocol => (.failed, "runtime_protocol", false)

def runtimeFailure (error : RuntimeError) : NodeCommandOutcome :=
  let (status, code, retryable) := error.kind.failure
  status.outcome { code := code, message := sanitizeError error.text, retryable := retryable }

def NodeArtifactError.failure : NodeArtifactError → FailureStatus × String × Bool
  | .invalid _ => (.rejected, "invalid_artifact", false)
  | .integrity _ => (.failed, "artifact_integrity", false)
  | .storage _ => (.failed, "artifact_storage", true)
  | .transport _ retryable => (.failed, "artifact_transport", retryable)

def artifactFailure (error : NodeArtifactError) : NodeCommandOutcome :=
  let (status, code, retryable) := error.failure
  status.outcome { code := code, message := sanitizeError error.toString, retryable := retryable }

def dispatchFailure : DispatchError → NodeCommandOutcome
  | .runtime error => runtimeFailure error
  | .gateway error =>
    (FailureStatus.ofRetryable error.retryable).outcome
      { code := error.code, message := sanitizeError error.toString, retryable := error.retryable }
  | .artifact error => artifactFailure error
  | .resourceClaim error =>
    (FailureStatus.ofRetryable error.retryable).outcome
      { code := error.code, message := sanitizeError error.toString, retryable := error.retryable }
  | .adapter error =>
    error.status.outcome
      { code := error.code, message := sanitizeError error.text, retryable := error.retryable }

theorem dispatchFailure_ne_succeeded (error : DispatchError) (result : NodeCommandResult) :
    dispatchFailure error ≠ .succeeded result := by
  have houtcome : ∀ status failure, FailureStatus.outcome status failure ≠ .succeeded result := by
    intro status failure h
    cases status <;> cases h
  cases error <;> exact houtcome _ _

/-! ### The answers of the world -/

inductive GatewaySnapshotInstallOutcome
  | applied (protocol : GatewayManagementProtocol)
  | rejected (message : String) (protocol : Option GatewayManagementProtocol)
  deriving DecidableEq

structure GatewaySnapshotObservationOutcome where
  state : GatewaySnapshotObservationState
  ready : Bool
  applied : Option AppliedGatewaySnapshot
  observedAt : ℤ
  protocol : GatewayManagementProtocol
  deriving DecidableEq

/-- What an execution reads and is answered: four readings of the clock, in the order in which they
are taken, and the answers of the calls a dispatch may make. -/
structure ExecutionIo where
  /-- The reading after the command was begun. -/
  startedAt : ℤ
  /-- The reading with which a dispatch stamps its evidence. -/
  dispatchedAt : ℤ
  /-- The reading compared with the deadline after the dispatch. -/
  checkedAt : ℤ
  /-- The reading with which the completion is stamped. -/
  completedAt : ℤ
  /-- Whether the journal file can be read during the dispatch. -/
  readFile : Except CommandJournalError Unit
  /-- The inventory authority, if one is configured. -/
  resourceInventory : Option (Except ResourceInventoryError NodeResourceInventory)
  /-- `NodeArtifactManager::prepare_command`. -/
  prepareCommand : Except NodeArtifactError Unit
  /-- `NodeArtifactManager::publish_command_outputs`. -/
  publishCommandOutputs : RuntimeObservation → Except NodeArtifactError RuntimeObservation
  runtimeApply : Except RuntimeError RuntimeObservation
  runtimeInspect : Except RuntimeError RuntimeInspection
  runtimeStop : Except RuntimeError RuntimeInspection
  runtimeRemove : Except RuntimeError RuntimeRemoval
  gatewayInstall : Except GatewaySnapshotInstallError GatewaySnapshotInstallOutcome
  gatewayObserve : Except GatewaySnapshotInstallError GatewaySnapshotObservationOutcome
  /-- `Uuid::now_v7()` for a Gateway acknowledgement or observation. -/
  freshId : Uuid
  adapter : Except AdapterError AdapterResult

/-- The readings of the clock do not go backwards. -/
structure ExecutionIo.Monotone (io : ExecutionIo) : Prop where
  started : io.startedAt ≤ io.dispatchedAt
  dispatched : io.dispatchedAt ≤ io.checkedAt
  checked : io.checkedAt ≤ io.completedAt

/-! ### Dispatch -/

/-- `Utc::now().max(envelope.issued_at)`. -/
def commandTimestamp (envelope : NodeCommandEnvelope) (now : ℤ) : ℤ := max now envelope.issuedAt

def currentResourceInventory (io : ExecutionIo) :
    Except ResourceClaimExecutionError NodeResourceInventory := do
  let answer ← orElse .authorityUnavailable io.resourceInventory
  answer.mapError .inventory

section Dispatch

variable (nodeId : Uuid) (journal : CommandJournal) (envelope : NodeCommandEnvelope)
  (io : ExecutionIo)

def dispatchPrepare (request : NodeResourceClaimPrepare) :
    Except ResourceClaimExecutionError NodeResourceClaimPrepared := do
  let inventory ← currentResourceInventory io
  io.readFile.mapError .journal
  let active ← (activeResourceClaimBindingsSync X nodeId journal).mapError .journal
  validatePrepare X request inventory active
  (NodeResourceClaimPrepared.new X request (commandTimestamp envelope io.dispatchedAt)).mapError
    .invalid

/-- What a Runtime apply has to pass before `runtime.apply` is called. -/
def admitApply (request : RuntimeApplyRequest) (resourceClaim : Option NodeResourceClaimBinding) :
    Except DispatchError Unit := do
  io.readFile.mapError (.resourceClaim ∘ .journal)
  (validateRuntimeResourceBindingSync X nodeId journal request.spec resourceClaim).mapError
    (.resourceClaim ∘ .journal)
  match resourceClaim with
  | none => pure ()
  | some binding => do
    let inventory ← (currentResourceInventory io).mapError .resourceClaim
    (binding.validateInventory X inventory).mapError (.resourceClaim ∘ .conflict)
  io.prepareCommand.mapError .artifact

/-- What happens to the observation that `runtime.apply` returned. -/
def finishApply (resourceClaim : Option NodeResourceClaimBinding) (observation : RuntimeObservation) :
    Except DispatchError RuntimeObservation := do
  let published ← (io.publishCommandOutputs observation).mapError .artifact
  match resourceClaim with
  | none => pure published
  | some binding =>
    (binding.bindRuntimeObservation X published).mapError (.resourceClaim ∘ .conflict)

/-- A found unit has the generation of the command and is tied to its active claim. -/
def finishInspect (unitId : String) (generation : ℕ) :
    RuntimeInspection → Except DispatchError RuntimeInspection
  | .notFound actual => pure (.notFound actual)
  | .found observation => do
    refuseIf (observation.generation > generation)
      (.runtime ⟨.staleGeneration, X.staleGenerationText unitId generation observation.generation⟩)
    refuseIf (observation.generation ≠ generation)
      (.runtime ⟨.generationConflict, X.generationConflictText unitId generation⟩)
    io.readFile.mapError (.resourceClaim ∘ .journal)
    let active ← (activeResourceClaimBindingsSync X nodeId journal).mapError
      (.resourceClaim ∘ .journal)
    match active.find? (fun binding =>
        binding.runtimeUnitId = unitId ∧ binding.runtimeGeneration = generation) with
    | none => pure (.found observation)
    | some binding => do
      let bound ← (binding.bindRuntimeObservation X observation).mapError
        (.resourceClaim ∘ .conflict)
      pure (.found bound)

def dispatchRelease (request : NodeResourceClaimRelease) :
    Except ResourceClaimExecutionError NodeResourceClaimReleased := do
  io.readFile.mapError .journal
  (validateResourceClaimReleaseSync X nodeId journal request).mapError .journal
  (NodeResourceClaimReleased.new X request (commandTimestamp envelope io.dispatchedAt)).mapError
    .invalid

def dispatchInstall (snapshot : GatewaySnapshot) : Except DispatchError NodeGatewayAck := do
  let installed ← io.gatewayInstall.mapError .gateway
  let (state, message, managementProtocol) := match installed with
    | .applied protocol => (GatewayAckState.applied, none, some protocol)
    | .rejected message protocol => (GatewayAckState.rejected, some message, protocol)
  let acknowledgement : NodeGatewayAck := {
    schema := .current
    acknowledgementId := io.freshId
    commandId := envelope.commandId
    nodeId := envelope.nodeId
    gatewayId := snapshot.gatewayId
    revision := snapshot.revision
    snapshotDigest := snapshot.snapshotDigest
    expiresAt := snapshot.expiresAt
    state := state
    ready := state = .applied
    message := message
    acknowledgedAt := commandTimestamp envelope io.dispatchedAt
    managementProtocol := managementProtocol }
  (acknowledgement.validateFor X envelope.commandId envelope.nodeId snapshot).mapError
    (.gateway ∘ .protocol)
  pure acknowledgement

def dispatchObserve (request : GatewaySnapshotObservationRequest) :
    Except DispatchError NodeGatewaySnapshotObservation := do
  let observed ← io.gatewayObserve.mapError .gateway
  let observation : NodeGatewaySnapshotObservation := {
    schema := .current
    observationId := io.freshId
    commandId := envelope.commandId
    nodeId := envelope.nodeId
    gatewayId := request.gatewayId
    revision := request.revision
    snapshotDigest := request.snapshotDigest
    state := observed.state
    ready := observed.ready
    applied := observed.applied
    observedAt := max observed.observedAt envelope.issuedAt
    managementProtocol := observed.protocol }
  (observation.validateFor envelope.commandId envelope.nodeId request).mapError
    (.gateway ∘ .protocol)
  pure observation

def dispatch : Except DispatchError NodeCommandResult :=
  match envelope.payload with
  | .resourceClaimPrepare request => do
    let prepared ← (dispatchPrepare X nodeId journal envelope io request).mapError .resourceClaim
    pure (.resourceClaimPrepared prepared)
  | .runtimeApply request resourceClaim => do
    admitApply X nodeId journal io request resourceClaim
    let observation ← io.runtimeApply.mapError .runtime
    let bound ← finishApply X io resourceClaim observation
    pure (.runtimeApplied bound)
  | .runtimeInspect unitId generation => do
    let inspection ← io.runtimeInspect.mapError .runtime
    let bound ← finishInspect X nodeId journal io unitId generation inspection
    pure (.runtimeInspected bound)
  | .runtimeStop _ => do
    let inspection ← io.runtimeStop.mapError .runtime
    pure (.runtimeStopped inspection)
  | .runtimeRemove _ => do
    let removal ← io.runtimeRemove.mapError .runtime
    pure (.runtimeRemoved removal)
  | .resourceClaimRelease request => do
    let released ← (dispatchRelease X nodeId journal envelope io request).mapError .resourceClaim
    pure (.resourceClaimReleased released)
  | .gatewaySnapshotInstall snapshot => do
    let acknowledgement ← dispatchInstall X envelope io snapshot
    pure (.gatewaySnapshotInstalled acknowledgement)
  | .gatewaySnapshotObserve request => do
    let observation ← dispatchObserve envelope io request
    pure (.gatewaySnapshotObserved observation)
  | .adapter _ => do
    let result ← io.adapter.mapError .adapter
    pure (.adapter result)

end Dispatch

/-! ### Execution -/

/-- The time that a success proves, if its kind carries one. -/
def NodeCommandOutcome.evidenceAt : NodeCommandOutcome → Option ℤ
  | .succeeded (.resourceClaimPrepared prepared) => some prepared.observedAt
  | .succeeded (.resourceClaimReleased released) => some released.observedAt
  | .succeeded (.gatewaySnapshotInstalled acknowledgement) => some acknowledgement.acknowledgedAt
  | .succeeded (.gatewaySnapshotObserved observation) => some observation.observedAt
  | .succeeded (.adapter (.agentProviderCommandAccepted receipt)) =>
    fromTimestampMillis receipt.observedAtMs
  | .succeeded (.adapter (.codeAgentCommandAccepted receipt)) =>
    fromTimestampMillis receipt.observedAtMs
  | .succeeded (.adapter (.durableCellOperatorObserved observedAtMs _)) =>
    fromTimestampMillis observedAtMs
  | .succeeded _ | .rejected _ | .failed _ => none

def completionTimestamp (envelope : NodeCommandEnvelope) (outcome : NodeCommandOutcome) (now : ℤ) :
    ℤ :=
  match outcome.evidenceAt with
  | none => commandTimestamp envelope now
  | some evidenceAt => max (commandTimestamp envelope now) evidenceAt

theorem le_completionTimestamp (envelope : NodeCommandEnvelope) (outcome : NodeCommandOutcome)
    (now : ℤ) : envelope.issuedAt ≤ completionTimestamp envelope outcome now := by
  unfold completionTimestamp commandTimestamp
  split <;> omega

def executionOutcome (nodeId : Uuid) (journal : CommandJournal) (envelope : NodeCommandEnvelope)
    (io : ExecutionIo) : NodeCommandOutcome :=
  if envelope.isExpiredAt io.startedAt then
    rejected "command_expired" "command expired before Runtime dispatch"
  else
    match dispatch X nodeId journal envelope io with
    | .ok result =>
      if envelope.notAfter < io.checkedAt then
        .failed {
          code := "command_completed_after_deadline"
          message := "Runtime operation completed after the command deadline"
          retryable := true }
      else .succeeded result
    | .error error => dispatchFailure error

/-- A command succeeds when it is dispatched before its deadline and its result is there in time. -/
theorem executionOutcome_succeeded_iff {nodeId : Uuid} {journal : CommandJournal}
    {envelope : NodeCommandEnvelope} {io : ExecutionIo} {result : NodeCommandResult} :
    executionOutcome X nodeId journal envelope io = .succeeded result ↔
      envelope.isExpiredAt io.startedAt = false ∧
        dispatch X nodeId journal envelope io = .ok result ∧ io.checkedAt ≤ envelope.notAfter := by
  unfold executionOutcome
  cases hexpired : envelope.isExpiredAt io.startedAt with
  | true => simp [rejected]
  | false =>
    cases hdispatch : dispatch X nodeId journal envelope io with
    | error => simp [dispatchFailure_ne_succeeded]
    | ok =>
      by_cases hlate : envelope.notAfter < io.checkedAt
      · simp [hlate]
      · simp [hlate, not_lt.1 hlate]

def executionCompletion (nodeId : Uuid) (journal : CommandJournal) (envelope : NodeCommandEnvelope)
    (io : ExecutionIo) : JournalCompletion :=
  let outcome := executionOutcome X nodeId journal envelope io
  { completedAt := completionTimestamp envelope outcome io.completedAt, outcome := outcome }

def execute (nodeId : Uuid) (journal : CommandJournal) (envelope : NodeCommandEnvelope)
    (io : ExecutionIo) : Except CommandJournalError (NodeCommandAck × CommandJournal) := do
  let (decision, journal) ← beginSync X nodeId journal envelope
  match decision with
  | .replay acknowledgement => pure (acknowledgement, journal)
  | .execute =>
    let completion := executionCompletion X nodeId journal envelope io
    completeSync X nodeId journal envelope.commandId completion.completedAt completion.outcome

end A3SCloud
