import A3SCloud.Contracts.Gateway
import A3SCloud.Contracts.ResourceClaim

/-!
# Node commands

The model of `crates/contracts/src/node/command.rs`: payloads, the envelope in which a payload is
leased to a node, the results a node may report for it, and the acknowledgement that carries an
outcome back.

`NodeCommandEnvelope.validate` and `NodeCommandAck.validateAgainst` are the two checks both ends of
the protocol run; `NodeCommandAck.validateAgainst_ok_iff` takes the second one apart.
-/

namespace A3SCloud

open Checks

variable (X : External)

/-! ### Payloads -/

namespace AdapterRequest

def kind : AdapterRequest → String
  | .durableCellOperatorObserve _ => "durable_cell_operator_observe"
  | .agentProviderCommand _ _ => "agent_provider_command"
  | .codeAgentCommand _ _ => "code_agent_command"
  | .boxBuildStart _ => "box_build_start"
  | .boxBuildInspect _ => "box_build_inspect"
  | .boxBuildCancel _ => "box_build_cancel"
  | .boxBuildRemove _ => "box_build_remove"
  | .pluginHostCapabilitiesInspect _ => "plugin_host_capabilities_inspect"
  | .pluginHostAuthorizeTrust _ _ => "plugin_host_authorize_trust"
  | .pluginHostPlan _ _ => "plugin_host_plan"
  | .pluginHostApply _ _ => "plugin_host_apply"
  | .pluginHostPlanEnablement _ _ => "plugin_host_plan_enablement"
  | .pluginHostObserve _ _ => "plugin_host_observe"

def schema : AdapterRequest → String
  | .durableCellOperatorObserve _ => "a3s.cloud.durable-cell-operator-observe.v1"
  | .agentProviderCommand _ _ => "a3s.cloud.node-agent-provider-command.v1"
  | .codeAgentCommand _ _ => "a3s.cloud.code-agent-command.v1"
  | .boxBuildStart _ => "a3s.cloud.box-build-start.v1"
  | .boxBuildInspect _ => "a3s.cloud.box-build-inspect.v1"
  | .boxBuildCancel _ => "a3s.cloud.box-build-cancel.v1"
  | .boxBuildRemove _ => "a3s.cloud.box-build-remove.v1"
  | .pluginHostCapabilitiesInspect _ => "a3s.cloud.plugin-host-capabilities-request.v1"
  | .pluginHostAuthorizeTrust _ _ => "a3s.cloud.plugin-host-authorize-trust-request.v1"
  -- the schemas of the Use contract crate
  | .pluginHostPlan _ _ => "plugin-host-plan-request"
  | .pluginHostApply _ _ => "plugin-host-apply-request"
  | .pluginHostPlanEnablement _ _ => "plugin-host-enablement-plan-request"
  | .pluginHostObserve _ _ => "plugin-host-observation-request"

def generation : AdapterRequest → ℕ
  | .durableCellOperatorObserve binding => binding.runtimeGeneration
  | .agentProviderCommand binding _ => binding.runtimeGeneration
  | .codeAgentCommand binding _ => binding.runtimeGeneration
  | .boxBuildStart request | .boxBuildInspect request | .boxBuildCancel request
  | .boxBuildRemove request => request.generation
  | .pluginHostCapabilitiesInspect generation | .pluginHostAuthorizeTrust generation _ => generation
  | .pluginHostPlan assignmentGeneration _ | .pluginHostApply assignmentGeneration _
  | .pluginHostPlanEnablement assignmentGeneration _
  | .pluginHostObserve assignmentGeneration _ => assignmentGeneration

end AdapterRequest

namespace NodeCommandPayload

def kind : NodeCommandPayload → String
  | .resourceClaimPrepare _ => "resource_claim_prepare"
  | .runtimeApply _ _ => "runtime_apply"
  | .runtimeInspect _ _ => "runtime_inspect"
  | .runtimeStop _ => "runtime_stop"
  | .runtimeRemove _ => "runtime_remove"
  | .resourceClaimRelease _ => "resource_claim_release"
  | .gatewaySnapshotInstall _ => "gateway_snapshot_install"
  | .gatewaySnapshotObserve _ => "gateway_snapshot_observe"
  | .adapter request => request.kind

def schema : NodeCommandPayload → String
  | .resourceClaimPrepare _ => "a3s.cloud.node-resource-claim-prepare.v1"
  | .runtimeApply _ (some _) => "a3s.cloud.runtime-resource-bound-apply.v1"
  -- the schema of the Runtime contract crate
  | .runtimeApply _ none => "runtime-apply-request"
  | .runtimeInspect _ _ => "a3s.runtime.inspect-request.v1"
  | .runtimeStop _ => "a3s.runtime.stop-request.v1"
  | .runtimeRemove _ => "a3s.runtime.remove-request.v1"
  | .resourceClaimRelease _ => "a3s.cloud.node-resource-claim-release.v1"
  | .gatewaySnapshotInstall _ => "a3s.cloud.gateway-snapshot.v3"
  | .gatewaySnapshotObserve _ => "a3s.cloud.gateway-snapshot-observation-request.v1"
  | .adapter request => request.schema

def generation : NodeCommandPayload → ℕ
  | .resourceClaimPrepare request => request.claimGeneration
  | .runtimeApply request _ => request.spec.generation
  | .runtimeInspect _ generation => generation
  | .runtimeStop request | .runtimeRemove request => request.generation
  | .resourceClaimRelease request => request.claimGeneration
  | .gatewaySnapshotInstall snapshot => snapshot.revision
  | .gatewaySnapshotObserve request => request.revision
  | .adapter request => request.generation

def validate : NodeCommandPayload → Except String Unit
  | .resourceClaimPrepare request => NodeResourceClaimPrepare.validate request
  | .runtimeApply request resourceClaim => do
    X.applyRequestValidate request
    match resourceClaim with
    | none => pure ()
    | some binding => binding.validateRuntimeSpec X request.spec
  | .runtimeInspect unitId generation => do
    validateSingleLine "Runtime unit ID" unitId 512
    refuseIf (generation = 0) "Runtime inspection generation must be positive"
  | .runtimeStop request | .runtimeRemove request => X.actionRequestValidate request
  | .resourceClaimRelease request => NodeResourceClaimRelease.validate request
  | .gatewaySnapshotInstall snapshot => snapshot.validate X
  | .gatewaySnapshotObserve request => request.validate
  | .adapter request => X.adapterRequestValidate request

def digest (payload : NodeCommandPayload) : Except String DigestText := do
  payload.validate X
  pure (X.digest (.payload payload))

theorem digest_ok_iff {payload : NodeCommandPayload} {d : DigestText} :
    payload.digest X = .ok d ↔ payload.validate X = .ok () ∧ X.digest (.payload payload) = d := by
  simp only [digest, ok_rules]

end NodeCommandPayload

/-! ### Envelopes -/

namespace NodeCommandEnvelope

/-- A Gateway command belongs to the node that serves the Gateway. -/
def validateGateway (envelope : NodeCommandEnvelope) : Except String Unit :=
  match envelope.payload with
  | .gatewaySnapshotInstall snapshot =>
    refuseIf (snapshot.gatewayId ≠ envelope.nodeId ∨ snapshot.issuedAt ≠ envelope.issuedAt ∨
        snapshot.expiresAt < envelope.notAfter)
      "Gateway snapshot identity and validity must contain its node command"
  | .gatewaySnapshotObserve request =>
    refuseIf (request.gatewayId ≠ envelope.nodeId)
      "Gateway snapshot observation targets another command node"
  | _ => .ok ()

/-- The node and aggregate of a command are those its payload names. -/
def validateIdentity (envelope : NodeCommandEnvelope) : Except String Unit :=
  match envelope.payload with
  | .resourceClaimPrepare request =>
    refuseIf (envelope.nodeId ≠ request.binding.nodeId ∨
        envelope.aggregateId ≠ request.binding.claimId)
      "resource claim prepare command identity does not match its binding"
  | .runtimeApply _ (some binding) =>
    refuseIf (envelope.nodeId ≠ binding.nodeId)
      "Runtime resource binding belongs to a different command node"
  | .resourceClaimRelease request =>
    refuseIf (envelope.nodeId ≠ request.binding.nodeId ∨
        envelope.aggregateId ≠ request.binding.claimId)
      "resource claim release command identity does not match its binding"
  | .adapter (.codeAgentCommand binding _) =>
    refuseIf (envelope.aggregateId ≠ binding.executionId)
      "Code Agent command aggregate does not match its execution"
  | .adapter (.agentProviderCommand binding _) =>
    refuseIf (envelope.aggregateId ≠ binding.executionId)
      "Agent provider command aggregate does not match its execution"
  | .adapter (.durableCellOperatorObserve binding) =>
    refuseIf (envelope.aggregateId ≠ binding.applicationId)
      "Durable Cell operator command aggregate does not match its application"
  | _ => .ok ()

def validate (envelope : NodeCommandEnvelope) : Except String Unit := do
  validateSchema "unsupported node command schema" envelope.schema
  validateUuid "command_id" envelope.commandId
  validateUuid "lease_id" envelope.leaseId
  validateUuid "node_id" envelope.nodeId
  validateUuid "aggregate_id" envelope.aggregateId
  validateUuid "correlation_id" envelope.correlationId
  refuseIf (envelope.sequence = 0 ∨ envelope.generation = 0)
    "command sequence and generation must be positive"
  refuseIf (envelope.notAfter ≤ envelope.issuedAt) "command expiry must follow issue time"
  envelope.payload.validate X
  envelope.validateGateway
  envelope.validateIdentity
  refuseIf (envelope.generation ≠ envelope.payload.generation)
    "command generation does not match its payload"
  refuseIf (envelope.payloadSchema ≠ envelope.payload.schema)
    "command payload schema does not match its payload"
  validateSha256 "command payload digest" envelope.payloadDigest
  let digest ← envelope.payload.digest X
  refuseIf (envelope.payloadDigest ≠ digest) "command payload digest does not match its payload"

def isExpiredAt (envelope : NodeCommandEnvelope) (now : ℤ) : Bool := envelope.notAfter ≤ now

/-- `NodeCommandEnvelope::new`, with the metadata of the command as arguments. -/
def new (commandId leaseId nodeId : Uuid) (sequence : ℕ) (aggregateId : Uuid)
    (issuedAt notAfter : ℤ) (correlationId : Uuid) (payload : NodeCommandPayload) :
    Except String NodeCommandEnvelope := do
  let payloadDigest ← payload.digest X
  let envelope : NodeCommandEnvelope := {
    schema := .current
    commandId := commandId
    leaseId := leaseId
    nodeId := nodeId
    sequence := sequence
    aggregateId := aggregateId
    generation := payload.generation
    payloadSchema := payload.schema
    payloadDigest := payloadDigest
    issuedAt := issuedAt
    notAfter := notAfter
    correlationId := correlationId
    payload := payload }
  envelope.validate X
  pure envelope

/-- What `validate` accepts. -/
structure Valid (envelope : NodeCommandEnvelope) : Prop where
  schema : envelope.schema = .current
  commandId : envelope.commandId ≠ 0
  leaseId : envelope.leaseId ≠ 0
  nodeId : envelope.nodeId ≠ 0
  aggregateId : envelope.aggregateId ≠ 0
  correlationId : envelope.correlationId ≠ 0
  sequence : envelope.sequence ≠ 0
  generation : envelope.generation ≠ 0
  window : envelope.issuedAt < envelope.notAfter
  payload : envelope.payload.validate X = .ok ()
  gateway : envelope.validateGateway = .ok ()
  identity : envelope.validateIdentity = .ok ()
  payloadGeneration : envelope.generation = envelope.payload.generation
  payloadSchema : envelope.payloadSchema = envelope.payload.schema
  payloadDigest : envelope.payloadDigest = X.digest (.payload envelope.payload)

variable {X}

variable {envelope : NodeCommandEnvelope}

theorem validate_ok_iff {u : Unit} : envelope.validate X = .ok u ↔ envelope.Valid X := by
  simp only [validate, ok_rules, validateSchema_ok_iff, validateUuid_ok_iff,
    NodeCommandPayload.digest_ok_iff, not_or, not_le, not_not]
  constructor
  · rintro ⟨h1, h2, h3, h4, h5, h6, ⟨h7, h8⟩, h9, h10, h11, h12, h13, h14, -, _, ⟨-, rfl⟩, h15⟩
    exact ⟨h1, h2, h3, h4, h5, h6, h7, h8, h9, h10, h11, h12, h13, h14, h15⟩
  · rintro ⟨h1, h2, h3, h4, h5, h6, h7, h8, h9, h10, h11, h12, h13, h14, h15⟩
    refine ⟨h1, h2, h3, h4, h5, h6, ⟨h7, h8⟩, h9, h10, h11, h12, h13, h14, ?_, _, ⟨h10, rfl⟩, h15⟩
    rw [h15]
    rfl

/-- The same command under another lease. -/
def withLease (envelope : NodeCommandEnvelope) (leaseId : Uuid) : NodeCommandEnvelope :=
  { envelope with leaseId := leaseId }

@[simp] theorem withLease_commandId (envelope : NodeCommandEnvelope) (leaseId : Uuid) :
    (envelope.withLease leaseId).commandId = envelope.commandId := rfl

/-- A valid command stays valid under every other lease. -/
theorem Valid.withLease (h : envelope.Valid X) {leaseId : Uuid} (hl : leaseId ≠ 0) :
    (envelope.withLease leaseId).Valid X :=
  { h with leaseId := hl }

end NodeCommandEnvelope

/-! ### Results -/

/-- A Runtime inspection is about the unit and generation of its command. -/
def validateInspectionIdentity (inspection : RuntimeInspection) (unitId : String)
    (generation : ℕ) : Except String Unit :=
  match inspection with
  | .found observation =>
    refuseIf (¬ (observation.unitId = unitId ∧ observation.generation = generation))
      "Runtime inspection identity does not match its command"
  | .notFound actual =>
    refuseIf (actual ≠ unitId) "Runtime inspection identity does not match its command"

/-- The result without the time of a trust authorization, which its content checks do not read. -/
def AdapterResult.unstamped : AdapterResult → AdapterResult
  | .pluginHostTrustAuthorized _ body => .pluginHostTrustAuthorized 0 body
  | result => result

namespace NodeCommandResult

def validate : NodeCommandResult → Except String Unit
  | .resourceClaimPrepared prepared => NodeResourceClaimPrepared.validate prepared
  | .runtimeApplied observation => X.observationValidate observation
  | .runtimeInspected inspection | .runtimeStopped inspection => X.inspectionValidate inspection
  | .runtimeRemoved removal => X.removalValidate removal
  | .resourceClaimReleased released => NodeResourceClaimReleased.validate released
  | .gatewaySnapshotInstalled acknowledgement => acknowledgement.validate
  | .gatewaySnapshotObserved observation => observation.validate
  | .adapter result => X.adapterResultValidate result.unstamped

def matchesCommand (result : NodeCommandResult) (command : NodeCommandEnvelope) :
    Except String Unit :=
  match command.payload, result with
  | .resourceClaimPrepare request, .resourceClaimPrepared prepared =>
    NodeResourceClaimPrepared.validateFor X prepared request
  | .runtimeApply request resourceClaim, .runtimeApplied observation => do
    X.observationValidateAgainst observation request.spec
    match resourceClaim with
    | none => pure ()
    | some binding => binding.validateRuntimeObservation X observation
  | .runtimeInspect unitId generation, .runtimeInspected inspection =>
    validateInspectionIdentity inspection unitId generation
  | .runtimeStop request, .runtimeStopped inspection =>
    validateInspectionIdentity inspection request.unitId request.generation
  | .runtimeRemove request, .runtimeRemoved removal =>
    refuseIf (¬ (removal.requestId = request.requestId ∧ removal.unitId = request.unitId ∧
        removal.generation = request.generation))
      "node command result identity does not match its payload"
  | .resourceClaimRelease request, .resourceClaimReleased released =>
    NodeResourceClaimReleased.validateFor X released request
  | .gatewaySnapshotInstall snapshot, .gatewaySnapshotInstalled acknowledgement =>
    acknowledgement.validateFor X command.commandId command.nodeId snapshot
  | .gatewaySnapshotObserve request, .gatewaySnapshotObserved observation =>
    observation.validateFor command.commandId command.nodeId request
  | .adapter request, .adapter result => X.adapterResultValidateFor request result.unstamped
  | _, _ => .error "node command result kind does not match its payload"

def validateAgainst (result : NodeCommandResult) (command : NodeCommandEnvelope) :
    Except String Unit := do
  result.validate X
  result.matchesCommand X command

end NodeCommandResult

/-- The time of an adapter's evidence, or the error of a time out of range. -/
def adapterTimestamp (label : String) (milliseconds : ℕ) : Except String ℤ :=
  orElse (label ++ " time exceeds supported bounds") (fromTimestampMillis milliseconds)

/-- The time at which an adapter says its effect took place, and whether it replayed it. -/
def AdapterResult.evidence : AdapterResult → Except String (Option (ℤ × Bool))
  | .pluginHostPlanned createdAtMs replayed _ => do
    pure (some (← adapterTimestamp "Plugin Host plan creation" createdAtMs, replayed))
  | .pluginHostApplied completedAtMs replayed _ => do
    pure (some (← adapterTimestamp "Plugin Host apply completion" completedAtMs, replayed))
  | .pluginHostEnablementPlanned plannedAtMs replayed _ => do
    pure (some (← adapterTimestamp "Plugin Host enablement plan creation" plannedAtMs, replayed))
  | .pluginHostObserved observedAtMs _ => do
    pure (some (← adapterTimestamp "Plugin Host observation" observedAtMs, false))
  | .agentProviderCommandAccepted receipt | .codeAgentCommandAccepted receipt => do
    pure (some (← adapterTimestamp "Agent provider receipt" receipt.observedAtMs,
      receipt.replayed))
  | .durableCellOperatorObserved observedAtMs _ => do
    pure (some (← adapterTimestamp "Durable Cell operator observation" observedAtMs, false))
  | .boxBuildStarted _ | .boxBuildInspected _ | .boxBuildCancelled _ | .boxBuildRemoved _
  | .pluginHostCapabilitiesInspected _ | .pluginHostTrustAuthorized _ _ => pure none

/-- The time a result proves, and whether it stems from an earlier execution. -/
def NodeCommandResult.evidence : NodeCommandResult → Except String (Option (ℤ × Bool))
  | .resourceClaimPrepared prepared => pure (some (prepared.observedAt, false))
  | .resourceClaimReleased released => pure (some (released.observedAt, false))
  | .adapter result => result.evidence
  | .runtimeApplied _ | .runtimeInspected _ | .runtimeStopped _ | .runtimeRemoved _
  | .gatewaySnapshotInstalled _ | .gatewaySnapshotObserved _ => pure none

/-! ### Outcomes and acknowledgements -/

def NodeCommandFailure.validate (failure : NodeCommandFailure) : Except String Unit := do
  validateSingleLine "command failure code" failure.code 127
  validateSingleLine "command failure message" failure.message (16 * 1024)

def NodeCommandOutcome.validate : NodeCommandOutcome → Except String Unit
  | .succeeded result => result.validate X
  | .rejected failure | .failed failure => failure.validate

def NodeCommandAckReceipt.validate (receipt : NodeCommandAckReceipt) : Except String Unit := do
  validateSchema "unsupported node command acknowledgement receipt schema" receipt.schema
  validateUuid "command_id" receipt.commandId
  validateUuid "node_id" receipt.nodeId

/-- The commands whose success needs the current acknowledgement schema. -/
def NodeCommandPayload.needsCurrentAck : NodeCommandPayload → Bool
  | .resourceClaimPrepare _ | .resourceClaimRelease _ | .runtimeApply _ (some _) | .adapter _ => true
  | .runtimeApply _ none | .runtimeInspect _ _ | .runtimeStop _ | .runtimeRemove _
  | .gatewaySnapshotInstall _ | .gatewaySnapshotObserve _ => false

/-- The evidence time lies within the execution; a replayed effect may predate the command. -/
def withinExecution (issuedAt completedAt : ℤ) : Option (ℤ × Bool) → Bool
  | none => true
  | some (at_, replayed) => (replayed || issuedAt ≤ at_) && at_ ≤ completedAt

namespace NodeCommandAck

/-- The schema and time of a Gateway result fit the acknowledgement. -/
def validateGatewayResult (ack : NodeCommandAck) (issuedAt : ℤ) :
    NodeCommandResult → Except String Unit
  | .gatewaySnapshotInstalled acknowledgement => do
    refuseIf (acknowledgement.schema ≠
        if ack.schema = .current then SchemaText.current else SchemaText.legacy)
      "Gateway acknowledgement schema does not match its command acknowledgement"
    refuseIf (acknowledgement.acknowledgedAt < issuedAt ∨
        ack.completedAt < acknowledgement.acknowledgedAt)
      "Gateway acknowledgement time falls outside command execution"
  | .gatewaySnapshotObserved observation => do
    refuseIf (ack.schema ≠ .current)
      "Gateway snapshot observations require the current acknowledgement schema"
    refuseIf (observation.observedAt < issuedAt ∨ ack.completedAt < observation.observedAt)
      "Gateway snapshot observation time falls outside command execution"
  | _ => .ok ()

def validateSuccess (ack : NodeCommandAck) (command : NodeCommandEnvelope)
    (result : NodeCommandResult) : Except String Unit := do
  result.validateAgainst X command
  let evidence ← result.evidence
  refuseIf (¬ withinExecution command.issuedAt ack.completedAt evidence)
    "node command result evidence time falls outside execution"
  refuseIf (command.payload.needsCurrentAck ∧ ack.schema ≠ .current)
    "this command requires the current acknowledgement schema"
  ack.validateGatewayResult command.issuedAt result

/-- Whether the acknowledgement names this command, lease, node, sequence and payload. -/
def Identifies (ack : NodeCommandAck) (command : NodeCommandEnvelope) : Prop :=
  ack.commandId = command.commandId ∧ ack.leaseId = command.leaseId ∧
    ack.nodeId = command.nodeId ∧ ack.sequence = command.sequence ∧
    ack.payloadDigest = command.payloadDigest

instance (ack : NodeCommandAck) (command : NodeCommandEnvelope) :
    Decidable (ack.Identifies command) := by
  unfold Identifies; infer_instance

def validateAgainst (ack : NodeCommandAck) (command : NodeCommandEnvelope) :
    Except String Unit := do
  command.validate X
  refuseIf (ack.schema ≠ .current ∧ ack.schema ≠ .legacy)
    ("unsupported node command acknowledgement schema " ++ ack.schema.quoted)
  refuseIf (¬ ack.Identifies command)
    "command acknowledgement identity does not match the command"
  refuseIf (ack.completedAt < command.issuedAt) "command acknowledgement predates the command"
  ack.outcome.validate X
  match ack.outcome with
  | .succeeded result => ack.validateSuccess X command result
  | .rejected _ | .failed _ => pure ()

structure ValidSuccess (ack : NodeCommandAck) (command : NodeCommandEnvelope)
    (result : NodeCommandResult) : Prop where
  wellFormed : result.validate X = .ok ()
  matchesCommand : result.matchesCommand X command = .ok ()
  evidence : ∃ evidence, result.evidence = .ok evidence ∧
    withinExecution command.issuedAt ack.completedAt evidence = true
  currentAck : command.payload.needsCurrentAck = true → ack.schema = .current
  gateway : ack.validateGatewayResult command.issuedAt result = .ok ()

variable {X}

variable {ack : NodeCommandAck} {command : NodeCommandEnvelope} {u : Unit}

theorem validateSuccess_ok_iff {result : NodeCommandResult} :
    ack.validateSuccess X command result = .ok u ↔ ack.ValidSuccess X command result := by
  simp only [validateSuccess, NodeCommandResult.validateAgainst, ok_rules, not_not, not_and]
  constructor
  · rintro ⟨⟨hr, hm⟩, evidence, he, hw, hs, hg⟩
    exact ⟨hr, hm, ⟨evidence, he, hw⟩, hs, hg⟩
  · rintro ⟨hr, hm, ⟨evidence, he, hw⟩, hs, hg⟩
    exact ⟨⟨hr, hm⟩, evidence, he, hw, hs, hg⟩

theorem validateAgainst_ok_iff :
    ack.validateAgainst X command = .ok u ↔
      command.Valid X ∧ (ack.schema = .current ∨ ack.schema = .legacy) ∧ ack.Identifies command ∧
        command.issuedAt ≤ ack.completedAt ∧ ack.outcome.validate X = .ok () ∧
        ∀ result, ack.outcome = .succeeded result → ack.ValidSuccess X command result := by
  have hschema : ¬ (ack.schema ≠ .current ∧ ack.schema ≠ .legacy) ↔
      (ack.schema = .current ∨ ack.schema = .legacy) := by tauto
  simp only [validateAgainst, ok_rules, NodeCommandEnvelope.validate_ok_iff, hschema, not_not,
    not_lt]
  cases ack.outcome with
  | succeeded =>
    simp only [validateSuccess_ok_iff, NodeCommandOutcome.succeeded.injEq, forall_eq']
  | rejected => simp [pure_ok_iff]
  | failed => simp [pure_ok_iff]

end NodeCommandAck

end A3SCloud
