import A3SCloud.Contracts.Resource

/-!
# Node messages

The data of the node protocol of `crates/contracts/src/node`: Runtime requests and observations,
resource claims, inventories, Gateway snapshots, commands with their results, and acknowledgements.
Field names follow the sources. A `body` stands for the fields of a message that no modelled
function reads; two messages that differ in such a field differ in their `body`.

Commands that a node only hands on to one of its adapters (the Durable Cell operator, the Agent
provider and Code harnesses, Box builds and the Plugin Host) are grouped as `AdapterRequest`, their
results as `AdapterResult`.
-/

namespace A3SCloud

/-! ### Runtime contract -/

structure RuntimeResources where
  cpuMillis : ℕ
  memoryBytes : ℕ
  ephemeralStorageBytes : Option ℕ
  deriving DecidableEq

structure RuntimeUnitSpec where
  unitId : String
  generation : ℕ
  resources : RuntimeResources
  body : String
  deriving DecidableEq

structure RuntimeApplyRequest where
  requestId : String
  deadlineAtMs : Option ℕ
  spec : RuntimeUnitSpec
  deriving DecidableEq

structure RuntimeActionRequest where
  requestId : String
  unitId : String
  generation : ℕ
  deadlineAtMs : Option ℕ
  deriving DecidableEq

inductive RuntimeUnitState
  | accepted
  | running
  | stopped
  | succeeded
  | failed
  | unknown
  deriving DecidableEq

/-- The text of an evidence claim: that of an identifier, that of a digest, or any other. -/
inductive EvidenceText
  | uuid (id : Uuid)
  | digest (digest : DigestText)
  | other (text : String)
  deriving DecidableEq

structure RuntimeEvidence where
  providerBuild : String
  specDigest : DigestText
  claims : List (String × EvidenceText)
  body : String
  deriving DecidableEq

structure RuntimeObservation where
  unitId : String
  generation : ℕ
  specDigest : DigestText
  state : RuntimeUnitState
  providerResourceId : Option String
  providerBuild : Option String
  evidence : Option RuntimeEvidence
  body : String
  deriving DecidableEq

inductive RuntimeInspection
  | found (observation : RuntimeObservation)
  | notFound (unitId : String)
  deriving DecidableEq

structure RuntimeRemoval where
  requestId : String
  unitId : String
  generation : ℕ
  body : String
  deriving DecidableEq

/-! ### Resource claims and inventories -/

structure NodeResourceClaimBinding where
  schema : SchemaText
  claimId : Uuid
  nodeId : Uuid
  agentInstanceId : Uuid
  inventoryGeneration : ℕ
  inventoryDigest : DigestText
  runtimeUnitId : String
  runtimeGeneration : ℕ
  topologyDigest : DigestText
  slots : List ResourceSlotBinding
  deriving DecidableEq

/-- `NodeResourceClaimPrepare` and `NodeResourceClaimRelease` have the same fields. -/
structure NodeResourceClaimRequest where
  schema : SchemaText
  claimGeneration : ℕ
  claimDigest : DigestText
  binding : NodeResourceClaimBinding
  deriving DecidableEq

abbrev NodeResourceClaimPrepare := NodeResourceClaimRequest

abbrev NodeResourceClaimRelease := NodeResourceClaimRequest

/-- `NodeResourceClaimPrepared` and `NodeResourceClaimReleased` have the same fields, apart from
the name of the time. -/
structure NodeResourceClaimEvidence where
  schema : SchemaText
  claimId : Uuid
  claimGeneration : ℕ
  claimDigest : DigestText
  bindingDigest : DigestText
  slots : List ResourceSlotEvidence
  observedAt : ℤ
  deriving DecidableEq

abbrev NodeResourceClaimPrepared := NodeResourceClaimEvidence

abbrev NodeResourceClaimReleased := NodeResourceClaimEvidence

structure NodeResourceSlot where
  kind : ResourceKind
  stableResourceId : String
  allocation : ResourceAllocation
  deriving DecidableEq

structure NodeResourceInventory where
  schema : SchemaText
  nodeId : Uuid
  agentInstanceId : Uuid
  generation : ℕ
  observedAt : ℤ
  slots : List NodeResourceSlot
  digest : DigestText
  deriving DecidableEq

/-! ### Gateway snapshots -/

inductive GatewayManagementProtocolDiscovery
  | advertised
  | legacyVersionV1
  deriving DecidableEq

structure GatewayManagementProtocol where
  protocol : SchemaText
  snapshotRequestSchema : SchemaText
  snapshotStatusSchema : SchemaText
  discovery : GatewayManagementProtocolDiscovery
  deriving DecidableEq

structure GatewayCertificateRequest where
  certificateId : Uuid
  certificateFile : String
  privateKeyFile : String
  body : String
  deriving DecidableEq

structure GatewaySnapshot where
  schema : SchemaText
  gatewayId : Uuid
  revision : ℕ
  expectedRevision : Option ℕ
  snapshotDigest : DigestText
  issuedAt : ℤ
  expiresAt : ℤ
  acl : String
  certificateRequest : Option GatewayCertificateRequest
  deriving DecidableEq

structure GatewaySnapshotObservationRequest where
  schema : SchemaText
  gatewayId : Uuid
  revision : ℕ
  snapshotDigest : DigestText
  deriving DecidableEq

inductive GatewaySnapshotObservationState
  | applying
  | applied
  | rejected
  | expired
  | notApplied
  | uninitialized
  deriving DecidableEq

inductive GatewayAckState
  | applied
  | rejected
  deriving DecidableEq

structure AppliedGatewaySnapshot where
  gatewayId : Uuid
  revision : ℕ
  expectedRevision : Option ℕ
  snapshotDigest : DigestText
  issuedAt : ℤ
  expiresAt : ℤ
  appliedAt : ℤ
  deriving DecidableEq

structure NodeGatewaySnapshotObservation where
  schema : SchemaText
  observationId : Uuid
  commandId : Uuid
  nodeId : Uuid
  gatewayId : Uuid
  revision : ℕ
  snapshotDigest : DigestText
  state : GatewaySnapshotObservationState
  ready : Bool
  applied : Option AppliedGatewaySnapshot
  observedAt : ℤ
  managementProtocol : GatewayManagementProtocol
  deriving DecidableEq

structure NodeGatewayAck where
  schema : SchemaText
  acknowledgementId : Uuid
  commandId : Uuid
  nodeId : Uuid
  gatewayId : Uuid
  revision : ℕ
  snapshotDigest : DigestText
  expiresAt : ℤ
  state : GatewayAckState
  ready : Bool
  message : Option String
  acknowledgedAt : ℤ
  managementProtocol : Option GatewayManagementProtocol
  deriving DecidableEq

/-! ### Requests and results of the node's adapters -/

structure NodeDurableCellOperatorBinding where
  applicationId : Uuid
  runtimeUnitId : String
  runtimeGeneration : ℕ
  body : String
  deriving DecidableEq

structure AgentProviderProfile where
  kind : String
  nativeProtocol : String
  body : String
  deriving DecidableEq

structure AgentRunIdentity where
  agentReleaseIdentity : String
  sessionId : String
  runId : String
  deriving DecidableEq

structure NodeAgentProviderRuntimeBinding where
  schema : SchemaText
  executionId : Uuid
  workloadId : Uuid
  workloadRevisionId : Uuid
  deploymentId : Uuid
  replicaId : Uuid
  runtimeUnitId : String
  runtimeGeneration : ℕ
  runtimeSpecDigest : DigestText
  servicePortName : String
  providerProfileAcl : String
  providerProfileDigest : DigestText
  providerRunIdentity : AgentRunIdentity
  deriving DecidableEq

structure NodeCodeAgentRuntimeBinding where
  schema : SchemaText
  executionId : Uuid
  workloadId : Uuid
  workloadRevisionId : Uuid
  deploymentId : Uuid
  replicaId : Uuid
  runtimeUnitId : String
  runtimeGeneration : ℕ
  runtimeSpecDigest : DigestText
  servicePortName : String
  codeRunIdentity : AgentRunIdentity
  deriving DecidableEq

/-- A command of the Agent provider protocol or of the Code protocol. -/
structure AgentCommand where
  body : String
  deriving DecidableEq

/-- The receipt of a provider or Code command. -/
structure AgentCommandReceipt where
  observedAtMs : ℕ
  replayed : Bool
  body : String
  deriving DecidableEq

structure NodeBoxBuildRequest where
  generation : ℕ
  body : String
  deriving DecidableEq

inductive AdapterRequest
  | durableCellOperatorObserve (binding : NodeDurableCellOperatorBinding)
  | agentProviderCommand (binding : NodeAgentProviderRuntimeBinding) (command : AgentCommand)
  | codeAgentCommand (binding : NodeCodeAgentRuntimeBinding) (command : AgentCommand)
  | boxBuildStart (request : NodeBoxBuildRequest)
  | boxBuildInspect (request : NodeBoxBuildRequest)
  | boxBuildCancel (request : NodeBoxBuildRequest)
  | boxBuildRemove (request : NodeBoxBuildRequest)
  | pluginHostCapabilitiesInspect (generation : ℕ)
  | pluginHostAuthorizeTrust (generation : ℕ) (body : String)
  | pluginHostPlan (assignmentGeneration : ℕ) (body : String)
  | pluginHostApply (assignmentGeneration : ℕ) (body : String)
  | pluginHostPlanEnablement (assignmentGeneration : ℕ) (body : String)
  | pluginHostObserve (assignmentGeneration : ℕ) (body : String)
  deriving DecidableEq

inductive AdapterResult
  | durableCellOperatorObserved (observedAtMs : ℕ) (body : String)
  | agentProviderCommandAccepted (receipt : AgentCommandReceipt)
  | codeAgentCommandAccepted (receipt : AgentCommandReceipt)
  | boxBuildStarted (body : String)
  | boxBuildInspected (body : String)
  | boxBuildCancelled (body : String)
  | boxBuildRemoved (body : String)
  | pluginHostCapabilitiesInspected (body : String)
  | pluginHostTrustAuthorized (authorizedAt : ℤ) (body : String)
  | pluginHostPlanned (createdAtMs : ℕ) (replayed : Bool) (body : String)
  | pluginHostApplied (completedAtMs : ℕ) (replayed : Bool) (body : String)
  | pluginHostEnablementPlanned (plannedAtMs : ℕ) (replayed : Bool) (body : String)
  | pluginHostObserved (observedAtMs : ℕ) (body : String)
  deriving DecidableEq

/-! ### Commands, results and acknowledgements -/

inductive NodeCommandPayload
  | resourceClaimPrepare (request : NodeResourceClaimPrepare)
  | runtimeApply (request : RuntimeApplyRequest) (resourceClaim : Option NodeResourceClaimBinding)
  | runtimeInspect (unitId : String) (generation : ℕ)
  | runtimeStop (request : RuntimeActionRequest)
  | runtimeRemove (request : RuntimeActionRequest)
  | resourceClaimRelease (request : NodeResourceClaimRelease)
  | gatewaySnapshotInstall (snapshot : GatewaySnapshot)
  | gatewaySnapshotObserve (request : GatewaySnapshotObservationRequest)
  | adapter (request : AdapterRequest)
  deriving DecidableEq

structure NodeCommandEnvelope where
  schema : SchemaText
  commandId : Uuid
  leaseId : Uuid
  nodeId : Uuid
  sequence : ℕ
  aggregateId : Uuid
  generation : ℕ
  payloadSchema : String
  payloadDigest : DigestText
  issuedAt : ℤ
  notAfter : ℤ
  correlationId : Uuid
  payload : NodeCommandPayload
  deriving DecidableEq

inductive NodeCommandResult
  | resourceClaimPrepared (prepared : NodeResourceClaimPrepared)
  | runtimeApplied (observation : RuntimeObservation)
  | runtimeInspected (inspection : RuntimeInspection)
  | runtimeStopped (inspection : RuntimeInspection)
  | runtimeRemoved (removal : RuntimeRemoval)
  | resourceClaimReleased (released : NodeResourceClaimReleased)
  | gatewaySnapshotInstalled (acknowledgement : NodeGatewayAck)
  | gatewaySnapshotObserved (observation : NodeGatewaySnapshotObservation)
  | adapter (result : AdapterResult)
  deriving DecidableEq

structure NodeCommandFailure where
  code : String
  message : String
  retryable : Bool
  deriving DecidableEq

inductive NodeCommandOutcome
  | succeeded (result : NodeCommandResult)
  | rejected (failure : NodeCommandFailure)
  | failed (failure : NodeCommandFailure)
  deriving DecidableEq

structure NodeCommandAck where
  schema : SchemaText
  commandId : Uuid
  leaseId : Uuid
  nodeId : Uuid
  sequence : ℕ
  payloadDigest : DigestText
  completedAt : ℤ
  outcome : NodeCommandOutcome
  deriving DecidableEq

structure NodeCommandAckReceipt where
  schema : SchemaText
  commandId : Uuid
  nodeId : Uuid
  replayed : Bool
  deriving DecidableEq

end A3SCloud
