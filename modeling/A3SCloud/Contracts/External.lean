import A3SCloud.Contracts.Messages

/-!
# What the modelled sources call but do not define

Checks made by the Runtime, Code and Use contract crates, the content checks of adapter messages,
and SHA-256 over canonical JSON are not part of the modelled sources. `External` collects them.
Every definition and theorem of the development takes such a record, so a result holds for every
way these calls can behave.
-/

namespace A3SCloud

/-- The fields of a resource claim that its reservation digest covers, apart from its slots. -/
structure ResourceClaimIdentity where
  id : Uuid
  organizationId : Uuid
  projectId : Uuid
  environmentId : Uuid
  workloadId : Uuid
  deploymentId : Uuid
  replicaId : Uuid
  replicaGeneration : ℕ
  memberId : Uuid
  placementGeneration : ℕ
  nodeId : Uuid
  inventoryGeneration : ℕ
  inventoryDigest : DigestText
  runtimeUnitId : String
  runtimeGeneration : ℕ
  topologyDigest : DigestText
  deriving DecidableEq

/-- The values the sources digest with SHA-256. -/
inductive Document
  | payload (payload : NodeCommandPayload)
  | claimBinding (binding : NodeResourceClaimBinding)
  | claimReleased (released : NodeResourceClaimReleased)
  | inventory (slots : List NodeResourceSlot)
  | gatewayAcl (acl : String)
  | reservation (identity : ResourceClaimIdentity) (slots : List NodeResourceSlot)
  | resourceClaim (reservationDigest : DigestText) (claimGeneration : ℕ)
      (slots : List ResourceSlotBinding)
  deriving DecidableEq

/-- The calls that leave the modelled sources. -/
structure External where
  /-- SHA-256 of the canonical JSON encoding. -/
  sha256 : Document → ℕ
  /-- `RuntimeUnitSpec::validate`. -/
  specValidate : RuntimeUnitSpec → Except String Unit
  /-- `RuntimeUnitSpec::digest`. -/
  specDigest : RuntimeUnitSpec → Except String DigestText
  /-- `RuntimeApplyRequest::validate`. -/
  applyRequestValidate : RuntimeApplyRequest → Except String Unit
  /-- `RuntimeActionRequest::validate`. -/
  actionRequestValidate : RuntimeActionRequest → Except String Unit
  /-- `RuntimeObservation::validate`. -/
  observationValidate : RuntimeObservation → Except String Unit
  /-- `RuntimeObservation::validate_against`. -/
  observationValidateAgainst : RuntimeObservation → RuntimeUnitSpec → Except String Unit
  /-- `RuntimeInspection::validate`. -/
  inspectionValidate : RuntimeInspection → Except String Unit
  /-- `RuntimeRemoval::validate`. -/
  removalValidate : RuntimeRemoval → Except String Unit
  /-- `RuntimeUnitState::is_terminal`. -/
  isTerminal : RuntimeUnitState → Bool
  /-- The text of `RuntimeError::StaleGeneration` for a unit, its requested and current generation. -/
  staleGenerationText : String → ℕ → ℕ → String
  /-- The text of `RuntimeError::GenerationConflict` for a unit and generation. -/
  generationConflictText : String → ℕ → String
  /-- `GatewayCertificateRequest::validate`, with the check that the ACL names both its files. -/
  certificateValidate : GatewayCertificateRequest → String → Except String Unit
  /-- `GatewayCertificateRequest::validate`. -/
  certificateRequestValidate : GatewayCertificateRequest → Except String Unit
  /-- The content checks of an adapter request. -/
  adapterRequestValidate : AdapterRequest → Except String Unit
  /-- The content checks of an adapter result. -/
  adapterResultValidate : AdapterResult → Except String Unit
  /-- The check that an adapter result answers its request. -/
  adapterResultValidateFor : AdapterRequest → AdapterResult → Except String Unit
  /-- `NodeAgentProviderRuntimeBindingV1::profile`. -/
  providerProfile : NodeAgentProviderRuntimeBinding → Except String AgentProviderProfile
  /-- `AGENT_PROTOCOL_V1` of the Code crate. -/
  agentProtocolV1 : String
  /-- `NodeBoxBuildRequest::binding_digest`. -/
  boxBuildBindingDigest : NodeBoxBuildRequest → Except String DigestText
  /-- `RuntimeObservation::converges`. -/
  observationConverges : RuntimeObservation → RuntimeUnitSpec → Bool
  /-- Whether the health of an observation is `Unhealthy`. -/
  observationUnhealthy : RuntimeObservation → Bool
  /-- The failure of an observation or else the message of its health. -/
  observationFailure : RuntimeObservation → Option String
  /-- `Uuid::new_v5`. -/
  uuidV5 : Uuid → String → Uuid
  /-- `Uuid::parse_str`. -/
  parseUuid : String → Option Uuid
  /-- The text of the endpoint that `UpstreamEndpoint::parse` accepts. -/
  parseUpstream : String → Except String String

namespace External

variable (X : External)

/-- `format!("sha256:{:x}", Sha256::digest(encoded))`. -/
def digest (document : Document) : DigestText := .sha256 (X.sha256 document)

end External

end A3SCloud
