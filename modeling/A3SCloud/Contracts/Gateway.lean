import A3SCloud.Contracts.External

/-!
# Gateway snapshot contracts

The model of the snapshot part of `crates/contracts/src/node/gateway.rs` and of `NodeGatewayAck` in
`observation.rs`: when a snapshot, a request to observe one, an acknowledgement and an observation
are well formed, and when a result answers its command.
-/

namespace A3SCloud

open Checks

variable (X : External)

def GatewayManagementProtocol.validate (protocol : GatewayManagementProtocol) :
    Except String Unit :=
  refuseIf (protocol.protocol ≠ .current ∨ protocol.snapshotRequestSchema ≠ .current ∨
      protocol.snapshotStatusSchema ≠ .current)
    ("unsupported Gateway management protocol " ++ protocol.protocol.quoted)

def GatewaySnapshot.validate (snapshot : GatewaySnapshot) : Except String Unit := do
  validateSchema "unsupported Gateway snapshot schema" snapshot.schema
  validateUuid "Gateway snapshot Gateway ID" snapshot.gatewayId
  refuseIf (snapshot.revision = 0) "Gateway snapshot revision must be positive"
  refuseIf (snapshot.expectedRevision.any
      (fun expected => expected = 0 ∨ snapshot.revision ≤ expected))
    "Gateway snapshot expected revision must be positive and precede its revision"
  refuseIf (isBlank snapshot.acl ∨ 1024 * 1024 < snapshot.acl.utf8ByteSize ∨
      containsAny snapshot.acl ['\x00'])
    "Gateway snapshot ACL must contain 1 byte to 1 MiB without NUL"
  match snapshot.certificateRequest with
  | none => pure ()
  | some certificate => X.certificateValidate certificate snapshot.acl
  refuseIf (snapshot.expiresAt ≤ snapshot.issuedAt)
    "Gateway snapshot expiry must follow its issue time"
  -- the validity of a snapshot is at most 24 hours
  refuseIf (24 * 3600 * 1000000000 < snapshot.expiresAt - snapshot.issuedAt)
    "Gateway snapshot validity must not exceed 24 hours"
  validateSha256 "Gateway snapshot digest" snapshot.snapshotDigest
  refuseIf (snapshot.snapshotDigest ≠ X.digest (.gatewayAcl snapshot.acl))
    "Gateway snapshot digest does not match its exact ACL bytes"

def GatewaySnapshotObservationRequest.validate (request : GatewaySnapshotObservationRequest) :
    Except String Unit := do
  validateSchema "unsupported Gateway snapshot observation request schema" request.schema
  validateUuid "Gateway snapshot observation Gateway ID" request.gatewayId
  refuseIf (request.revision = 0) "Gateway snapshot observation revision must be positive"
  validateSha256 "Gateway snapshot observation digest" request.snapshotDigest

def AppliedGatewaySnapshot.validate (applied : AppliedGatewaySnapshot) : Except String Unit := do
  validateUuid "applied Gateway snapshot Gateway ID" applied.gatewayId
  refuseIf (applied.revision = 0 ∨
      applied.expectedRevision.any (fun revision => revision = 0 ∨ applied.revision ≤ revision))
    "applied Gateway snapshot revision chain is invalid"
  validateSha256 "applied Gateway snapshot digest" applied.snapshotDigest
  refuseIf (applied.expiresAt ≤ applied.issuedAt ∨ applied.appliedAt < applied.issuedAt ∨
      applied.expiresAt ≤ applied.appliedAt)
    "applied Gateway snapshot timestamps are invalid"

namespace NodeGatewaySnapshotObservation

variable (observation : NodeGatewaySnapshotObservation)

/-- The snapshot the Gateway reports is the requested one. -/
def requestedIsApplied : Bool :=
  observation.applied.any (fun applied =>
    applied.gatewayId = observation.gatewayId ∧ applied.revision = observation.revision ∧
      applied.snapshotDigest = observation.snapshotDigest)

/-- The checks that depend on the reported state. -/
def validateState : Except String Unit :=
  match observation.state with
  | .applied =>
    refuseIf (¬ observation.ready ∨ ¬ observation.requestedIsApplied ∨
        observation.applied.any (fun applied => applied.expiresAt ≤ observation.observedAt))
      "applied Gateway snapshot observation is not exact and ready"
  | .expired =>
    refuseIf (observation.ready ∨ ¬ observation.requestedIsApplied ∨
        observation.applied.all (fun applied => observation.observedAt < applied.expiresAt))
      "expired Gateway snapshot observation is inconsistent"
  | .rejected | .notApplied =>
    refuseIf (observation.ready ∨ observation.requestedIsApplied)
      "unapplied Gateway snapshot observation retained the requested state"
  | .uninitialized =>
    refuseIf (observation.ready ∨ observation.applied.isSome)
      "uninitialized Gateway snapshot observation is inconsistent"
  | .applying =>
    refuseIf observation.ready "applying Gateway snapshot observation cannot be ready"

/-- The checks on the snapshot the Gateway reports as applied. -/
def validateApplied : Except String Unit :=
  match observation.applied with
  | none => pure ()
  | some applied => do
    applied.validate
    refuseIf (applied.gatewayId ≠ observation.gatewayId ∨
        observation.observedAt < applied.appliedAt)
      "Gateway snapshot observation applied state identity or time is inconsistent"

def validate (observation : NodeGatewaySnapshotObservation) : Except String Unit := do
  validateSchema "unsupported node Gateway snapshot observation schema" observation.schema
  validateUuid "Gateway snapshot observation ID" observation.observationId
  validateUuid "Gateway snapshot observation command ID" observation.commandId
  validateUuid "Gateway snapshot observation node ID" observation.nodeId
  validateUuid "Gateway snapshot observation Gateway ID" observation.gatewayId
  refuseIf (observation.nodeId ≠ observation.gatewayId ∨ observation.revision = 0)
    "Gateway snapshot observation identity is inconsistent"
  validateSha256 "Gateway snapshot observation digest" observation.snapshotDigest
  observation.managementProtocol.validate
  observation.validateApplied
  observation.validateState

def validateFor (commandId nodeId : Uuid)
    (request : GatewaySnapshotObservationRequest) : Except String Unit := do
  observation.validate
  request.validate
  refuseIf (observation.commandId ≠ commandId ∨ observation.nodeId ≠ nodeId ∨
      observation.gatewayId ≠ request.gatewayId ∨ observation.revision ≠ request.revision ∨
      observation.snapshotDigest ≠ request.snapshotDigest)
    "Gateway snapshot observation does not match its exact node command"

end NodeGatewaySnapshotObservation

namespace NodeGatewayAck

variable (acknowledgement : NodeGatewayAck)

/-- The checks that depend on the schema of the acknowledgement. -/
def validateProtocol : Except String Unit :=
  match acknowledgement.schema with
  | .current =>
    match acknowledgement.managementProtocol with
    | none =>
      refuseIf (acknowledgement.state = .applied)
        "applied Gateway acknowledgement must identify its management protocol"
    | some protocol => protocol.validate
  | .legacy =>
    refuseIf acknowledgement.managementProtocol.isSome
      "legacy Gateway acknowledgement must omit management protocol evidence"
  | .other _ => .error ("unsupported Gateway ack schema " ++ acknowledgement.schema.quoted)

/-- The checks that depend on the reported state. -/
def validateState : Except String Unit :=
  match acknowledgement.state, acknowledgement.ready, acknowledgement.message with
  | .applied, true, none =>
    refuseIf (acknowledgement.expiresAt ≤ acknowledgement.acknowledgedAt)
      "applied Gateway acknowledgement must precede snapshot expiry"
  | .rejected, false, some message =>
    validateSingleLine "Gateway acknowledgement message" message (16 * 1024)
  | .applied, _, _ => .error "applied Gateway acknowledgement must be ready and omit a message"
  | .rejected, _, _ =>
    .error "rejected Gateway acknowledgement must not be ready and must contain a message"

def validate : Except String Unit := do
  acknowledgement.validateProtocol
  validateUuid "acknowledgement_id" acknowledgement.acknowledgementId
  validateUuid "command_id" acknowledgement.commandId
  validateUuid "node_id" acknowledgement.nodeId
  validateUuid "gateway_id" acknowledgement.gatewayId
  refuseIf (acknowledgement.revision = 0) "Gateway acknowledgement revision must be positive"
  validateSha256 "Gateway snapshot digest" acknowledgement.snapshotDigest
  acknowledgement.validateState

def validateFor (commandId nodeId : Uuid) (snapshot : GatewaySnapshot) : Except String Unit := do
  acknowledgement.validate
  snapshot.validate X
  refuseIf (acknowledgement.commandId ≠ commandId ∨ acknowledgement.nodeId ≠ nodeId ∨
      acknowledgement.gatewayId ≠ snapshot.gatewayId ∨
      acknowledgement.revision ≠ snapshot.revision ∨
      acknowledgement.snapshotDigest ≠ snapshot.snapshotDigest ∨
      acknowledgement.expiresAt ≠ snapshot.expiresAt)
    "Gateway acknowledgement does not match its command and exact snapshot identity"

end NodeGatewayAck

end A3SCloud
