import A3SCloud.Contracts.Command

/-!
# A small world

Concrete commands on which the statements of the development are evaluated: one node with one
processor and memory slot each, one claim on them, and the commands that prepare, apply, stop and
release it. `Sample.external` accepts every message of the crates that are not modelled; its digest
tells the commands of the samples apart.
-/

namespace A3SCloud.Sample

/-- A time in whole seconds. -/
def seconds (n : ℕ) : ℤ := n * 1000000000

/-- A digest of the sample documents. -/
def sha256 : Document → ℕ
  | .payload payload =>
    let tag := match payload with
      | .resourceClaimPrepare _ => 1
      | .runtimeApply _ none => 2
      | .runtimeApply _ (some _) => 3
      | .runtimeInspect _ _ => 4
      | .runtimeStop _ => 5
      | .runtimeRemove _ => 6
      | .resourceClaimRelease _ => 7
      | .gatewaySnapshotInstall _ => 8
      | .gatewaySnapshotObserve _ => 9
      | .adapter _ => 10
    let deadline := match payload with
      | .runtimeApply request _ => request.deadlineAtMs.getD 0
      | _ => 0
    tag + 100 * payload.generation + 1000000 * deadline
  | .claimBinding binding => 50 + 100 * binding.claimId
  | .claimReleased released => 60 + 100 * released.claimId
  | .inventory slots => 70 + 100 * slots.length
  | .gatewayAcl acl => 80 + 100 * acl.length
  | .reservation identity _ => 13 + 100 * identity.id
  | .resourceClaim _ generation _ => 20 + generation

/-- A world in which every message of the other crates is accepted. -/
def external : External where
  sha256 := sha256
  specValidate _ := .ok ()
  specDigest spec := .ok (.sha256 (90 + 100 * spec.generation))
  applyRequestValidate _ := .ok ()
  actionRequestValidate _ := .ok ()
  observationValidate _ := .ok ()
  observationValidateAgainst _ _ := .ok ()
  inspectionValidate _ := .ok ()
  removalValidate _ := .ok ()
  isTerminal state := state = .stopped ∨ state = .succeeded ∨ state = .failed
  staleGenerationText _ _ _ := "stale generation"
  generationConflictText _ _ := "generation conflict"
  certificateValidate _ _ := .ok ()
  certificateRequestValidate _ := .ok ()
  adapterRequestValidate _ := .ok ()
  adapterResultValidate _ := .ok ()
  adapterResultValidateFor _ _ := .ok ()
  providerProfile _ := .ok { kind := "a3s.code", nativeProtocol := "agent", body := "" }
  agentProtocolV1 := "agent"
  boxBuildBindingDigest _ := .ok (.sha256 11)
  observationConverges observation _ := observation.state = .running
  observationUnhealthy _ := false
  observationFailure _ := none
  uuidV5 base name := 10000 * base + (name.toList.map Char.toNat).sum
  parseUuid _ := none
  parseUpstream endpoint := .ok endpoint

def nodeId : Uuid := 1

def claimId : Uuid := 2

def workloadId : Uuid := 3

/-! ### The claim and its inventory -/

def slots : List ResourceSlotBinding := [
  { kind := .cpu
    stableResourceId := "cpu0"
    allocation := .scalar 500 .milliCpu
    slotGeneration := 1
    fenceToken := 6 },
  { kind := .memory
    stableResourceId := "mem0"
    allocation := .scalar 1024 .byte
    slotGeneration := 1
    fenceToken := 7 }]

def inventory : NodeResourceInventory where
  schema := .current
  nodeId := nodeId
  agentInstanceId := 4
  generation := 1
  observedAt := seconds 1
  slots := [
    { kind := .cpu, stableResourceId := "cpu0", allocation := .scalar 1000 .milliCpu },
    { kind := .memory, stableResourceId := "mem0", allocation := .scalar 4096 .byte }]
  digest := .sha256 270

def binding : NodeResourceClaimBinding where
  schema := .current
  claimId := claimId
  nodeId := nodeId
  agentInstanceId := 4
  inventoryGeneration := 1
  inventoryDigest := .sha256 270
  runtimeUnitId := "u"
  runtimeGeneration := 1
  topologyDigest := .sha256 12
  slots := slots

def prepare : NodeResourceClaimPrepare where
  schema := .current
  claimGeneration := 1
  claimDigest := .sha256 21
  binding := binding

def release (generation : ℕ) : NodeResourceClaimRelease where
  schema := .current
  claimGeneration := generation
  claimDigest := .sha256 (20 + generation)
  binding := binding

def spec : RuntimeUnitSpec where
  unitId := "u"
  generation := 1
  resources := { cpuMillis := 500, memoryBytes := 1024, ephemeralStorageBytes := none }
  body := ""

def applyRequest (deadlineAtMs : Option ℕ) : RuntimeApplyRequest where
  requestId := "apply"
  deadlineAtMs := deadlineAtMs
  spec := spec

def actionRequest : RuntimeActionRequest where
  requestId := "stop"
  unitId := "u"
  generation := 1
  deadlineAtMs := none

def observation : RuntimeObservation where
  unitId := "u"
  generation := 1
  specDigest := .sha256 190
  state := .running
  providerResourceId := some "box"
  providerBuild := none
  evidence := none
  body := ""

/-! ### Commands -/

/-- The command with a payload: its identifier is 100 more than its sequence, it is issued at
`10 * sequence` seconds and expires nine seconds later. -/
def command (sequence : ℕ) (aggregateId : Uuid) (payload : NodeCommandPayload) :
    NodeCommandEnvelope where
  schema := .current
  commandId := 100 + sequence
  leaseId := 200
  nodeId := nodeId
  sequence := sequence
  aggregateId := aggregateId
  generation := payload.generation
  payloadSchema := payload.schema
  payloadDigest := external.digest (.payload payload)
  issuedAt := seconds (10 * sequence)
  notAfter := seconds (10 * sequence + 9)
  correlationId := 5
  payload := payload

end A3SCloud.Sample
