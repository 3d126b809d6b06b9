import A3SCloud.Lib.Runs
import A3SCloud.Workloads.Repository

/-!
# The replicas of the Workload repository

The part of `modules/workloads/infrastructure/persistence/in_memory.rs` that reconciles single
replicas: the replicas that wait for a deployment, evacuations and retirements, and the Runtime
targets that are observed. A deployment for a replica is built as in
`modules/workloads/infrastructure/replica_deployment_materialization.rs`.

* `WorkloadAction` and `WorkloadStore.step` are the operations of the repository as one system.
-/

namespace A3SCloud

open Checks

structure ReplicaDeploymentCandidate where
  organizationId : Uuid
  workloadId : Uuid
  replicaId : Uuid
  replicaOrdinal : ℕ
  revisionId : Uuid
  revisionGeneration : ℕ
  replicaGeneration : ℕ
  deriving DecidableEq

structure ReplicaDeploymentMaterialization where
  candidate : ReplicaDeploymentCandidate
  deployment : Deployment
  operation : WorkloadDeploymentOperationIntent
  memberBindings : List DeploymentReplicaBinding
  created : Bool
  deriving DecidableEq

structure ReplicaEvacuationCandidate where
  organizationId : Uuid
  workloadId : Uuid
  replicaId : Uuid
  replicaGeneration : ℕ
  expectedReplicaVersion : ℕ
  memberId : Uuid
  expectedMemberVersion : ℕ
  sourceNodeId : Uuid
  placementGeneration : ℕ
  deriving DecidableEq

structure ReplicaEvacuationRequest where
  candidate : ReplicaEvacuationCandidate
  requestedAt : ℤ
  correlationId : Uuid
  deriving DecidableEq

structure ReplicaRetirementDispatch where
  organizationId : Uuid
  workloadId : Uuid
  replicaId : Uuid
  replicaGeneration : ℕ
  expectedReplicaVersion : ℕ
  commandId : Uuid
  dispatchedAt : ℤ
  deriving DecidableEq

structure ReplicaRuntimeFence where
  organizationId : Uuid
  workloadId : Uuid
  replicaId : Uuid
  replicaGeneration : ℕ
  expectedReplicaVersion : ℕ
  commandId : Uuid
  fencedAt : ℤ
  deriving DecidableEq

/-- What becomes of the writer fence that goes with a Runtime fence: the checks of the receipt, and
the composition of its operation after the fence is stored. -/
structure WriterFenceOutcome where
  checked : Except RepositoryError Unit
  composed : Except RepositoryError Unit

structure ReplicaRetirementCompletion where
  organizationId : Uuid
  workloadId : Uuid
  replicaId : Uuid
  replicaGeneration : ℕ
  expectedReplicaVersion : ℕ
  memberId : Uuid
  expectedMemberVersion : ℕ
  fencedNodeId : Option Uuid
  correlationId : Uuid
  completedAt : ℤ
  deriving DecidableEq

structure ActiveRuntimeTarget where
  workload : Workload
  revision : WorkloadRevision
  replica : WorkloadReplica
  member : WorkloadReplicaMember
  deployment : Deployment
  replicaBinding : DeploymentReplicaBinding
  runtimeExecutionBinding : Option DeploymentRuntimeExecutionBinding
  deriving DecidableEq

namespace WorkloadStore

variable (X : External) (V : WorkloadServices)

/-! ### Replicas that wait for a deployment -/

variable (s : WorkloadStore)

def generationBinding (replica : WorkloadReplica) : Option DeploymentReplicaBinding :=
  s.bindings.rows.find? (fun binding =>
    binding.replicaId = replica.id ∧ binding.replicaGeneration = replica.generation)

def candidateOf (replica : WorkloadReplica) : ReplicaDeploymentCandidate where
  organizationId := replica.organizationId
  workloadId := replica.workloadId
  replicaId := replica.id
  replicaOrdinal := replica.ordinal
  revisionId := replica.revisionId
  revisionGeneration := replica.revisionGeneration
  replicaGeneration := replica.generation

/-- The Workload of a replica runs, and no other revision than that of the replica is active. -/
def replicaWanted (workload : Workload) (control : WorkloadControl) (replica : WorkloadReplica) :
    Bool :=
  replica.lifecycle = .desired ∧ workload.desiredState = .running ∧
    workload.activeRevisionId.all (fun active => active = replica.revisionId) ∧
    replica.ordinal < control.desiredReplicas

/-- Whether a replica waits for a deployment; the placement groups of a multi-node topology are not
modelled, so that no replica of one is ready. -/
def isPending (replica : WorkloadReplica) : Bool :=
  match s.workloads.get? replica.workloadId, s.controls.get? replica.workloadId with
  | some workload, some control =>
    replicaWanted workload control replica ∧
      control.spec.placementPolicy.topology = .singleNode ∧
      control.spec.placementPolicy.membersPerReplica = 1 ∧ s.generationBinding replica = none
  | _, _ => false

/-- The order of the replicas that wait. -/
def pendingBefore (a b : WorkloadReplica) : Prop :=
  a.updatedAt < b.updatedAt ∨ (a.updatedAt = b.updatedAt ∧
    [a.workloadId, a.ordinal, a.id] ≤ [b.workloadId, b.ordinal, b.id])

instance : DecidableRel pendingBefore := fun _ _ => inferInstanceAs (Decidable (_ ∨ _))

def pendingReplicaDeployments (limit : ℕ) :
    Except RepositoryError (List ReplicaDeploymentCandidate) := do
  refuseIf (limit = 0 ∨ 10000 < limit)
    (.conflict "replica deployment candidate limit must be between 1 and 10000")
  pure ((((s.replicas.rows.filter s.isPending).insertionSort pendingBefore).take limit).map
    candidateOf)

/-! ### The deployment of a replica -/

variable (candidate : ReplicaDeploymentCandidate)

def replicaDeploymentId : Uuid :=
  X.uuidV5 candidate.replicaId
    ("a3s.cloud.replica-deployment.v1:" ++ toString candidate.replicaGeneration)

def replicaOperationId : Uuid :=
  X.uuidV5 (replicaDeploymentId X candidate) "a3s.cloud.replica-deployment-operation.v1"

def replicaMaterializationCorrelationId : Uuid :=
  X.uuidV5 (replicaDeploymentId X candidate) "a3s.cloud.replica-deployment-materialization.v1"

def replicaOperationIntent (deployment : Deployment) : WorkloadDeploymentOperationIntent where
  operationId := deployment.operationId
  organizationId := deployment.organizationId
  deploymentId := deployment.id
  revisionId := deployment.revisionId
  workloadId := deployment.workloadId
  requestedAt := deployment.requestedAt

def validateMaterializationContext (workload : Workload)
    (revision : WorkloadRevision) (replica : WorkloadReplica) (member : WorkloadReplicaMember) :
    Except String Unit := do
  replica.validate X
  member.validate X
  refuseIf (candidate.organizationId ≠ workload.organizationId ∨
      candidate.workloadId ≠ workload.id ∨ candidate.replicaId ≠ replica.id ∨
      candidate.replicaOrdinal ≠ replica.ordinal ∨ candidate.revisionId ≠ revision.id ∨
      candidate.revisionGeneration ≠ revision.generation ∨
      candidate.replicaGeneration ≠ replica.generation ∨ workload.desiredState ≠ .running ∨
      revision.workloadId ≠ workload.id ∨ replica.organizationId ≠ workload.organizationId ∨
      replica.projectId ≠ workload.projectId ∨
      replica.environmentId ≠ workload.environmentId ∨ replica.workloadId ≠ workload.id ∨
      replica.revisionId ≠ revision.id ∨ replica.revisionGeneration ≠ revision.generation ∨
      replica.lifecycle ≠ .desired ∨ member.organizationId ≠ workload.organizationId ∨
      member.projectId ≠ workload.projectId ∨ member.environmentId ≠ workload.environmentId ∨
      member.workloadId ≠ workload.id ∨ member.replicaId ≠ replica.id ∨ member.nodeId.isSome)
    "replica deployment materialization context is inconsistent"

/-- `build_replica_deployment_write`: the deployment and its binding. -/
def buildReplicaDeploymentWrite (workload : Workload)
    (revision : WorkloadRevision) (replica : WorkloadReplica) (member : WorkloadReplicaMember)
    (requestedAt : ℤ) : Except String (Deployment × DeploymentReplicaBinding) := do
  validateMaterializationContext X candidate workload revision replica member
  let requestedAt := canonicalTimestamp (max (max (max (max requestedAt workload.updatedAt)
    revision.createdAt) replica.updatedAt) member.updatedAt)
  let deployment := Deployment.create (replicaDeploymentId X candidate) workload.organizationId
    workload.id revision.id (replicaOperationId X candidate) requestedAt
  let binding ← DeploymentReplicaBinding.create X deployment revision replica member
  V.deploymentRequested deployment revision (replicaMaterializationCorrelationId X candidate)
  pure (deployment, binding)

/-- A candidate whose replica has moved on is skipped. -/
def candidateStale (workload : Workload)
    (control : WorkloadControl) (replica : WorkloadReplica) : Bool :=
  replica.workloadId ≠ candidate.workloadId ∨ replica.ordinal ≠ candidate.replicaOrdinal ∨
    replica.revisionId ≠ candidate.revisionId ∨
    replica.revisionGeneration ≠ candidate.revisionGeneration ∨
    replica.generation ≠ candidate.replicaGeneration ∨ ¬ replicaWanted workload control replica

def materializationFromExisting (deployment : Deployment)
    (memberBindings : List DeploymentReplicaBinding) :
    Except String ReplicaDeploymentMaterialization := do
  refuseIf (deployment.id ≠ replicaDeploymentId X candidate ∨
      deployment.operationId ≠ replicaOperationId X candidate ∨
      deployment.organizationId ≠ candidate.organizationId ∨
      deployment.workloadId ≠ candidate.workloadId ∨
      deployment.revisionId ≠ candidate.revisionId)
    "stored replica deployment does not match its deterministic identity"
  pure ⟨candidate, deployment, replicaOperationIntent deployment, memberBindings, false⟩

/-- The member bindings of a stored deployment are its binding alone. -/
def validateExistingMaterialization (binding : DeploymentReplicaBinding)
    (memberBindings : List DeploymentReplicaBinding) : Except String Unit :=
  match memberBindings with
  | [] => .error "stored Deployment omitted its replica member binding"
  | first :: rest => do
    refuseIf (first ≠ binding) "stored Deployment leader binding is inconsistent"
    refuseIf (rest ≠ []) "stored Deployment execution shape is inconsistent"

def materializeExisting (binding : DeploymentReplicaBinding) :
    Except RepositoryError (Option ReplicaDeploymentMaterialization × WorkloadStore) := do
  let deployment ← orElse
    (.storage "replica generation binding references a missing deployment")
    (s.deployments.get? binding.deploymentId)
  let memberBindings := s.memberBindings.rows.filter
    (fun memberBinding => memberBinding.deploymentId = deployment.id)
  (validateExistingMaterialization binding memberBindings).mapError .storage
  let materialization ← (materializationFromExisting X candidate deployment
    memberBindings).mapError .storage
  pure (some materialization, s)

def materializeNew (workload : Workload) (revision : WorkloadRevision) (replica : WorkloadReplica)
    (requestedAt : ℤ) :
    Except RepositoryError (Option ReplicaDeploymentMaterialization × WorkloadStore) := do
  let member ← orElse (.storage "replica deployment member is missing")
    (s.members.get? replica.id)
  let (deployment, binding) ← (buildReplicaDeploymentWrite X V candidate workload revision replica
    member requestedAt).mapError .conflict
  refuseIf ((s.deployments.get? deployment.id).isSome ∨ (s.bindings.get? deployment.id).isSome)
    (.storage "deterministic replica deployment identity is already bound inconsistently")
  pure (some ⟨candidate, deployment, replicaOperationIntent deployment, [binding], true⟩, { s with
    deployments := s.deployments.insert deployment
    bindings := s.bindings.insert binding
    memberBindings := s.memberBindings.insert binding })

def materializeReplicaDeployment (requestedAt : ℤ) :
    Except RepositoryError (Option ReplicaDeploymentMaterialization × WorkloadStore) := do
  let workload ← s.stateWorkload candidate.organizationId candidate.workloadId
  let control ← orElse missingControl (s.controls.get? candidate.workloadId)
  (control.validateAgainst workload).mapError .storage
  let replica ← orElse (.storage "replica deployment candidate is missing")
    (s.replicas.get? candidate.replicaId)
  if candidateStale candidate workload control replica then pure (none, s)
  else do
    let revision ← orElse (.storage "replica deployment revision is missing")
      (s.revisions.get? candidate.revisionId)
    -- a placement group is needed for a multi-node topology, and none is stored
    if control.spec.placementPolicy.topology = .multiNode then pure (none, s)
    else match s.generationBinding replica with
      | some binding => s.materializeExisting X candidate binding
      | none => s.materializeNew X V candidate workload revision replica requestedAt

/-! ### Evacuation -/

def findReplica (organizationId workloadId replicaId : Uuid) :
    Except RepositoryError WorkloadReplica :=
  orElse .notFound ((s.replicas.get? replicaId).filter (fun replica =>
    replica.organizationId = organizationId ∧ replica.workloadId = workloadId))

/-- A binding of the replica generation to the member on the node that is evacuated. -/
def bindsCandidate (candidate : ReplicaEvacuationCandidate) (binding : DeploymentReplicaBinding) :
    Bool :=
  binding.organizationId = candidate.organizationId ∧
    binding.workloadId = candidate.workloadId ∧ binding.replicaId = candidate.replicaId ∧
    binding.replicaGeneration = candidate.replicaGeneration ∧
    binding.memberId = candidate.memberId ∧ binding.nodeId = some candidate.sourceNodeId ∧
    binding.placementGeneration = candidate.placementGeneration

def requestReplicaEvacuation (request : ReplicaEvacuationRequest) :
    Except RepositoryError (IdempotentWrite WorkloadReplica × WorkloadStore) := do
  let candidate := request.candidate
  let workload ← s.stateWorkload candidate.organizationId candidate.workloadId
  let control ← orElse (.storage "evacuated Workload has no control record")
    (s.controls.get? candidate.workloadId)
  let replica ← s.findReplica candidate.organizationId candidate.workloadId candidate.replicaId
  let member ← orElse (.storage "evacuated replica member is missing")
    ((s.members.get? candidate.memberId).filter
      (fun member => member.replicaId = candidate.replicaId))
  if replica.generation = candidate.replicaGeneration ∧ replica.lifecycle = .retiring ∧
      replica.evacuationNodeId = some candidate.sourceNodeId then pure (⟨replica, true⟩, s)
  else do
    refuseIf (workload.desiredState ≠ .running ∨
        replica.generation ≠ candidate.replicaGeneration ∨
        replica.aggregateVersion ≠ candidate.expectedReplicaVersion ∨
        replica.lifecycle ≠ .desired ∨ control.desiredReplicas ≤ replica.ordinal ∨
        member.aggregateVersion ≠ candidate.expectedMemberVersion ∨
        member.nodeId ≠ some candidate.sourceNodeId ∨
        member.placementGeneration ≠ candidate.placementGeneration ∨
        ¬ s.bindings.rows.any (bindsCandidate candidate))
      (.conflict "Workload replica evacuation candidate changed")
    let next ← (replica.requestEvacuation member candidate.sourceNodeId
      request.requestedAt).mapError .conflict
    (V.evacuationRequested replica next member request.correlationId).mapError .storage
    pure (⟨next, false⟩, { s with replicas := s.replicas.insert next })

/-! ### Retirement -/

def requireReplicaVersion (replica : WorkloadReplica) (expectedVersion : ℕ) :
    Except RepositoryError Unit :=
  refuseIf (replica.aggregateVersion ≠ expectedVersion)
    (.conflict ("Workload replica changed from expected version " ++ toString expectedVersion ++
      " to " ++ toString replica.aggregateVersion))

def dispatchReplicaRetirement (dispatch : ReplicaRetirementDispatch) :
    Except RepositoryError (WorkloadReplica × WorkloadStore) := do
  let replica ← s.findReplica dispatch.organizationId dispatch.workloadId dispatch.replicaId
  refuseIf (replica.generation ≠ dispatch.replicaGeneration)
    (.conflict "replica retirement dispatch changed generation")
  if replica.lifecycle = .retiring ∧ replica.retirementCommandId = some dispatch.commandId then
    pure (replica, s)
  else do
    requireReplicaVersion replica dispatch.expectedReplicaVersion
    let next ← (replica.dispatchRetirement dispatch.commandId
      dispatch.dispatchedAt).mapError .conflict
    pure (next, { s with replicas := s.replicas.insert next })

/-- The Runtime fence of a replica, unless it is recorded already. -/
def fenceReplica (replica : WorkloadReplica) (fence : ReplicaRuntimeFence) :
    Except RepositoryError WorkloadReplica :=
  if replica.lifecycle = .retiring ∧ replica.retirementCommandId = some fence.commandId ∧
      replica.runtimeFencedAt = some (canonicalTimestamp fence.fencedAt) then pure replica
  else do
    requireReplicaVersion replica fence.expectedReplicaVersion
    (replica.recordRuntimeFenced fence.commandId fence.fencedAt).mapError .conflict

/-- The replica that is fenced, after every check. -/
def fencedReplica (fence : ReplicaRuntimeFence)
    (writerFence : WriterFenceOutcome) : Except RepositoryError WorkloadReplica := do
  let replica ← s.findReplica fence.organizationId fence.workloadId fence.replicaId
  refuseIf (replica.generation ≠ fence.replicaGeneration)
    (.conflict "replica Runtime fence changed generation")
  writerFence.checked
  fenceReplica replica fence

/-- The fence is stored before the operation of the writer fence is composed, whose failure is
returned although the fence stays. -/
def recordReplicaRuntimeFenced (fence : ReplicaRuntimeFence)
    (writerFence : WriterFenceOutcome) : Except RepositoryError WorkloadReplica × WorkloadStore :=
  match s.fencedReplica fence writerFence with
  | .error error => (.error error, s)
  | .ok replica =>
    (writerFence.composed.map (fun _ => replica), { s with replicas := s.replicas.insert replica })

/-- Whether a Runtime was dispatched for the replica generation. -/
def dispatchedRuntime (completion : ReplicaRetirementCompletion) : Except RepositoryError Bool :=
  match s.bindings.rows.find? (fun binding =>
      binding.organizationId = completion.organizationId ∧
        binding.workloadId = completion.workloadId ∧
        binding.replicaId = completion.replicaId ∧
        binding.replicaGeneration = completion.replicaGeneration) with
  | none => .ok false
  | some binding => do
    let deployment ← orElse (.storage "retiring replica binding references a missing deployment")
      (s.deployments.get? binding.deploymentId)
    pure deployment.commandId.isSome

def releaseFenced (member : WorkloadReplicaMember) (fencedNodeId : Option Uuid) (time : ℤ) :
    Except RepositoryError WorkloadReplicaMember :=
  match fencedNodeId with
  | none => .ok member
  | some nodeId => (member.releaseAfterFencing nodeId time).mapError .conflict

/-- A replica that is evacuated comes back in its next generation, any other one is retired. -/
def finishReplica (replica : WorkloadReplica) (previousMember member : WorkloadReplicaMember)
    (completion : ReplicaRetirementCompletion) : Except RepositoryError WorkloadReplica :=
  if replica.evacuationNodeId.isSome then do
    let next ← (replica.completeEvacuation member completion.completedAt).mapError .conflict
    (V.replicaEvacuated replica next previousMember member completion.correlationId).mapError
      .storage
    pure next
  else do
    let next ← (replica.completeRetirement member completion.completedAt).mapError .conflict
    (V.replicaRetired replica next previousMember member completion.correlationId).mapError .storage
    pure next

def finishRetirement (completion : ReplicaRetirementCompletion)
    (replica : WorkloadReplica) (member : WorkloadReplicaMember) :
    Except RepositoryError (IdempotentWrite WorkloadReplica × WorkloadStore) := do
  requireReplicaVersion replica completion.expectedReplicaVersion
  refuseIf (member.aggregateVersion ≠ completion.expectedMemberVersion)
    (.conflict ("Workload replica member changed from expected version " ++
      toString completion.expectedMemberVersion ++ " to " ++ toString member.aggregateVersion))
  let control ← orElse (.storage "retiring replica Workload has no control record")
    (s.controls.get? replica.workloadId)
  refuseIf (replica.lifecycle ≠ .retiring ∨
      replica.evacuationNodeId.isSome ≠ decide (replica.ordinal < control.desiredReplicas) ∨
      member.nodeId ≠ completion.fencedNodeId ∨
      replica.evacuationNodeId.any (fun source => some source ≠ completion.fencedNodeId))
    (.conflict "Workload replica is no longer eligible for generation retirement completion")
  let dispatched ← s.dispatchedRuntime completion
  refuseIf ((dispatched ∨ completion.fencedNodeId.isSome) ∧ replica.runtimeFencedAt = none)
    (.conflict "Workload replica Runtime is not durably fenced")
  let member' ← releaseFenced member completion.fencedNodeId completion.completedAt
  let next ← finishReplica V replica member member' completion
  pure (⟨next, false⟩, { s with
    members := s.members.insert member'
    replicas := s.replicas.insert next })

def completeReplicaRetirement (completion : ReplicaRetirementCompletion) :
    Except RepositoryError (IdempotentWrite WorkloadReplica × WorkloadStore) := do
  let replica ← s.findReplica completion.organizationId completion.workloadId completion.replicaId
  let member ← orElse (.storage "retiring replica member is missing")
    ((s.members.get? completion.memberId).filter
      (fun member => member.replicaId = completion.replicaId))
  if checkedAdd completion.replicaGeneration 1 = some replica.generation ∧
      replica.lifecycle = .desired ∧ replica.evacuationNodeId = none then pure (⟨replica, true⟩, s)
  else do
    refuseIf (replica.generation ≠ completion.replicaGeneration)
      (.conflict "replica retirement completion changed generation")
    if replica.lifecycle = .retired ∧ member.nodeId = none then pure (⟨replica, true⟩, s)
    else s.finishRetirement V completion replica member

/-! ### Runtime targets -/

/-- A deployment whose Runtime serves the active revision of a running Workload. -/
def isActiveDeployment (deployment : Deployment) : Bool :=
  (s.workloads.get? deployment.workloadId).any (fun workload =>
    workload.desiredState = .running ∧
      workload.activeRevisionId = some deployment.revisionId ∧
      (deployment.status = .retiring ∨ deployment.status = .active))

/-- The key by which active deployments are ordered. -/
def targetOrder (deployment : Deployment) : ℤ × List Uuid :=
  match s.workloads.get? deployment.workloadId with
  | some workload => (workload.updatedAt, [workload.id, deployment.id])
  | none => (deployment.updatedAt, [deployment.workloadId, deployment.id])

/-- The order of active deployments. -/
def targetBefore (a b : Deployment) : Prop :=
  (s.targetOrder a).1 < (s.targetOrder b).1 ∨
    ((s.targetOrder a).1 = (s.targetOrder b).1 ∧ (s.targetOrder a).2 ≤ (s.targetOrder b).2)

instance (s : WorkloadStore) : DecidableRel s.targetBefore :=
  fun _ _ => inferInstanceAs (Decidable (_ ∨ _))

/-- The Runtime target of a deployment, if its replica is still bound to it. -/
def activeTarget (deployment : Deployment) :
    Except RepositoryError (Option ActiveRuntimeTarget) := do
  let workload ← orElse (.storage "active Runtime target references a missing Workload")
    (s.workloads.get? deployment.workloadId)
  let revision ← orElse (.storage "active Runtime target references a missing revision")
    (s.revisions.get? deployment.revisionId)
  let binding ← orElse (.storage "active Runtime target is missing its replica binding")
    (s.bindings.get? deployment.id)
  let replica ← orElse (.storage "active Runtime target references a missing replica")
    (s.replicas.get? binding.replicaId)
  if replica.lifecycle ≠ .desired ∨ replica.revisionId ≠ binding.revisionId ∨
      replica.generation ≠ binding.replicaGeneration then pure none
  else do
    let member ← orElse (.storage "active Runtime target references a missing replica member")
      (s.members.get? binding.memberId)
    pure (some ⟨workload, revision, replica, member, deployment, binding,
      s.runtimeBindings.get? deployment.id⟩)

/-- The targets of the deployments, up to a limit; those after it are not looked at. -/
def collectTargets (s : WorkloadStore) : ℕ → List Deployment →
    Except RepositoryError (List ActiveRuntimeTarget)
  | 0, _ | _, [] => .ok []
  | limit + 1, deployment :: deployments => do
    match ← s.activeTarget deployment with
    | none => s.collectTargets (limit + 1) deployments
    | some target => do
      let targets ← s.collectTargets limit deployments
      pure (target :: targets)

def listActiveRuntimeTargets (limit : ℕ) : Except RepositoryError (List ActiveRuntimeTarget) := do
  refuseIf (limit = 0 ∨ 10000 < limit)
    (.conflict "active Runtime target limit must be between 1 and 10000")
  s.collectTargets limit
    ((s.deployments.rows.filter s.isActiveDeployment).insertionSort s.targetBefore)

end WorkloadStore

/-! ### The repository as a system -/

/-- The operations that change the repository. -/
inductive WorkloadAction
  | createDeployment (request : CreateDeploymentBundle)
  | requestDeploymentCancellation (request : RequestDeploymentCancellationBundle)
  | requestWorkloadStop (request : RequestWorkloadStopBundle)
  | completeWorkloadStop (organizationId workloadId : Uuid) (expectedVersion : ℕ) (stoppedAt : ℤ)
  | reconfigureReplicaSet (write : ReconfigureReplicaSetWrite)
  | bindDeploymentRuntimeExecution (binding : DeploymentRuntimeExecutionBinding)
  | resolveRevision (organizationId revisionId : Uuid) (artifact : String) (resolvedAt : ℤ)
  | markResolving (deploymentId : Uuid) (expectedVersion : ℕ) (time : ℤ)
  | assignNode (deploymentId : Uuid) (expectedVersion : ℕ) (nodeId : Uuid) (time : ℤ)
  | markDispatched (deploymentId : Uuid) (expectedVersion : ℕ) (commandId : Uuid) (time : ℤ)
  | markVerifying (deploymentId : Uuid) (expectedVersion : ℕ) (time : ℤ)
  | activate (deploymentId : Uuid) (expectedVersion : ℕ) (retirementRequired : Bool) (time : ℤ)
  | dispatchRetirement (deploymentId : Uuid) (expectedVersion : ℕ) (commandId : Uuid) (time : ℤ)
  | completeRetirement (deploymentId : Uuid) (expectedVersion : ℕ) (time : ℤ)
  | fail (deploymentId : Uuid) (expectedVersion : ℕ) (reason : String) (time : ℤ)
  | markCancellationRequested (deploymentId : Uuid) (expectedVersion : ℕ) (time : ℤ)
  | beginCleanup (deploymentId : Uuid) (expectedVersion : ℕ) (commandId : Uuid) (time : ℤ)
  | retryCleanup (deploymentId : Uuid) (expectedVersion : ℕ) (commandId : Uuid) (time : ℤ)
  | cancel (deploymentId : Uuid) (expectedVersion : ℕ) (time : ℤ)
  | materializeReplicaDeployment (candidate : ReplicaDeploymentCandidate) (requestedAt : ℤ)
  | requestReplicaEvacuation (request : ReplicaEvacuationRequest)
  | dispatchReplicaRetirement (dispatch : ReplicaRetirementDispatch)
  | recordReplicaRuntimeFenced (fence : ReplicaRuntimeFence) (writerFence : WriterFenceOutcome)
  | completeReplicaRetirement (completion : ReplicaRetirementCompletion)

namespace WorkloadStore

open Runs

variable (X : External) (V : WorkloadServices)

def step (s : WorkloadStore) : WorkloadAction → WorkloadStore
  | .createDeployment request => afterResult s (s.createDeployment X V request)
  | .requestDeploymentCancellation request =>
    afterResult s (s.requestDeploymentCancellation request)
  | .requestWorkloadStop request => afterResult s (s.requestWorkloadStop V request)
  | .completeWorkloadStop organizationId workloadId expectedVersion stoppedAt =>
    afterResult s (s.completeWorkloadStop organizationId workloadId expectedVersion stoppedAt)
  | .reconfigureReplicaSet write => afterResult s (s.reconfigureReplicaSet X V write)
  | .bindDeploymentRuntimeExecution binding =>
    afterResult s (s.bindDeploymentRuntimeExecution V binding)
  | .resolveRevision organizationId revisionId artifact resolvedAt =>
    afterResult s (s.resolveRevision V organizationId revisionId artifact resolvedAt)
  | .markResolving deploymentId expectedVersion time =>
    afterResult s (s.markResolving V deploymentId expectedVersion time)
  | .assignNode deploymentId expectedVersion nodeId time =>
    afterResult s (s.assignNode V deploymentId expectedVersion nodeId time)
  | .markDispatched deploymentId expectedVersion commandId time =>
    afterResult s (s.markDispatched V deploymentId expectedVersion commandId time)
  | .markVerifying deploymentId expectedVersion time =>
    afterResult s (s.markVerifying V deploymentId expectedVersion time)
  | .activate deploymentId expectedVersion retirementRequired time =>
    afterResult s (s.activate V deploymentId expectedVersion retirementRequired time)
  | .dispatchRetirement deploymentId expectedVersion commandId time =>
    afterResult s (s.dispatchRetirement deploymentId expectedVersion commandId time)
  | .completeRetirement deploymentId expectedVersion time =>
    afterResult s (s.completeRetirement deploymentId expectedVersion time)
  | .fail deploymentId expectedVersion reason time =>
    afterResult s (s.fail V deploymentId expectedVersion reason time)
  | .markCancellationRequested deploymentId expectedVersion time =>
    afterResult s (s.markCancellationRequested deploymentId expectedVersion time)
  | .beginCleanup deploymentId expectedVersion commandId time =>
    afterResult s (s.beginCleanup deploymentId expectedVersion commandId time)
  | .retryCleanup deploymentId expectedVersion commandId time =>
    afterResult s (s.retryCleanup deploymentId expectedVersion commandId time)
  | .cancel deploymentId expectedVersion time =>
    afterResult s (s.cancel deploymentId expectedVersion time)
  | .materializeReplicaDeployment candidate requestedAt =>
    afterResult s (s.materializeReplicaDeployment X V candidate requestedAt)
  | .requestReplicaEvacuation request => afterResult s (s.requestReplicaEvacuation V request)
  | .dispatchReplicaRetirement dispatch => afterResult s (s.dispatchReplicaRetirement dispatch)
  | .recordReplicaRuntimeFenced fence writerFence =>
    (s.recordReplicaRuntimeFenced fence writerFence).2
  | .completeReplicaRetirement completion =>
    afterResult s (s.completeReplicaRetirement V completion)

end WorkloadStore

end A3SCloud
