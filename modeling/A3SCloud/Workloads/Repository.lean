import A3SCloud.Shared.Idempotency
import A3SCloud.Workloads.Reconfiguration

/-!
# The Workload repository

The model of `modules/workloads/infrastructure/persistence/in_memory.rs` for Workloads of single-node
topology, which are the only ones `create_deployment` accepts: its tables and the operations on
Workloads and deployments. The operations on single replicas are in `ReplicaRepository.lean`.

* `WorkloadServices` is what the repository calls on documents that are not modelled: the checks of
  the bindings of a revision, the composition of operations and the envelopes of events.
* `createDeployment` makes a Workload with its replicas, or moves the canonical replica of one to a
  new revision.
* `mutate` and `mutateDesired` are what the transitions of a deployment share.
-/

namespace A3SCloud

open Checks DeploymentReplicaBinding

/-! ### What is stored and requested -/

structure WorkloadDeploymentOperationIntent where
  operationId : Uuid
  organizationId : Uuid
  deploymentId : Uuid
  revisionId : Uuid
  workloadId : Uuid
  requestedAt : ℤ
  deriving DecidableEq

structure WorkloadStopOperationIntent where
  operationId : Uuid
  organizationId : Uuid
  workloadId : Uuid
  requestedAt : ℤ
  deriving DecidableEq

structure CreateDeploymentBundle where
  workload : Workload
  control : WorkloadControlSpec
  revision : WorkloadRevision
  deployment : Deployment
  operation : WorkloadDeploymentOperationIntent
  idempotency : IdempotencyRequest
  deriving DecidableEq

structure DeploymentBundle where
  workload : Workload
  revision : WorkloadRevision
  deployment : Deployment
  operation : WorkloadDeploymentOperationIntent
  replayed : Bool
  deriving DecidableEq

structure RequestDeploymentCancellationBundle where
  deployment : Deployment
  expectedVersion : ℕ
  idempotency : IdempotencyRequest
  event : DomainEventEnvelope
  deriving DecidableEq

structure RequestWorkloadStopBundle where
  workload : Workload
  expectedVersion : ℕ
  operation : WorkloadStopOperationIntent
  idempotency : IdempotencyRequest
  event : DomainEventEnvelope
  deriving DecidableEq

structure WorkloadStopBundle where
  workload : Workload
  operation : WorkloadStopOperationIntent
  replayed : Bool
  deriving DecidableEq

structure ReconfigureReplicaSetWrite where
  organizationId : Uuid
  workloadId : Uuid
  expectedControlVersion : ℕ
  expectedPolicyGeneration : ℕ
  desiredReplicas : ℕ
  managedOwner : Option ManagedOwnerReference
  idempotency : IdempotencyRequest
  correlationId : Uuid
  requestedAt : ℤ
  deriving DecidableEq

structure ReplicaSetWriteResult where
  control : WorkloadControl
  replicas : List WorkloadReplica
  replayed : Bool
  deriving DecidableEq

/-- A Runtime execution that is bound to a deployment; `body` stands for what it pins. -/
structure DeploymentRuntimeExecutionBinding where
  deploymentId : Uuid
  body : String
  deriving DecidableEq

/-- The name of a Workload in its environment; a `Workload` carries the key of its name. -/
structure WorkloadNameEntry where
  name : Uuid × Uuid × String
  workloadId : Uuid
  deriving DecidableEq

/-- What the repository calls on documents that are not modelled. -/
structure WorkloadServices where
  validateAgentBinding : WorkloadRevision → Workload → Except String Unit
  validateMcpBinding : WorkloadRevision → Workload → Except String Unit
  validateSkillBindings : WorkloadRevision → Workload → Except String Unit
  externalBuildFits : WorkloadRevision → Workload → Bool
  composeDeploymentOperation : WorkloadDeploymentOperationIntent → Except String Unit
  composeStopOperation : WorkloadStopOperationIntent → Except String Unit
  resolveRevision : WorkloadRevision → String → ℤ → Except String String
  validateRuntimeExecution : DeploymentRuntimeExecutionBinding → Except String Unit
  validateAdmission : DeploymentRuntimeExecutionBinding → Deployment → Workload →
    WorkloadRevision → WorkloadControl → Except String Unit
  validatePlacementLineage : DeploymentRuntimeExecutionBinding → Deployment → WorkloadControl →
    Except String Unit
  replicaSetReconfigured : WorkloadControl → WorkloadControl → Uuid → Except String Unit
  healthyEnvelope : Deployment → Deployment → Workload → Workload → WorkloadRevision →
    Except String Unit
  failureEnvelope : Deployment → Deployment → Workload → WorkloadRevision → Except String Unit
  deploymentRequested : Deployment → WorkloadRevision → Uuid → Except String Unit
  evacuationRequested : WorkloadReplica → WorkloadReplica → WorkloadReplicaMember → Uuid →
    Except String Unit
  replicaEvacuated : WorkloadReplica → WorkloadReplica → WorkloadReplicaMember →
    WorkloadReplicaMember → Uuid → Except String Unit
  replicaRetired : WorkloadReplica → WorkloadReplica → WorkloadReplicaMember →
    WorkloadReplicaMember → Uuid → Except String Unit

def Workload.key (workload : Workload) : Uuid := workload.id

def WorkloadRevision.key (revision : WorkloadRevision) : Uuid := revision.id

def Deployment.key (deployment : Deployment) : Uuid := deployment.id

def WorkloadControl.key (control : WorkloadControl) : Uuid := control.workloadId

def WorkloadReplica.key (replica : WorkloadReplica) : Uuid := replica.id

def WorkloadReplicaMember.key (member : WorkloadReplicaMember) : Uuid := member.id

def DeploymentReplicaBinding.key (binding : DeploymentReplicaBinding) : Uuid := binding.deploymentId

def DeploymentReplicaBinding.memberKey (binding : DeploymentReplicaBinding) : Uuid × Uuid :=
  (binding.deploymentId, binding.memberId)

def DeploymentRuntimeExecutionBinding.key (binding : DeploymentRuntimeExecutionBinding) : Uuid :=
  binding.deploymentId

/-- The tables of the repository; its outbox is only written. -/
structure WorkloadStore where
  workloads : Table Workload.key
  names : Table WorkloadNameEntry.name
  revisions : Table WorkloadRevision.key
  deployments : Table Deployment.key
  controls : Table WorkloadControl.key
  replicas : Table WorkloadReplica.key
  members : Table WorkloadReplicaMember.key
  bindings : Table DeploymentReplicaBinding.key
  memberBindings : Table memberKey
  runtimeBindings : Table DeploymentRuntimeExecutionBinding.key
  idempotency : IdempotencyTable DeploymentBundle
  cancellationIdempotency : IdempotencyTable Deployment
  stopIdempotency : IdempotencyTable WorkloadStopBundle
  replicaSetIdempotency : IdempotencyTable ReplicaSetWriteResult

namespace WorkloadStore

variable (X : External) (V : WorkloadServices)

def empty : WorkloadStore where
  workloads := Table.empty
  names := Table.empty
  revisions := Table.empty
  deployments := Table.empty
  controls := Table.empty
  replicas := Table.empty
  members := Table.empty
  bindings := Table.empty
  memberBindings := Table.empty
  runtimeBindings := Table.empty
  idempotency := Table.empty
  cancellationIdempotency := Table.empty
  stopIdempotency := Table.empty
  replicaSetIdempotency := Table.empty

def missingControl : RepositoryError :=
  .storage "Workload is missing its durable control record"

variable (s : WorkloadStore) (organizationId workloadId : Uuid)

/-- `state_workload`. -/
def stateWorkload : Except RepositoryError Workload :=
  orElse .notFound ((s.workloads.get? workloadId).filter
    (fun workload => workload.organizationId = organizationId))

/-! ### Creating a deployment -/

variable (request : CreateDeploymentBundle)

def validateBundle : Except RepositoryError Unit := do
  request.control.validate.mapError .conflict
  (V.validateAgentBinding request.revision request.workload).mapError .conflict
  (V.validateMcpBinding request.revision request.workload).mapError .conflict
  (V.validateSkillBindings request.revision request.workload).mapError .conflict
  refuseIf (request.control.placementPolicy.topology ≠ .singleNode ∨
      request.revision.workloadId ≠ request.workload.id ∨
      request.deployment.organizationId ≠ request.workload.organizationId ∨
      request.deployment.workloadId ≠ request.workload.id ∨
      request.deployment.revisionId ≠ request.revision.id ∨
      request.deployment.operationId ≠ request.operation.operationId ∨
      request.operation.organizationId ≠ request.workload.organizationId ∨
      request.operation.deploymentId ≠ request.deployment.id ∨
      request.operation.revisionId ≠ request.revision.id ∨
      request.operation.workloadId ≠ request.workload.id ∨
      ¬ V.externalBuildFits request.revision request.workload)
    (.conflict "deployment creation bundle has inconsistent identities")

/-- What a deployment is created for: the control record, the replicas to store and the members. -/
structure DeploymentTarget where
  control : WorkloadControl
  replicas : List WorkloadReplica
  members : List WorkloadReplicaMember

/-- The canonical replica of a Workload moves on to the new revision. -/
def existingTarget (existing : Workload) : Except RepositoryError DeploymentTarget := do
  refuseIf (existing ≠ request.workload)
    (.conflict "workload changed before a new revision was requested")
  refuseIf (s.deployments.rows.any (fun deployment =>
      deployment.workloadId = existing.id ∧ ¬ deployment.status.isTerminal))
    (.conflict "workload already has a nonterminal deployment")
  let control ← orElse missingControl (s.controls.get? existing.id)
  let (control, _) ← (control.authorizeDeployment request.control
    request.revision.createdAt).mapError .conflict
  let replicaId ← (WorkloadReplica.deterministicId X existing.id 0).mapError .storage
  let replica ← orElse (.storage "Workload is missing its canonical replica")
    (s.replicas.get? replicaId)
  let replica ← (replica.advance request.revision request.revision.createdAt).mapError .conflict
  let member ← orElse (.storage "Workload is missing its canonical replica member")
    (s.members.get? replica.id)
  pure ⟨control, [replica], [member]⟩

def newReplica (ordinal : ℕ) :
    Except RepositoryError (WorkloadReplica × WorkloadReplicaMember) := do
  let replica ← (WorkloadReplica.forOrdinal X request.workload request.revision
    ordinal).mapError .conflict
  let member ← (WorkloadReplicaMember.forReplica X request.workload replica).mapError .conflict
  pure (replica, member)

/-- The name under which a Workload is known. -/
def nameOf (workload : Workload) : Uuid × Uuid × String :=
  (workload.organizationId, workload.environmentId, workload.name)

/-- A new Workload starts with a replica for each ordinal. -/
def newTarget : Except RepositoryError DeploymentTarget := do
  refuseIf (s.names.get? (nameOf request.workload)).isSome
    (.conflict "workload name is already in use")
  let control ← (WorkloadControl.create request.workload request.control).mapError .conflict
  let created ← mapAll (newReplica X request)
    (List.range request.control.placementPolicy.desiredReplicas)
  pure ⟨control, created.map Prod.fst, created.map Prod.snd⟩

def deploymentTarget : Except RepositoryError DeploymentTarget :=
  match s.workloads.get? request.workload.id with
  | some existing => s.existingTarget X request existing
  | none => s.newTarget X request

def nextRevisionGeneration (workloadId : Uuid) : Except RepositoryError ℕ :=
  orElse (.storage "workload generation overflowed")
    (checkedAdd (((s.revisions.rows.filter (fun revision => revision.workloadId = workloadId)).map
      WorkloadRevision.generation).foldr max 0) 1)

/-- The Workload, its name and its members are stored when it is new; the control record is the one
of the target in both cases. -/
def storeWorkload (target : DeploymentTarget) : WorkloadStore :=
  match s.workloads.get? request.workload.id with
  | some _ => { s with controls := s.controls.insert target.control }
  | none => { s with
      names := s.names.insert ⟨nameOf request.workload, request.workload.id⟩
      workloads := s.workloads.insert request.workload
      controls := s.controls.insert target.control
      members := s.members.insertAll target.members }

def storeDeployment
    (target : DeploymentTarget) (binding : DeploymentReplicaBinding) (response : DeploymentBundle) :
    WorkloadStore :=
  let s := s.storeWorkload request target
  { s with
    replicas := s.replicas.insertAll target.replicas
    revisions := s.revisions.insert request.revision
    deployments := s.deployments.insert request.deployment
    bindings := s.bindings.insert binding
    memberBindings := s.memberBindings.insert binding
    idempotency := s.idempotency.record request.idempotency response }

def createNewDeployment : Except RepositoryError (DeploymentBundle × WorkloadStore) := do
  validateBundle V request
  (V.composeDeploymentOperation request.operation).mapError .conflict
  refuseIf (request.control.placementPolicy.desiredReplicas = 0)
    (.conflict "a deployment cannot be created for a scale-to-zero Workload")
  let target ← s.deploymentTarget X request
  let generation ← s.nextRevisionGeneration request.workload.id
  refuseIf (request.revision.generation ≠ generation)
    (.conflict ("workload revision generation must be " ++ toString generation))
  refuseIf ((s.revisions.get? request.revision.id).isSome ∨
      (s.deployments.get? request.deployment.id).isSome ∨
      (s.bindings.get? request.deployment.id).isSome)
    (.conflict "workload revision or deployment identity is already in use")
  let replica ← orElse (.storage "Workload replica set is empty") target.replicas.head?
  let member ← orElse (.storage "Workload replica member set is empty") target.members.head?
  let binding ← (create X request.deployment request.revision replica
    member).mapError .conflict
  let response : DeploymentBundle := {
    workload := request.workload
    revision := request.revision
    deployment := request.deployment
    operation := request.operation
    replayed := false }
  pure (response, s.storeDeployment request target binding response)

def createDeployment : Except RepositoryError (DeploymentBundle × WorkloadStore) := do
  match ← s.idempotency.replay request.idempotency with
  | some response => pure ({ response with replayed := true }, s)
  | none => s.createNewDeployment X V request

/-! ### Stopping a Workload and cancelling a deployment -/

def validateCancellationBundle (request : RequestDeploymentCancellationBundle)
    (current : Deployment) : Except RepositoryError Unit := do
  let time ← orElse (.conflict "cancellation request omitted its time")
    request.deployment.cancellationRequestedAt
  let expected ← (current.requestCancellation time).mapError .conflict
  refuseIf (current.aggregateVersion ≠ request.expectedVersion ∨
      expected ≠ request.deployment ∨
      request.event.organizationId ≠ some request.deployment.organizationId ∨
      request.event.aggregateId ≠ request.deployment.id ∨
      request.event.aggregateVersion ≠ request.deployment.aggregateVersion)
    (.conflict "deployment cancellation bundle is inconsistent with stored state")

def cancelStoredDeployment (request : RequestDeploymentCancellationBundle) :
    Except RepositoryError (IdempotentWrite Deployment × WorkloadStore) := do
  let current ← orElse .notFound (s.deployments.get? request.deployment.id)
  let control ← orElse missingControl (s.controls.get? current.workloadId)
  control.requireDirectMutation.mapError .conflict
  validateCancellationBundle request current
  pure (⟨request.deployment, false⟩, { s with
    deployments := s.deployments.insert request.deployment
    cancellationIdempotency :=
      s.cancellationIdempotency.record request.idempotency request.deployment })

def requestDeploymentCancellation (request : RequestDeploymentCancellationBundle) :
    Except RepositoryError (IdempotentWrite Deployment × WorkloadStore) := do
  match ← s.cancellationIdempotency.replay request.idempotency with
  | some deployment => pure (⟨deployment, true⟩, s)
  | none => s.cancelStoredDeployment request

def workloadVersionConflict (expected actual : ℕ) : RepositoryError :=
  .conflict ("workload changed from expected version " ++ toString expected ++ " to " ++
    toString actual)

def stopStoredWorkload (request : RequestWorkloadStopBundle) :
    Except RepositoryError (WorkloadStopBundle × WorkloadStore) := do
  let current ← s.stateWorkload request.workload.organizationId request.workload.id
  let control ← orElse missingControl (s.controls.get? current.id)
  control.requireDirectMutation.mapError .conflict
  refuseIf (current.aggregateVersion ≠ request.expectedVersion)
    (workloadVersionConflict request.expectedVersion current.aggregateVersion)
  let expected ← (current.requestStop request.workload.updatedAt).mapError .conflict
  refuseIf (expected ≠ request.workload ∨
      request.operation.organizationId ≠ request.workload.organizationId ∨
      request.operation.workloadId ≠ request.workload.id ∨
      request.operation.requestedAt < request.workload.updatedAt ∨
      request.event.organizationId ≠ some request.workload.organizationId ∨
      request.event.aggregateId ≠ request.workload.id ∨
      request.event.aggregateVersion ≠ request.workload.aggregateVersion)
    (.conflict "workload stop bundle is inconsistent with stored state")
  (V.composeStopOperation request.operation).mapError .conflict
  let response : WorkloadStopBundle := ⟨request.workload, request.operation, false⟩
  pure (response, { s with
    workloads := s.workloads.insert request.workload
    stopIdempotency := s.stopIdempotency.record request.idempotency response })

def requestWorkloadStop (request : RequestWorkloadStopBundle) :
    Except RepositoryError (WorkloadStopBundle × WorkloadStore) := do
  match ← s.stopIdempotency.replay request.idempotency with
  | some response => pure ({ response with replayed := true }, s)
  | none => s.stopStoredWorkload V request

def completeWorkloadStop
    (expectedVersion : ℕ) (stoppedAt : ℤ) : Except RepositoryError (Workload × WorkloadStore) := do
  let current ← s.stateWorkload organizationId workloadId
  if current.aggregateVersion ≠ expectedVersion then
    if current.desiredState = .stopped ∧ current.activeRevisionId = none then pure (current, s)
    else .error (workloadVersionConflict expectedVersion current.aggregateVersion)
  else do
    let workload ← (current.completeStop stoppedAt).mapError .conflict
    pure (workload, { s with workloads := s.workloads.insert workload })

/-! ### Reconfiguring the replica set -/

def replicaSetRepositoryError : ReplicaSetReconfigurationError → RepositoryError
  | .conflict message => .conflict message
  | .invariant message => .storage message

def replicasOf : List WorkloadReplica :=
  s.replicas.rows.filter
    (fun replica => replica.organizationId = organizationId ∧ replica.workloadId = workloadId)

def reconfigureStoredReplicaSet (write : ReconfigureReplicaSetWrite) :
    Except RepositoryError (ReplicaSetWriteResult × WorkloadStore) := do
  let workload ← s.stateWorkload write.organizationId write.workloadId
  let control ← orElse missingControl ((s.controls.get? write.workloadId).filter
    (fun control => control.organizationId = write.organizationId))
  let replicas := ReplicaSet.sortReplicas (s.replicasOf write.organizationId write.workloadId)
  let canonical ← orElse (.storage "Workload is missing its canonical replica")
    (replicas.find? (fun replica => replica.ordinal = 0))
  let revision ← orElse (.storage "Workload canonical replica references a missing revision")
    (s.revisions.get? canonical.revisionId)
  let plan ← (planReplicaSetReconfiguration X workload control revision replicas
    write.expectedControlVersion write.expectedPolicyGeneration write.desiredReplicas
    write.managedOwner write.requestedAt).mapError replicaSetRepositoryError
  refuseIf (plan.membersToCreate.any (fun member => (s.members.get? member.id).isSome))
    (.storage "new Workload replica member identity already exists")
  (V.replicaSetReconfigured control plan.control write.correlationId).mapError .storage
  let response : ReplicaSetWriteResult := ⟨plan.control, plan.replicas, false⟩
  pure (response, { s with
    members := s.members.insertAll plan.membersToCreate
    replicas := s.replicas.insertAll plan.replicas
    controls := s.controls.insert plan.control
    replicaSetIdempotency := s.replicaSetIdempotency.record write.idempotency response })

def reconfigureReplicaSet (write : ReconfigureReplicaSetWrite) :
    Except RepositoryError (ReplicaSetWriteResult × WorkloadStore) := do
  match ← s.replicaSetIdempotency.replay write.idempotency with
  | some response => pure ({ response with replayed := true }, s)
  | none => s.reconfigureStoredReplicaSet X V write

/-! ### Transitions of deployments -/

def versionConflict (expected actual : ℕ) : RepositoryError :=
  .conflict ("deployment changed from expected version " ++ toString expected ++ " to " ++
    toString actual)

def transitionError (error : String) : RepositoryError :=
  .conflict ("deployment transition was rejected: " ++ error)

variable (deploymentId : Uuid) (expectedVersion : ℕ)

def expectDeployment : Except RepositoryError Deployment := do
  let deployment ← orElse .notFound (s.deployments.get? deploymentId)
  refuseIf (deployment.aggregateVersion ≠ expectedVersion)
    (versionConflict expectedVersion deployment.aggregateVersion)
  pure deployment

def mutate (transition : Deployment → Except String Deployment) :
    Except RepositoryError (Deployment × WorkloadStore) := do
  let deployment ← s.expectDeployment deploymentId expectedVersion
  let deployment ← (transition deployment).mapError transitionError
  pure (deployment, { s with deployments := s.deployments.insert deployment })

variable (deployment : Deployment)

/-- A Runtime execution that is bound to the deployment still fits its placement. -/
def requireRuntimeExecutionPlacement (control : WorkloadControl) : Except RepositoryError Unit :=
  if deployment.status = .resolving then
    checkAll (fun binding =>
        (V.validatePlacementLineage binding deployment control).mapError .conflict)
      (s.runtimeBindings.get? deployment.id).toList
  else .ok ()

def requireCurrentDesiredReplica : Except RepositoryError Unit := do
  let workload ← orElse (.storage "deployment references a missing Workload")
    ((s.workloads.get? deployment.workloadId).filter
      (fun workload => workload.organizationId = deployment.organizationId))
  let control ← orElse (.storage "deployment Workload is missing its control record")
    (s.controls.get? deployment.workloadId)
  s.requireRuntimeExecutionPlacement V deployment control
  let binding ← orElse (.storage "deployment is missing its replica binding")
    (s.bindings.get? deployment.id)
  let replica ← orElse (.storage "deployment binding references a missing replica")
    (s.replicas.get? binding.replicaId)
  let member ← orElse (.storage "deployment binding references a missing member")
    (s.members.get? binding.memberId)
  refuseIf (workload.desiredState ≠ .running ∨
      binding.organizationId ≠ deployment.organizationId ∨
      binding.workloadId ≠ deployment.workloadId ∨
      binding.revisionId ≠ deployment.revisionId ∨
      binding.replicaGeneration ≠ replica.generation ∨ binding.replicaId ≠ replica.id ∨
      replica.lifecycle ≠ .desired ∨ control.desiredReplicas ≤ replica.ordinal ∨
      replica.revisionId ≠ deployment.revisionId ∨ member.replicaId ≠ replica.id ∨
      binding.memberId ≠ member.id ∨ binding.nodeId ≠ deployment.nodeId ∨
      (binding.nodeId.isSome ∧ binding.nodeId ≠ member.nodeId))
    (.conflict "deployment replica generation is no longer desired")

def mutateDesired (transition : Deployment → Except String Deployment) :
    Except RepositoryError (Deployment × WorkloadStore) := do
  let deployment ← s.expectDeployment deploymentId expectedVersion
  s.requireCurrentDesiredReplica V deployment
  let deployment ← (transition deployment).mapError transitionError
  pure (deployment, { s with deployments := s.deployments.insert deployment })

def bindDeploymentRuntimeExecution (binding : DeploymentRuntimeExecutionBinding) :
    Except RepositoryError (IdempotentWrite DeploymentRuntimeExecutionBinding × WorkloadStore) := do
  (V.validateRuntimeExecution binding).mapError .conflict
  match s.runtimeBindings.get? binding.deploymentId with
  | some existing =>
    if existing = binding then pure (⟨existing, true⟩, s) else .error .idempotencyConflict
  | none => do
    let deployment ← orElse .notFound (s.deployments.get? binding.deploymentId)
    let workload ← orElse
      (.storage "Deployment Runtime binding references a missing Workload")
      (s.workloads.get? deployment.workloadId)
    let revision ← orElse
      (.storage "Deployment Runtime binding references a missing revision")
      (s.revisions.get? deployment.revisionId)
    let control ← orElse
      (.storage "Deployment Runtime binding references a missing control record")
      (s.controls.get? deployment.workloadId)
    (V.validateAdmission binding deployment workload revision control).mapError .conflict
    pure (⟨binding, false⟩, { s with runtimeBindings := s.runtimeBindings.insert binding })

def resolveRevision (s : WorkloadStore) (organizationId revisionId : Uuid) (artifact : String)
    (resolvedAt : ℤ) : Except RepositoryError (WorkloadRevision × WorkloadStore) := do
  let revision ← orElse .notFound (s.revisions.get? revisionId)
  let _ ← s.stateWorkload organizationId revision.workloadId
  let body ← (V.resolveRevision revision artifact resolvedAt).mapError
    (fun error => .conflict ("workload revision resolution was rejected: " ++ error))
  let revision := { revision with body := body }
  pure (revision, { s with revisions := s.revisions.insert revision })

def markResolving (time : ℤ) : Except RepositoryError (Deployment × WorkloadStore) :=
  s.mutateDesired V deploymentId expectedVersion (·.resolve time)

def assignNode (nodeId : Uuid)
    (time : ℤ) : Except RepositoryError (Deployment × WorkloadStore) := do
  let deployment ← s.expectDeployment deploymentId expectedVersion
  s.requireCurrentDesiredReplica V deployment
  let deployment ← (deployment.schedule nodeId time).mapError transitionError
  let binding ← orElse (.storage "deployment is missing its canonical replica binding")
    (s.bindings.get? deploymentId)
  let member ← orElse (.storage "deployment replica binding references a missing member")
    (s.members.get? binding.memberId)
  let member ← (member.place nodeId time).mapError transitionError
  let binding ← (binding.assign deployment member).mapError transitionError
  pure (deployment, { s with
    members := s.members.insert member
    bindings := s.bindings.insert binding
    memberBindings := s.memberBindings.insert binding
    deployments := s.deployments.insert deployment })

def markDispatched
    (commandId : Uuid) (time : ℤ) : Except RepositoryError (Deployment × WorkloadStore) :=
  s.mutateDesired V deploymentId expectedVersion (·.dispatch commandId time)

def markVerifying (time : ℤ) : Except RepositoryError (Deployment × WorkloadStore) :=
  s.mutateDesired V deploymentId expectedVersion (·.verify time)

/-- An activation that was made before, in an earlier version of the deployment. -/
def replayActivation (expectedVersion : ℕ)
    (retirementRequired : Bool) (time : ℤ) : Except RepositoryError (Workload × Deployment) :=
  if deployment.status = .retiring ∨ deployment.status = .active then do
    let _ ← (deployment.activate retirementRequired time).mapError transitionError
    let workload ← orElse .notFound (s.workloads.get? deployment.workloadId)
    if workload.activeRevisionId = some deployment.revisionId then pure (workload, deployment)
    else .error (versionConflict expectedVersion deployment.aggregateVersion)
  else .error (versionConflict expectedVersion deployment.aggregateVersion)

/-- The time of an activation is not before the last one of the same revision. -/
def activationTime (workload : Workload) (revisionId : Uuid) (time : ℤ) : ℤ :=
  if workload.activeRevisionId = some revisionId then max time workload.updatedAt else time

def activateStored (retirementRequired : Bool)
    (time : ℤ) : Except RepositoryError ((Workload × Deployment) × WorkloadStore) := do
  s.requireCurrentDesiredReplica V deployment
  let workload ← orElse .notFound (s.workloads.get? deployment.workloadId)
  let time := activationTime workload deployment.revisionId time
  let deployment' ← (deployment.activate retirementRequired time).mapError transitionError
  let workload' ← (workload.activate deployment.revisionId time).mapError transitionError
  let revision ← orElse (.storage "activated Workload revision disappeared")
    (s.revisions.get? deployment.revisionId)
  (V.healthyEnvelope deployment deployment' workload workload' revision).mapError .storage
  pure ((workload', deployment'), { s with
    deployments := s.deployments.insert deployment'
    workloads := s.workloads.insert workload' })

def activate (retirementRequired : Bool) (time : ℤ) :
    Except RepositoryError ((Workload × Deployment) × WorkloadStore) := do
  let deployment ← orElse .notFound (s.deployments.get? deploymentId)
  if deployment.aggregateVersion ≠ expectedVersion then do
    let replay ← s.replayActivation deployment expectedVersion retirementRequired time
    pure (replay, s)
  else s.activateStored V deployment retirementRequired time

def dispatchRetirement (s : WorkloadStore) (deploymentId : Uuid) (expectedVersion : ℕ)
    (commandId : Uuid) (time : ℤ) : Except RepositoryError (Deployment × WorkloadStore) :=
  s.mutate deploymentId expectedVersion (·.dispatchRetirement commandId time)

def completeRetirement (s : WorkloadStore) (deploymentId : Uuid) (expectedVersion : ℕ) (time : ℤ) :
    Except RepositoryError (Deployment × WorkloadStore) :=
  s.mutate deploymentId expectedVersion (·.completeRetirement time)

def failStored (reason : String) (time : ℤ) :
    Except RepositoryError (Deployment × WorkloadStore) := do
  let deployment' ← (deployment.fail reason time).mapError transitionError
  let workload ← orElse (.storage "Workload health-fact owner disappeared")
    (s.workloads.get? deployment.workloadId)
  let revision ← orElse (.storage "Workload health-fact revision disappeared")
    (s.revisions.get? deployment.revisionId)
  (V.failureEnvelope deployment deployment' workload revision).mapError .storage
  pure (deployment', { s with deployments := s.deployments.insert deployment' })

def fail (reason : String) (time : ℤ) : Except RepositoryError (Deployment × WorkloadStore) := do
  let deployment ← orElse .notFound (s.deployments.get? deploymentId)
  if (deployment.status = .failed ∨ deployment.status = .orphaned) ∧
      deployment.failure = some reason then pure (deployment, s)
  else do
    refuseIf (deployment.aggregateVersion ≠ expectedVersion)
      (versionConflict expectedVersion deployment.aggregateVersion)
    s.failStored V deployment reason time

def markCancellationRequested (time : ℤ) : Except RepositoryError (Deployment × WorkloadStore) :=
  s.mutate deploymentId expectedVersion (·.requestCancellation time)

def beginCleanup (s : WorkloadStore) (deploymentId : Uuid) (expectedVersion : ℕ)
    (commandId : Uuid) (time : ℤ) : Except RepositoryError (Deployment × WorkloadStore) :=
  s.mutate deploymentId expectedVersion (·.beginCleanup commandId time)

def retryCleanup (s : WorkloadStore) (deploymentId : Uuid) (expectedVersion : ℕ)
    (commandId : Uuid) (time : ℤ) : Except RepositoryError (Deployment × WorkloadStore) :=
  s.mutate deploymentId expectedVersion (·.retryCleanup commandId time)

def cancel (s : WorkloadStore) (deploymentId : Uuid) (expectedVersion : ℕ) (time : ℤ) :
    Except RepositoryError (Deployment × WorkloadStore) :=
  s.mutate deploymentId expectedVersion (·.cancel time)

end WorkloadStore

end A3SCloud
