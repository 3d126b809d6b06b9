import A3SCloud.Workloads.Replica

/-!
# The control record of a Workload

The model of `modules/workloads/domain/entities/workload_control.rs`. The digest of a placement
policy is a function of its other fields, which only its constructors set, and is left out.

* `WorkloadControl.authorizeDeployment` hands a managed Workload to a newer owner generation,
  `WorkloadControl.reconfigureReplicaSet` changes its number of replicas.
-/

namespace A3SCloud

open Checks

variable (X : External)

/-! ### Owners and placement policies -/

structure ManagedOwnerReference where
  kind : String
  ownerId : Uuid
  ownerGeneration : ℕ
  ownerSpecDigest : DigestText
  deriving DecidableEq

namespace ManagedOwnerReference

/-- A segment of the key of an owner kind. -/
def validSegment (segment : List Char) : Bool :=
  segment ≠ [] ∧ segment.length ≤ 32 ∧
    segment.all (fun c => ('a' ≤ c ∧ c ≤ 'z') ∨ ('0' ≤ c ∧ c ≤ '9') ∨ c = '-') ∧
    segment.head?.all (fun c => 'a' ≤ c ∧ c ≤ 'z')

/-- `ManagedOwnerKind::parse`. -/
def validateKind (kind : String) : Except String Unit :=
  refuseIf (64 < kind.utf8ByteSize ∨ (kind.toList.splitOn '.').length < 2 ∨
      ¬ (kind.toList.splitOn '.').all validSegment)
    "managed owner kind must be a bounded dot-separated lowercase key"

def validate (owner : ManagedOwnerReference) : Except String Unit := do
  refuseIf (owner.ownerId = 0 ∨ owner.ownerGeneration = 0 ∨
      (validateSha256 "" owner.ownerSpecDigest).toOption = none)
    "managed owner reference is invalid"
  validateKind owner.kind

end ManagedOwnerReference

inductive PlacementTopology
  | singleNode
  | multiNode
  deriving DecidableEq

structure EffectivePlacementPolicy where
  generation : ℕ
  desiredReplicas : ℕ
  membersPerReplica : ℕ
  topology : PlacementTopology
  nodePoolId : Option Uuid
  deriving DecidableEq

namespace EffectivePlacementPolicy

variable (policy : EffectivePlacementPolicy)

/-- The number of members that a topology allows. -/
def membersFit : Bool :=
  match policy.topology with
  | .singleNode => policy.membersPerReplica = 1
  | .multiNode => 2 ≤ policy.membersPerReplica

def validate : Except String Unit :=
  refuseIf (policy.generation = 0 ∨ maxWorkloadReplicas < policy.desiredReplicas ∨
      policy.membersPerReplica = 0 ∨
      maxWorkloadPlacementGroupMembers < policy.membersPerReplica ∨ ¬ policy.membersFit ∨
      policy.nodePoolId.any (· = 0))
    "effective placement policy is unsupported, corrupt, or not canonical"

def validated : Except String EffectivePlacementPolicy := do
  policy.validate
  pure policy

def replicaSetInPool (generation desiredReplicas : ℕ) (nodePoolId : Option Uuid) :
    Except String EffectivePlacementPolicy :=
  validated {
    generation := generation
    desiredReplicas := desiredReplicas
    membersPerReplica := 1
    topology := .singleNode
    nodePoolId := nodePoolId }

def placementGroupInPool (generation desiredReplicas membersPerReplica : ℕ)
    (nodePoolId : Option Uuid) : Except String EffectivePlacementPolicy :=
  validated {
    generation := generation
    desiredReplicas := desiredReplicas
    membersPerReplica := membersPerReplica
    topology := .multiNode
    nodePoolId := nodePoolId }

/-- The policy of the next generation with another number of replicas. -/
def withReplicas (generation desiredReplicas : ℕ) : Except String EffectivePlacementPolicy :=
  match policy.topology with
  | .singleNode => replicaSetInPool generation desiredReplicas policy.nodePoolId
  | .multiNode =>
    placementGroupInPool generation desiredReplicas policy.membersPerReplica policy.nodePoolId

theorem withReplicas_ok {policy policy' : EffectivePlacementPolicy} {generation desiredReplicas : ℕ}
    (h : policy.withReplicas generation desiredReplicas = .ok policy') :
    policy'.desiredReplicas = desiredReplicas ∧ policy'.topology = policy.topology ∧
      desiredReplicas ≤ maxWorkloadReplicas ∧ policy'.membersFit = true := by
  unfold withReplicas at h
  cases htopology : policy.topology <;> simp only [htopology] at h <;>
    simp only [replicaSetInPool, placementGroupInPool, validated, validate, ok_rules, not_or,
      not_lt, not_not] at h <;>
    obtain ⟨hvalid, rfl⟩ := h <;> exact ⟨rfl, rfl, hvalid.2.1, hvalid.2.2.2.2.1⟩

end EffectivePlacementPolicy

structure WorkloadControlSpec where
  managedOwner : Option ManagedOwnerReference
  placementPolicy : EffectivePlacementPolicy
  deriving DecidableEq

def WorkloadControlSpec.validate (spec : WorkloadControlSpec) : Except String Unit := do
  checkAll ManagedOwnerReference.validate spec.managedOwner.toList
  spec.placementPolicy.validate

/-! ### The control record -/

structure WorkloadControl where
  organizationId : Uuid
  projectId : Uuid
  environmentId : Uuid
  workloadId : Uuid
  spec : WorkloadControlSpec
  aggregateVersion : ℕ
  createdAt : ℤ
  updatedAt : ℤ
  deriving DecidableEq

namespace WorkloadControl

def desiredReplicas (control : WorkloadControl) : ℕ := control.spec.placementPolicy.desiredReplicas

variable (control : WorkloadControl)

def validateAgainst (workload : Workload) : Except String Unit := do
  control.spec.validate
  refuseIf (control.organizationId ≠ workload.organizationId ∨
      control.projectId ≠ workload.projectId ∨ control.environmentId ≠ workload.environmentId ∨
      control.workloadId ≠ workload.id ∨ control.aggregateVersion = 0 ∨
      control.createdAt ≠ workload.createdAt ∨ control.updatedAt < control.createdAt)
    "workload control does not match its Workload aggregate"

def create (workload : Workload) (spec : WorkloadControlSpec) : Except String WorkloadControl := do
  spec.validate
  let control : WorkloadControl := {
    organizationId := workload.organizationId
    projectId := workload.projectId
    environmentId := workload.environmentId
    workloadId := workload.id
    spec := spec
    aggregateVersion := 1
    createdAt := workload.createdAt
    updatedAt := workload.createdAt }
  control.validateAgainst workload
  pure control

/-- The version after one more change. -/
def nextVersion : Except String ℕ :=
  orElse "workload control version overflowed" (checkedAdd control.aggregateVersion 1)

/-- A managed owner moves on to a newer generation with the next policy of the same shape. -/
def handsOver (currentOwner requestedOwner : ManagedOwnerReference)
    (current requested : EffectivePlacementPolicy) : Bool :=
  currentOwner.kind = requestedOwner.kind ∧ currentOwner.ownerId = requestedOwner.ownerId ∧
    currentOwner.ownerGeneration < requestedOwner.ownerGeneration ∧
    currentOwner.ownerSpecDigest ≠ requestedOwner.ownerSpecDigest ∧
    checkedAdd current.generation 1 = some requested.generation ∧
    current.desiredReplicas = requested.desiredReplicas ∧
    current.membersPerReplica = requested.membersPerReplica ∧
    current.topology = requested.topology ∧ current.nodePoolId = requested.nodePoolId

/-- The change of authority that a deployment may bring; the second part says whether there was
one. -/
def authorizeDeployment (requested : WorkloadControlSpec) (time : ℤ) :
    Except String (WorkloadControl × Bool) := do
  requested.validate
  if control.spec = requested then pure (control, false)
  else match control.spec.managedOwner, requested.managedOwner with
  | some currentOwner, some requestedOwner => do
    refuseIf (¬ handsOver currentOwner requestedOwner control.spec.placementPolicy
        requested.placementPolicy)
      ("managed Workload deployment requires a newer exact owner and the next placement " ++
        "generation")
    let time := canonicalTimestamp time
    refuseIf (time < control.updatedAt) "managed Workload authority handoff time regressed"
    let version ← control.nextVersion
    pure ({ control with spec := requested, aggregateVersion := version, updatedAt := time }, true)
  | _, _ => .error "managed Workload deployment cannot change direct ownership authority"

def requireDirectMutation : Except String Unit :=
  refuseIf control.spec.managedOwner.isSome "managed Workload rejects direct mutation"

def reconfigureReplicaSet (expectedPolicyGeneration desiredReplicas : ℕ)
    (requestedOwner : Option ManagedOwnerReference) (time : ℤ) :
    Except String WorkloadControl := do
  control.spec.validate
  let time := canonicalTimestamp time
  refuseIf (control.spec.managedOwner ≠ requestedOwner)
    "workload replica reconfiguration has the wrong owner authority"
  refuseIf (control.spec.placementPolicy.generation ≠ expectedPolicyGeneration)
    ("workload placement policy changed from expected generation " ++
      toString expectedPolicyGeneration ++ " to " ++
      toString control.spec.placementPolicy.generation)
  refuseIf (control.desiredReplicas = desiredReplicas)
    "workload replica reconfiguration does not change desired replicas"
  refuseIf (time < control.updatedAt) "workload replica reconfiguration time regressed"
  let generation ← orElse "workload placement policy generation overflowed"
    (checkedAdd expectedPolicyGeneration 1)
  let version ← control.nextVersion
  let policy ← control.spec.placementPolicy.withReplicas generation desiredReplicas
  pure { control with
    spec := { control.spec with placementPolicy := policy }
    aggregateVersion := version
    updatedAt := time }

/-! ### What the changes keep -/

/-- What identifies a control record. -/
def identity : Uuid × Uuid × Uuid × Uuid :=
  (control.organizationId, control.projectId, control.environmentId, control.workloadId)

variable {control control' : WorkloadControl} {time : ℤ}

theorem create_ok {workload : Workload} {spec : WorkloadControlSpec}
    (h : create workload spec = .ok control) : control.spec = spec ∧
      control.identity = (workload.organizationId, workload.projectId, workload.environmentId,
        workload.id) ∧ spec.validate = .ok () := by
  simp only [create, ok_rules] at h
  obtain ⟨hspec, -, rfl⟩ := h
  exact ⟨rfl, rfl, hspec⟩

theorem authorizeDeployment_ok {requested : WorkloadControlSpec} {changed : Bool}
    (h : control.authorizeDeployment requested time = .ok (control', changed)) :
    control'.identity = control.identity ∧ control'.desiredReplicas = control.desiredReplicas ∧
      control'.spec.placementPolicy.topology = control.spec.placementPolicy.topology ∧
      control'.spec = requested ∧ (changed = false → control' = control) := by
  simp only [authorizeDeployment, ok_rules] at h
  obtain ⟨-, h⟩ := h
  split_ifs at h with hsame
  · cases h
    exact ⟨rfl, rfl, rfl, hsame, fun _ => rfl⟩
  · split at h
    · simp only [ok_rules, not_not, Prod.mk.injEq] at h
      obtain ⟨hhands, -, version, -, rfl, rfl⟩ := h
      simp only [handsOver, decide_eq_true_eq] at hhands
      obtain ⟨-, -, -, -, -, hreplicas, -, htopology, -⟩ := hhands
      exact ⟨rfl, hreplicas.symm, htopology.symm, rfl, fun hfalse => by cases hfalse⟩
    · cases h

theorem reconfigureReplicaSet_ok {expectedPolicyGeneration desiredReplicas : ℕ}
    {requestedOwner : Option ManagedOwnerReference}
    (h : control.reconfigureReplicaSet expectedPolicyGeneration desiredReplicas
      requestedOwner time = .ok control') :
    control'.identity = control.identity ∧ control'.desiredReplicas = desiredReplicas ∧
      control'.spec.placementPolicy.topology = control.spec.placementPolicy.topology ∧
      desiredReplicas ≤ maxWorkloadReplicas ∧ control.desiredReplicas ≠ desiredReplicas ∧
      control'.spec.placementPolicy.membersFit = true := by
  simp only [reconfigureReplicaSet, ok_rules, not_not, ne_eq] at h
  obtain ⟨-, -, -, hne, -, generation, -, version, -, policy, hpolicy, rfl⟩ := h
  obtain ⟨hreplicas, htopology, hbound, hfit⟩ := EffectivePlacementPolicy.withReplicas_ok hpolicy
  exact ⟨rfl, hreplicas, htopology, hbound, hne, hfit⟩

end WorkloadControl

end A3SCloud
