import A3SCloud.Workloads.Deployment

/-!
# Workloads, replicas, members and their bindings

The model of `modules/workloads/domain/entities/workload.rs` and `workload_replica.rs`, with the part
of a revision that they read. A replica of a Workload has a member that is placed on a node, and a
deployment is bound to one generation of a replica.

The `…_ok` lemmas say what a successful transition changes.
-/

namespace A3SCloud

open Checks

variable (X : External)

/-! ### Texts of identifiers -/

/-- The lower-case hexadecimal digits of a number, filled up with zeros. -/
def hexDigits (width n : ℕ) : List Char :=
  let digits := Nat.toDigits 16 n
  List.replicate (width - digits.length) '0' ++ digits

/-- The hyphenated text of an identifier. -/
def uuidText (id : Uuid) : String :=
  let digits := hexDigits 32 id
  String.ofList (digits.take 8) ++ "-" ++ String.ofList ((digits.drop 8).take 4) ++ "-" ++
    String.ofList ((digits.drop 12).take 4) ++ "-" ++ String.ofList ((digits.drop 16).take 4) ++
    "-" ++ String.ofList (digits.drop 20)

/-! ### Workloads and revisions -/

inductive WorkloadDesiredState
  | running
  | stopped
  deriving DecidableEq

structure Workload where
  id : Uuid
  organizationId : Uuid
  projectId : Uuid
  environmentId : Uuid
  name : String
  desiredState : WorkloadDesiredState
  activeRevisionId : Option Uuid
  aggregateVersion : ℕ
  createdAt : ℤ
  updatedAt : ℤ
  deriving DecidableEq

namespace Workload

def create (id organizationId projectId environmentId : Uuid) (name : String) (createdAt : ℤ) :
    Workload where
  id := id
  organizationId := organizationId
  projectId := projectId
  environmentId := environmentId
  name := name
  desiredState := .running
  activeRevisionId := none
  aggregateVersion := 1
  createdAt := canonicalTimestamp createdAt
  updatedAt := canonicalTimestamp createdAt

def activate (workload : Workload) (revisionId : Uuid) (activatedAt : ℤ) :
    Except String Workload := do
  refuseIf (workload.desiredState ≠ .running) "stopped workload cannot activate a revision"
  refuseIf (canonicalTimestamp activatedAt < workload.updatedAt)
    "workload activation time regressed"
  if workload.activeRevisionId = some revisionId then
    pure { workload with updatedAt := canonicalTimestamp activatedAt }
  else
    pure { workload with
      activeRevisionId := some revisionId
      aggregateVersion := workload.aggregateVersion + 1
      updatedAt := canonicalTimestamp activatedAt }

def requestStop (workload : Workload) (requestedAt : ℤ) : Except String Workload := do
  refuseIf (canonicalTimestamp requestedAt < workload.updatedAt)
    "workload stop request time regressed"
  if workload.desiredState = .stopped then pure workload
  else
    pure { workload with
      desiredState := .stopped
      aggregateVersion := workload.aggregateVersion + 1
      updatedAt := canonicalTimestamp requestedAt }

def completeStop (workload : Workload) (stoppedAt : ℤ) : Except String Workload := do
  refuseIf (workload.desiredState ≠ .stopped) "running workload cannot complete a stop"
  refuseIf (canonicalTimestamp stoppedAt < workload.updatedAt)
    "workload stop completion time regressed"
  if workload.activeRevisionId = none then pure workload
  else
    pure { workload with
      activeRevisionId := none
      aggregateVersion := workload.aggregateVersion + 1
      updatedAt := canonicalTimestamp stoppedAt }

end Workload

/-- The part of a revision that its replicas read; `body` stands for its other fields. -/
structure WorkloadRevision where
  id : Uuid
  workloadId : Uuid
  generation : ℕ
  createdAt : ℤ
  body : String
  deriving DecidableEq

def WorkloadRevision.runtimeUnitId (revision : WorkloadRevision) : String :=
  "workload:" ++ uuidText revision.workloadId ++ ":revision:" ++ uuidText revision.id

/-! ### Replicas -/

inductive WorkloadReplicaLifecycle
  | desired
  | retiring
  | retired
  deriving DecidableEq

def canonicalReplicaOrdinal : ℕ := 0

def maxWorkloadReplicas : ℕ := 100

def maxWorkloadPlacementGroupMembers : ℕ := 256

structure WorkloadReplica where
  id : Uuid
  organizationId : Uuid
  projectId : Uuid
  environmentId : Uuid
  workloadId : Uuid
  ordinal : ℕ
  revisionId : Uuid
  revisionGeneration : ℕ
  generation : ℕ
  lifecycle : WorkloadReplicaLifecycle
  evacuationNodeId : Option Uuid
  retirementCommandId : Option Uuid
  runtimeFencedAt : Option ℤ
  aggregateVersion : ℕ
  createdAt : ℤ
  updatedAt : ℤ
  deriving DecidableEq

structure WorkloadReplicaMember where
  id : Uuid
  organizationId : Uuid
  projectId : Uuid
  environmentId : Uuid
  workloadId : Uuid
  replicaId : Uuid
  ordinal : ℕ
  nodeId : Option Uuid
  placementGeneration : ℕ
  aggregateVersion : ℕ
  createdAt : ℤ
  updatedAt : ℤ
  deriving DecidableEq

namespace WorkloadReplica

def deterministicId (workloadId : Uuid) (ordinal : ℕ) : Except String Uuid := do
  refuseIf (maxWorkloadReplicas ≤ ordinal) "Workload replica ordinal must be smaller than 100"
  if ordinal = canonicalReplicaOrdinal then pure workloadId
  else pure (X.uuidV5 workloadId ("a3s.cloud.workload-replica.v1:" ++ toString ordinal))

variable (replica : WorkloadReplica)

/-- The retirement evidence that a replica carries in each part of its life. -/
def retirementStateValid : Bool :=
  match replica.lifecycle with
  | .desired =>
    replica.evacuationNodeId.isNone && replica.retirementCommandId.isNone &&
      replica.runtimeFencedAt.isNone
  | .retiring => replica.runtimeFencedAt.isNone || replica.retirementCommandId.isSome
  | .retired =>
    replica.evacuationNodeId.isNone &&
      replica.retirementCommandId.isSome == replica.runtimeFencedAt.isSome

def validate : Except String Unit := do
  refuseIf (replica.id = 0 ∨ replica.organizationId = 0 ∨ replica.projectId = 0 ∨
      replica.environmentId = 0 ∨ replica.workloadId = 0 ∨ replica.revisionId = 0 ∨
      (deterministicId X replica.workloadId replica.ordinal).toOption ≠ some replica.id ∨
      replica.revisionGeneration = 0 ∨ replica.generation = 0 ∨ replica.aggregateVersion = 0 ∨
      replica.updatedAt < replica.createdAt ∨ replica.evacuationNodeId.any (· = 0) ∨
      replica.runtimeFencedAt.any
        (fun fencedAt => fencedAt < replica.createdAt ∨ replica.updatedAt < fencedAt))
    "Workload replica is invalid"
  refuseIf (¬ replica.retirementStateValid) "Workload replica retirement evidence is invalid"

def forOrdinal (workload : Workload) (revision : WorkloadRevision) (ordinal : ℕ) :
    Except String WorkloadReplica := do
  refuseIf (revision.workloadId ≠ workload.id ∨ revision.generation = 0)
    "Workload replica revision is inconsistent"
  let id ← deterministicId X workload.id ordinal
  let replica : WorkloadReplica := {
    id := id
    organizationId := workload.organizationId
    projectId := workload.projectId
    environmentId := workload.environmentId
    workloadId := workload.id
    ordinal := ordinal
    revisionId := revision.id
    revisionGeneration := revision.generation
    generation := revision.generation
    lifecycle := .desired
    evacuationNodeId := none
    retirementCommandId := none
    runtimeFencedAt := none
    aggregateVersion := 1
    createdAt := workload.createdAt
    updatedAt := max revision.createdAt workload.createdAt }
  replica.validate X
  pure replica

def runtimeUnitId (replica : WorkloadReplica) (revision : WorkloadRevision) :
    Except String String := do
  refuseIf (revision.workloadId ≠ replica.workloadId ∨ revision.id ≠ replica.revisionId ∨
      revision.generation ≠ replica.revisionGeneration)
    "Workload replica Runtime identity has the wrong revision"
  if replica.ordinal = canonicalReplicaOrdinal then pure revision.runtimeUnitId
  else pure ("workload:" ++ uuidText replica.workloadId ++ ":replica:" ++ uuidText replica.id ++
    ":revision:" ++ uuidText revision.id)

/-- The version after one more change. -/
def nextVersion : Except String ℕ :=
  orElse "Workload replica version overflowed" (checkedAdd replica.aggregateVersion 1)

/-- The generation after the present one. -/
def nextGeneration : Except String ℕ :=
  orElse "Workload replica generation overflowed" (checkedAdd replica.generation 1)

def advance (revision : WorkloadRevision) (time : ℤ) : Except String WorkloadReplica := do
  let time := canonicalTimestamp time
  refuseIf (revision.workloadId ≠ replica.workloadId ∨
      revision.generation ≤ replica.revisionGeneration ∨ replica.lifecycle ≠ .desired ∨
      time < replica.updatedAt)
    "Workload replica generation advance is invalid"
  let generation ← replica.nextGeneration
  let version ← replica.nextVersion
  pure { replica with
    revisionId := revision.id
    revisionGeneration := revision.generation
    generation := generation
    aggregateVersion := version
    updatedAt := time }

def requestRetirement (time : ℤ) : Except String WorkloadReplica := do
  let time := canonicalTimestamp time
  refuseIf (time < replica.updatedAt) "Workload replica retirement time regressed"
  if replica.lifecycle ≠ .desired then pure { replica with updatedAt := time }
  else do
    let version ← replica.nextVersion
    pure { replica with
      lifecycle := .retiring
      evacuationNodeId := none
      retirementCommandId := none
      runtimeFencedAt := none
      aggregateVersion := version
      updatedAt := time }

def requestEvacuation (member : WorkloadReplicaMember) (nodeId : Uuid)
    (time : ℤ) : Except String WorkloadReplica := do
  let time := canonicalTimestamp time
  refuseIf (nodeId = 0 ∨ member.replicaId ≠ replica.id ∨ member.workloadId ≠ replica.workloadId ∨
      member.nodeId ≠ some nodeId ∨ time < max replica.updatedAt member.updatedAt)
    "Workload replica evacuation request is invalid"
  if replica.lifecycle = .retiring ∧ replica.evacuationNodeId = some nodeId then pure replica
  else do
    refuseIf (replica.lifecycle ≠ .desired) "Workload replica is not eligible for evacuation"
    let version ← replica.nextVersion
    pure { replica with
      lifecycle := .retiring
      evacuationNodeId := some nodeId
      retirementCommandId := none
      runtimeFencedAt := none
      aggregateVersion := version
      updatedAt := time }

def dispatchRetirement (commandId : Uuid) (time : ℤ) : Except String WorkloadReplica := do
  let time := canonicalTimestamp time
  refuseIf (commandId = 0 ∨ replica.lifecycle ≠ .retiring ∨ replica.runtimeFencedAt.isSome ∨
      time < replica.updatedAt)
    "Workload replica retirement dispatch is invalid"
  if replica.retirementCommandId = some commandId then pure replica
  else do
    let version ← replica.nextVersion
    pure { replica with
      retirementCommandId := some commandId
      aggregateVersion := version
      updatedAt := time }

def recordRuntimeFenced (commandId : Uuid) (fencedAt : ℤ) : Except String WorkloadReplica := do
  let fencedAt := canonicalTimestamp fencedAt
  refuseIf (replica.lifecycle ≠ .retiring ∨ replica.retirementCommandId ≠ some commandId ∨
      fencedAt < replica.updatedAt)
    "Workload replica Runtime fencing evidence is invalid"
  if replica.runtimeFencedAt.isSome then do
    refuseIf (replica.runtimeFencedAt ≠ some fencedAt)
      "Workload replica Runtime fencing evidence cannot change"
    pure replica
  else do
    let version ← replica.nextVersion
    pure { replica with
      runtimeFencedAt := some fencedAt
      aggregateVersion := version
      updatedAt := fencedAt }

def completeRetirement (member : WorkloadReplicaMember) (time : ℤ) :
    Except String WorkloadReplica := do
  let time := canonicalTimestamp time
  refuseIf (member.replicaId ≠ replica.id ∨ member.workloadId ≠ replica.workloadId ∨
      member.nodeId.isSome ∨ replica.lifecycle ≠ .retiring ∨ replica.evacuationNodeId.isSome ∨
      replica.retirementCommandId.isSome ≠ replica.runtimeFencedAt.isSome ∨
      time < max replica.updatedAt member.updatedAt)
    "Workload replica cannot retire before its member is released"
  let version ← replica.nextVersion
  pure { replica with
    lifecycle := .retired
    aggregateVersion := version
    updatedAt := time }

def renewed (generation version : ℕ) (time : ℤ) : WorkloadReplica :=
  { replica with
    generation := generation
    lifecycle := .desired
    evacuationNodeId := none
    retirementCommandId := none
    runtimeFencedAt := none
    aggregateVersion := version
    updatedAt := time }

def completeEvacuation (member : WorkloadReplicaMember) (time : ℤ) :
    Except String WorkloadReplica := do
  let time := canonicalTimestamp time
  refuseIf (member.replicaId ≠ replica.id ∨ member.workloadId ≠ replica.workloadId ∨
      member.nodeId.isSome ∨ replica.lifecycle ≠ .retiring ∨ replica.evacuationNodeId = none ∨
      replica.retirementCommandId = none ∨ replica.runtimeFencedAt = none ∨
      time < max replica.updatedAt member.updatedAt)
    "Workload replica cannot complete evacuation before fencing"
  let generation ← replica.nextGeneration
  let version ← replica.nextVersion
  pure (replica.renewed generation version time)

def reactivate (revision : WorkloadRevision) (time : ℤ) : Except String WorkloadReplica := do
  let time := canonicalTimestamp time
  refuseIf (replica.lifecycle ≠ .retired ∨ revision.workloadId ≠ replica.workloadId ∨
      revision.generation < replica.revisionGeneration ∨ time < replica.updatedAt)
    "Workload replica reactivation is invalid"
  let generation ← replica.nextGeneration
  let version ← replica.nextVersion
  pure ({ replica with
    revisionId := revision.id
    revisionGeneration := revision.generation : WorkloadReplica }.renewed generation version time)

/-! ### What the transitions of a replica do -/

section Transitions

variable {X} {workload : Workload} {revision : WorkloadRevision} {replica replica' : WorkloadReplica}
  {member : WorkloadReplicaMember} {ordinal : ℕ} {nodeId commandId : Uuid} {time : ℤ}

theorem nextVersion_ok {version : ℕ} (h : replica.nextVersion = .ok version) :
    version = replica.aggregateVersion + 1 := by
  simp only [nextVersion, orElse_ok_iff, checkedAdd_eq_some] at h
  exact h.1.symm

theorem nextGeneration_ok {generation : ℕ} (h : replica.nextGeneration = .ok generation) :
    generation = replica.generation + 1 := by
  simp only [nextGeneration, orElse_ok_iff, checkedAdd_eq_some] at h
  exact h.1.symm

theorem forOrdinal_ok (h : forOrdinal X workload revision ordinal = .ok replica) :
    deterministicId X workload.id ordinal = .ok replica.id ∧
      replica.organizationId = workload.organizationId ∧
      replica.projectId = workload.projectId ∧ replica.environmentId = workload.environmentId ∧
      replica.workloadId = workload.id ∧ replica.ordinal = ordinal ∧
      replica.revisionId = revision.id ∧ replica.revisionGeneration = revision.generation ∧
      replica.generation = revision.generation ∧ replica.lifecycle = .desired ∧
      replica.evacuationNodeId = none ∧ replica.runtimeFencedAt = none ∧
      replica.validate X = .ok () := by
  simp only [forOrdinal, ok_rules] at h
  obtain ⟨-, id, hid, hvalid, rfl⟩ := h
  exact ⟨hid, rfl, rfl, rfl, rfl, rfl, rfl, rfl, rfl, rfl, rfl, rfl, hvalid⟩

theorem advance_ok (h : replica.advance revision time = .ok replica') :
    revision.workloadId = replica.workloadId ∧ replica.revisionGeneration < revision.generation ∧
      replica.lifecycle = .desired ∧ replica' = { replica with
        revisionId := revision.id
        revisionGeneration := revision.generation
        generation := replica.generation + 1
        aggregateVersion := replica.aggregateVersion + 1
        updatedAt := canonicalTimestamp time } := by
  simp only [advance, ok_rules, not_or, not_le, not_lt, ne_eq, not_not] at h
  obtain ⟨⟨hworkload, hrevision, hdesired, -⟩, generation, hgeneration, version, hversion, rfl⟩ := h
  cases nextGeneration_ok hgeneration
  cases nextVersion_ok hversion
  exact ⟨hworkload, hrevision, hdesired, rfl⟩

theorem requestRetirement_ok (h : replica.requestRetirement time = .ok replica') :
    (replica.lifecycle ≠ .desired ∧
        replica' = { replica with updatedAt := canonicalTimestamp time }) ∨
      (replica.lifecycle = .desired ∧ replica' = { replica with
        lifecycle := .retiring
        evacuationNodeId := none
        retirementCommandId := none
        runtimeFencedAt := none
        aggregateVersion := replica.aggregateVersion + 1
        updatedAt := canonicalTimestamp time }) := by
  simp only [requestRetirement, ok_rules] at h
  obtain ⟨-, h⟩ := h
  split_ifs at h with hlifecycle
  · cases h
    exact .inl ⟨hlifecycle, rfl⟩
  · simp only [ok_rules] at h
    obtain ⟨version, hversion, rfl⟩ := h
    cases nextVersion_ok hversion
    exact .inr ⟨not_not.1 hlifecycle, rfl⟩

theorem requestEvacuation_ok (h : replica.requestEvacuation member nodeId time = .ok replica') :
    replica' = replica ∨ (replica.lifecycle = .desired ∧ replica' = { replica with
      lifecycle := .retiring
      evacuationNodeId := some nodeId
      retirementCommandId := none
      runtimeFencedAt := none
      aggregateVersion := replica.aggregateVersion + 1
      updatedAt := canonicalTimestamp time }) := by
  simp only [requestEvacuation, ok_rules] at h
  obtain ⟨-, h⟩ := h
  split_ifs at h with hreplayed
  · cases h
    exact .inl rfl
  · simp only [ok_rules, not_not, ne_eq] at h
    obtain ⟨hdesired, version, hversion, rfl⟩ := h
    cases nextVersion_ok hversion
    exact .inr ⟨hdesired, rfl⟩

theorem dispatchRetirement_ok (h : replica.dispatchRetirement commandId time = .ok replica') :
    replica.lifecycle = .retiring ∧ (replica' = replica ∨ replica' = { replica with
      retirementCommandId := some commandId
      aggregateVersion := replica.aggregateVersion + 1
      updatedAt := canonicalTimestamp time }) := by
  simp only [dispatchRetirement, ok_rules, not_or, ne_eq, not_not] at h
  obtain ⟨⟨-, hretiring, -⟩, h⟩ := h
  refine ⟨hretiring, ?_⟩
  split_ifs at h
  · cases h
    exact .inl rfl
  · simp only [ok_rules] at h
    obtain ⟨version, hversion, rfl⟩ := h
    cases nextVersion_ok hversion
    exact .inr rfl

theorem recordRuntimeFenced_ok (h : replica.recordRuntimeFenced commandId time = .ok replica') :
    replica.lifecycle = .retiring ∧ (replica' = replica ∨ replica' = { replica with
      runtimeFencedAt := some (canonicalTimestamp time)
      aggregateVersion := replica.aggregateVersion + 1
      updatedAt := canonicalTimestamp time }) := by
  simp only [recordRuntimeFenced, ok_rules, not_or, ne_eq, not_not] at h
  obtain ⟨⟨hretiring, -, -⟩, h⟩ := h
  refine ⟨hretiring, ?_⟩
  split_ifs at h
  · simp only [ok_rules] at h
    exact .inl h.2.symm
  · simp only [ok_rules] at h
    obtain ⟨version, hversion, rfl⟩ := h
    cases nextVersion_ok hversion
    exact .inr rfl

theorem completeRetirement_ok (h : replica.completeRetirement member time = .ok replica') :
    replica.lifecycle = .retiring ∧ replica.evacuationNodeId = none ∧ replica' = { replica with
      lifecycle := .retired
      aggregateVersion := replica.aggregateVersion + 1
      updatedAt := canonicalTimestamp time } := by
  simp only [completeRetirement, ok_rules, not_or, ne_eq, not_not, Bool.not_eq_true,
    Option.isSome_eq_false_iff, Option.isNone_iff_eq_none] at h
  obtain ⟨⟨-, -, -, hretiring, hevacuation, -⟩, version, hversion, rfl⟩ := h
  cases nextVersion_ok hversion
  exact ⟨hretiring, hevacuation, rfl⟩

theorem completeEvacuation_ok (h : replica.completeEvacuation member time = .ok replica') :
    replica.lifecycle = .retiring ∧ replica.evacuationNodeId ≠ none ∧
      replica.runtimeFencedAt ≠ none ∧ replica' = replica.renewed (replica.generation + 1)
        (replica.aggregateVersion + 1) (canonicalTimestamp time) := by
  simp only [completeEvacuation, ok_rules, not_or, ne_eq, not_not] at h
  obtain ⟨⟨-, -, -, hretiring, hevacuation, -, hfenced, -⟩, generation, hgeneration, version,
    hversion, rfl⟩ := h
  cases nextGeneration_ok hgeneration
  cases nextVersion_ok hversion
  exact ⟨hretiring, hevacuation, hfenced, rfl⟩

theorem reactivate_ok (h : replica.reactivate revision time = .ok replica') :
    replica.lifecycle = .retired ∧ replica' = ({ replica with
      revisionId := revision.id
      revisionGeneration := revision.generation : WorkloadReplica }.renewed
        (replica.generation + 1) (replica.aggregateVersion + 1) (canonicalTimestamp time)) := by
  simp only [reactivate, ok_rules, not_or, ne_eq, not_not] at h
  obtain ⟨⟨hretired, -⟩, generation, hgeneration, version, hversion, rfl⟩ := h
  cases nextGeneration_ok hgeneration
  cases nextVersion_ok hversion
  exact ⟨hretired, rfl⟩

end Transitions

end WorkloadReplica

/-! ### Members -/

namespace WorkloadReplicaMember

def deterministicId (replicaId : Uuid) (ordinal : ℕ) : Except String Uuid := do
  refuseIf (maxWorkloadPlacementGroupMembers ≤ ordinal)
    "Workload placement-group member ordinal must be smaller than 256"
  if ordinal = canonicalReplicaOrdinal then pure replicaId
  else pure (X.uuidV5 replicaId ("a3s.cloud.workload-replica-member.v1:" ++ toString ordinal))

variable (member : WorkloadReplicaMember)

def validate : Except String Unit :=
  refuseIf (member.id = 0 ∨ member.organizationId = 0 ∨ member.projectId = 0 ∨
      member.environmentId = 0 ∨ member.workloadId = 0 ∨ member.replicaId = 0 ∨
      (deterministicId X member.replicaId member.ordinal).toOption ≠ some member.id ∨
      (member.nodeId.isSome ∧ member.placementGeneration = 0) ∨ member.aggregateVersion = 0 ∨
      member.updatedAt < member.createdAt)
    "Workload replica member is invalid"

def forOrdinal (workload : Workload) (replica : WorkloadReplica) (ordinal : ℕ) :
    Except String WorkloadReplicaMember := do
  replica.validate X
  refuseIf (replica.organizationId ≠ workload.organizationId ∨
      replica.projectId ≠ workload.projectId ∨ replica.environmentId ≠ workload.environmentId ∨
      replica.workloadId ≠ workload.id)
    "Workload replica member has the wrong replica"
  let id ← deterministicId X replica.id ordinal
  let member : WorkloadReplicaMember := {
    id := id
    organizationId := workload.organizationId
    projectId := workload.projectId
    environmentId := workload.environmentId
    workloadId := workload.id
    replicaId := replica.id
    ordinal := ordinal
    nodeId := none
    placementGeneration := 0
    aggregateVersion := 1
    createdAt := workload.createdAt
    updatedAt := workload.createdAt }
  member.validate X
  pure member

def forReplica (workload : Workload) (replica : WorkloadReplica) :
    Except String WorkloadReplicaMember :=
  forOrdinal X workload replica canonicalReplicaOrdinal

/-- The version after one more change. -/
def nextVersion : Except String ℕ :=
  orElse "Workload replica member version overflowed" (checkedAdd member.aggregateVersion 1)

def place (nodeId : Uuid) (time : ℤ) : Except String WorkloadReplicaMember := do
  let time := canonicalTimestamp time
  refuseIf (nodeId = 0 ∨ time < member.updatedAt) "Workload replica member placement is invalid"
  match member.nodeId with
  | some existing => do
    refuseIf (existing ≠ nodeId)
      "Workload replica member cannot move without explicit release or fencing"
    pure { member with updatedAt := time }
  | none => do
    let generation ← orElse "Workload placement generation overflowed"
      (checkedAdd member.placementGeneration 1)
    let version ← member.nextVersion
    pure { member with
      nodeId := some nodeId
      placementGeneration := generation
      aggregateVersion := version
      updatedAt := time }

def releaseAfterFencing (nodeId : Uuid) (time : ℤ) : Except String WorkloadReplicaMember := do
  let time := canonicalTimestamp time
  refuseIf (time < member.updatedAt ∨ nodeId = 0) "Workload replica member release is invalid"
  match member.nodeId with
  | none => pure { member with updatedAt := time }
  | some existing => do
    refuseIf (existing ≠ nodeId) "Workload replica member release changed its fenced node"
    let version ← member.nextVersion
    pure { member with
      nodeId := none
      aggregateVersion := version
      updatedAt := time }

section Transitions

variable {X} {workload : Workload} {replica : WorkloadReplica} {member member' : WorkloadReplicaMember}
  {nodeId : Uuid} {time : ℤ}

theorem nextVersion_ok {version : ℕ} (h : member.nextVersion = .ok version) :
    version = member.aggregateVersion + 1 := by
  simp only [nextVersion, orElse_ok_iff, checkedAdd_eq_some] at h
  exact h.1.symm

/-- The first member of a replica has the identifier of the replica and is not placed. -/
theorem forReplica_ok (h : forReplica X workload replica = .ok member) :
    member.id = replica.id ∧ member.replicaId = replica.id ∧ member.nodeId = none ∧
      member.workloadId = workload.id ∧ member.placementGeneration = 0 ∧
      member.organizationId = workload.organizationId := by
  simp only [forReplica, forOrdinal, ok_rules] at h
  obtain ⟨-, -, id, hid, -, rfl⟩ := h
  simp only [deterministicId, ok_rules, if_true] at hid
  exact ⟨hid.2.symm, rfl, rfl, rfl, rfl, rfl⟩

/-- A member is placed where it already is, or anywhere from nowhere. -/
theorem place_ok (h : member.place nodeId time = .ok member') :
    (member.nodeId = some nodeId ∧
        member' = { member with updatedAt := canonicalTimestamp time }) ∨
      (member.nodeId = none ∧ member.placementGeneration + 1 < 2 ^ 64 ∧ member' = { member with
        nodeId := some nodeId
        placementGeneration := member.placementGeneration + 1
        aggregateVersion := member.aggregateVersion + 1
        updatedAt := canonicalTimestamp time }) := by
  simp only [place, ok_rules] at h
  obtain ⟨-, h⟩ := h
  cases hnode : member.nodeId with
  | some =>
    simp only [hnode, ok_rules, ne_eq, not_not] at h
    obtain ⟨rfl, rfl⟩ := h
    exact .inl ⟨rfl, rfl⟩
  | none =>
    simp only [hnode, ok_rules, checkedAdd_eq_some] at h
    obtain ⟨generation, ⟨rfl, hlt⟩, version, hversion, rfl⟩ := h
    cases nextVersion_ok hversion
    exact .inr ⟨rfl, hlt, rfl⟩

theorem releaseAfterFencing_ok (h : member.releaseAfterFencing nodeId time = .ok member') :
    (member.nodeId = none ∧ member' = { member with updatedAt := canonicalTimestamp time }) ∨
      (member.nodeId = some nodeId ∧ member' = { member with
        nodeId := none
        aggregateVersion := member.aggregateVersion + 1
        updatedAt := canonicalTimestamp time }) := by
  simp only [releaseAfterFencing, ok_rules] at h
  obtain ⟨-, h⟩ := h
  cases hnode : member.nodeId with
  | none =>
    simp only [hnode, pure_ok_iff] at h
    exact .inl ⟨rfl, h.symm⟩
  | some =>
    simp only [hnode, ok_rules, ne_eq, not_not] at h
    obtain ⟨rfl, version, hversion, rfl⟩ := h
    cases nextVersion_ok hversion
    exact .inr ⟨rfl, rfl⟩

end Transitions

end WorkloadReplicaMember

/-! ### Bindings of deployments -/

structure DeploymentReplicaBinding where
  deploymentId : Uuid
  organizationId : Uuid
  projectId : Uuid
  environmentId : Uuid
  workloadId : Uuid
  revisionId : Uuid
  replicaId : Uuid
  replicaGeneration : ℕ
  memberId : Uuid
  nodeId : Option Uuid
  placementGeneration : ℕ
  runtimeUnitId : String
  runtimeGeneration : ℕ
  createdAt : ℤ
  updatedAt : ℤ
  deriving DecidableEq

namespace DeploymentReplicaBinding

def createWithRuntimeUnitId (deployment : Deployment) (replica : WorkloadReplica)
    (member : WorkloadReplicaMember) (runtimeUnitId : String) : DeploymentReplicaBinding where
  deploymentId := deployment.id
  organizationId := replica.organizationId
  projectId := replica.projectId
  environmentId := replica.environmentId
  workloadId := deployment.workloadId
  revisionId := deployment.revisionId
  replicaId := replica.id
  replicaGeneration := replica.generation
  memberId := member.id
  nodeId := deployment.nodeId
  placementGeneration := member.placementGeneration
  runtimeUnitId := runtimeUnitId
  runtimeGeneration := replica.generation
  createdAt := deployment.requestedAt
  updatedAt := deployment.updatedAt

variable (binding : DeploymentReplicaBinding)

def validateLineage (deployment : Deployment)
    (revision : WorkloadRevision) (replica : WorkloadReplica) (member : WorkloadReplicaMember) :
    Except String Unit := do
  replica.validate X
  member.validate X
  refuseIf (binding.deploymentId ≠ deployment.id ∨
      binding.organizationId ≠ deployment.organizationId ∨
      binding.organizationId ≠ replica.organizationId ∨
      binding.organizationId ≠ member.organizationId ∨ binding.projectId ≠ replica.projectId ∨
      binding.projectId ≠ member.projectId ∨ binding.environmentId ≠ replica.environmentId ∨
      binding.environmentId ≠ member.environmentId ∨
      binding.workloadId ≠ deployment.workloadId ∨ binding.revisionId ≠ deployment.revisionId ∨
      binding.revisionId ≠ revision.id ∨ revision.workloadId ≠ binding.workloadId ∨
      revision.generation = 0 ∨ binding.replicaId ≠ replica.id ∨
      replica.workloadId ≠ binding.workloadId ∨ binding.memberId ≠ member.id ∨
      member.replicaId ≠ binding.replicaId ∨ member.workloadId ≠ binding.workloadId ∨
      binding.replicaGeneration = 0 ∨ binding.runtimeGeneration ≠ binding.replicaGeneration ∨
      (binding.nodeId.isSome ∧ binding.placementGeneration = 0) ∨
      isBlank binding.runtimeUnitId ∨ 512 < binding.runtimeUnitId.utf8ByteSize ∨
      containsAny binding.runtimeUnitId ['\x00', '\r', '\n'] ∨
      binding.updatedAt < binding.createdAt)
    "deployment replica binding lineage is invalid"

def validateCommon (deployment : Deployment)
    (revision : WorkloadRevision) (replica : WorkloadReplica) (member : WorkloadReplicaMember) :
    Except String Unit := do
  binding.validateLineage X deployment revision replica member
  refuseIf (replica.revisionId ≠ binding.revisionId ∨
      replica.revisionGeneration ≠ revision.generation ∨ replica.lifecycle ≠ .desired ∨
      binding.replicaGeneration ≠ replica.generation ∨
      binding.placementGeneration ≠ member.placementGeneration ∨
      binding.runtimeGeneration ≠ replica.generation)
    "deployment replica binding is invalid"

def validateAgainst (deployment : Deployment)
    (revision : WorkloadRevision) (replica : WorkloadReplica) (member : WorkloadReplicaMember) :
    Except String Unit := do
  binding.validateCommon X deployment revision replica member
  -- the unit is computed only when both nodes agree; its own error comes before the check
  if binding.nodeId ≠ deployment.nodeId ∨
      (binding.nodeId.isSome ∧ binding.nodeId ≠ member.nodeId) then
    .error "deployment replica binding is invalid"
  else do
    let unitId ← replica.runtimeUnitId revision
    refuseIf (binding.runtimeUnitId ≠ unitId) "deployment replica binding is invalid"

def create (deployment : Deployment) (revision : WorkloadRevision) (replica : WorkloadReplica)
    (member : WorkloadReplicaMember) : Except String DeploymentReplicaBinding := do
  let unitId ← replica.runtimeUnitId revision
  let binding := createWithRuntimeUnitId deployment replica member unitId
  binding.validateAgainst X deployment revision replica member
  pure binding

def assign (deployment : Deployment)
    (member : WorkloadReplicaMember) : Except String DeploymentReplicaBinding := do
  refuseIf (deployment.id ≠ binding.deploymentId ∨ deployment.nodeId ≠ member.nodeId ∨
      deployment.updatedAt < binding.updatedAt ∨ member.replicaId ≠ binding.replicaId)
    "deployment replica placement binding is inconsistent"
  pure { binding with
    nodeId := deployment.nodeId
    placementGeneration := member.placementGeneration
    updatedAt := deployment.updatedAt }

def proposeAssignment (nodeId : Uuid) (time : ℤ) : Except String DeploymentReplicaBinding := do
  let time := canonicalTimestamp time
  refuseIf (binding.nodeId.isSome ∨ nodeId = 0 ∨ time < binding.updatedAt)
    "deployment replica binding cannot propose an initial assignment"
  pure { binding with
    nodeId := some nodeId
    placementGeneration :=
      if binding.placementGeneration = 0 then 1 else binding.placementGeneration
    updatedAt := time }

section Transitions

variable {X} {deployment : Deployment} {revision : WorkloadRevision} {replica : WorkloadReplica}
  {member : WorkloadReplicaMember} {binding binding' : DeploymentReplicaBinding}

theorem create_ok (h : create X deployment revision replica member = .ok binding) :
    (∃ unitId, replica.runtimeUnitId revision = .ok unitId ∧
        binding = createWithRuntimeUnitId deployment replica member unitId) ∧
      binding.validateAgainst X deployment revision replica member = .ok () := by
  simp only [create, ok_rules] at h
  obtain ⟨unitId, hunit, hvalid, rfl⟩ := h
  exact ⟨⟨unitId, hunit, rfl⟩, hvalid⟩

theorem assign_ok (h : binding.assign deployment member = .ok binding') :
    deployment.id = binding.deploymentId ∧ deployment.nodeId = member.nodeId ∧
      member.replicaId = binding.replicaId ∧ binding' = { binding with
        nodeId := deployment.nodeId
        placementGeneration := member.placementGeneration
        updatedAt := deployment.updatedAt } := by
  simp only [assign, ok_rules, not_or, ne_eq, not_not] at h
  obtain ⟨⟨hid, hnode, -, hreplica⟩, rfl⟩ := h
  exact ⟨hid, hnode, hreplica, rfl⟩

end Transitions

end DeploymentReplicaBinding

end A3SCloud
