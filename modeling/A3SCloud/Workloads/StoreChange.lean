import A3SCloud.Workloads.ReplicaRepository

/-!
# What an operation of the Workload repository changes

`StoreChange` lists what a step of the repository can do to its tables, with what the operation has
checked; `step_change` proves that nothing else happens. The invariants of the repository are proved
by cases on it.

* `Deployment.Moved` is a transition of a deployment that leaves it open or completes it,
  `Deployment.Ended` one that ends it without success.
-/

namespace A3SCloud

open Checks List Deployment Option WorkloadReplica

/-! ### Transitions of deployments -/

/-- What no transition of a deployment changes. -/
structure Deployment.SameIdentity (deployment deployment' : Deployment) : Prop where
  id : deployment'.id = deployment.id
  organizationId : deployment'.organizationId = deployment.organizationId
  workloadId : deployment'.workloadId = deployment.workloadId
  revisionId : deployment'.revisionId = deployment.revisionId

/-- A deployment keeps its status, goes on, or completes its retirement. -/
structure Deployment.Moved (deployment deployment' : Deployment) : Prop
    extends SameIdentity deployment deployment' where
  status : deployment'.status = deployment.status ∨
    (deployment.status.isTerminal = false ∧ deployment'.status.isTerminal = false ∧
      deployment'.status ≠ .retiring) ∨
    (deployment.status = .retiring ∧ deployment'.status = .active)

/-- A deployment ends without success. -/
structure Deployment.Ended (deployment deployment' : Deployment) : Prop
    extends SameIdentity deployment deployment' where
  status : deployment'.status = .failed ∨ deployment'.status = .orphaned ∨
    deployment'.status = .cancelled

namespace Deployment

variable {deployment deployment' : Deployment} {expected next : DeploymentStatus} {time : ℤ}
  {commandId nodeId : Uuid} {reason : String} {retirementRequired : Bool}

theorem SameIdentity.refl (deployment : Deployment) : SameIdentity deployment deployment :=
  ⟨rfl, rfl, rfl, rfl⟩

theorem Moved.refl (deployment : Deployment) : Moved deployment deployment :=
  ⟨.refl _, .inl rfl⟩

theorem transition_ok (h : deployment.transition expected next time = .ok deployment') :
    (deployment.status = next ∧ deployment' = deployment) ∨
      (deployment.status = expected ∧ deployment' =
        { deployment with status := next : Deployment }.touch (canonicalTimestamp time)) := by
  simp only [transition, canonicalTime, ok_rules] at h
  obtain ⟨_, ⟨-, rfl⟩, h⟩ := h
  split_ifs at h with hsame
  · cases h
    exact .inl ⟨hsame, rfl⟩
  · simp only [ok_rules, ne_eq, not_not] at h
    obtain ⟨hexpected, rfl⟩ := h
    exact .inr ⟨hexpected, rfl⟩

/-- A transition between open statuses. -/
theorem moved_of_transition (hexpected : expected.isTerminal = false)
    (hnext : next.isTerminal = false ∧ next ≠ .retiring)
    (h : deployment.transition expected next time = .ok deployment') :
    Moved deployment deployment' := by
  rcases transition_ok h with ⟨-, rfl⟩ | ⟨hstatus, rfl⟩
  · exact .refl _
  · exact ⟨⟨rfl, rfl, rfl, rfl⟩, .inr (.inl ⟨by rw [hstatus, hexpected], hnext⟩)⟩

theorem Moved.resolve (h : deployment.resolve time = .ok deployment') :
    Moved deployment deployment' :=
  moved_of_transition rfl ⟨rfl, by decide⟩ h

theorem Moved.schedule (h : deployment.schedule nodeId time = .ok deployment') :
    Moved deployment deployment' ∧ deployment'.nodeId = some nodeId := by
  unfold Deployment.schedule at h
  split_ifs at h with hscheduled hnode
  · simp only [ok_rules] at h
    obtain ⟨_, -, rfl⟩ := h
    exact ⟨.refl _, hnode⟩
  · simp only [ok_rules] at h
    obtain ⟨moved, hmoved, rfl⟩ := h
    have := moved_of_transition rfl ⟨rfl, by decide⟩ hmoved
    exact ⟨⟨⟨this.id, this.organizationId, this.workloadId, this.revisionId⟩, this.status⟩, rfl⟩

theorem Moved.dispatch (h : deployment.dispatch commandId time = .ok deployment') :
    Moved deployment deployment' := by
  unfold Deployment.dispatch at h
  split_ifs at h
  · simp only [ok_rules] at h
    obtain ⟨_, -, rfl⟩ := h
    exact .refl _
  · simp only [ok_rules] at h
    obtain ⟨-, moved, hmoved, rfl⟩ := h
    have := moved_of_transition rfl ⟨rfl, by decide⟩ hmoved
    exact ⟨⟨this.id, this.organizationId, this.workloadId, this.revisionId⟩, this.status⟩

theorem Moved.verify (h : deployment.verify time = .ok deployment') :
    Moved deployment deployment' :=
  moved_of_transition rfl ⟨rfl, by decide⟩ h

/-- An activation leaves a deployment that was activated before, or activates a verified one. -/
theorem activate_ok (h : deployment.activate retirementRequired time = .ok deployment') :
    SameIdentity deployment deployment' ∧
      (deployment'.status = .retiring ∨ deployment'.status = .active) := by
  simp only [Deployment.activate, bind_ok_iff] at h
  obtain ⟨_, -, h⟩ := h
  by_cases hactivated : deployment.status = .retiring ∨ deployment.status = .active
  · rw [if_pos hactivated] at h
    simp only [ok_rules] at h
    obtain ⟨-, rfl⟩ := h
    exact ⟨.refl _, hactivated⟩
  · rw [if_neg hactivated] at h
    simp only [ok_rules] at h
    obtain ⟨moved, hmoved, rfl⟩ := h
    have hstatus : activatedStatus retirementRequired = .retiring ∨
        activatedStatus retirementRequired = .active := by
      cases retirementRequired <;> simp [activatedStatus]
    rcases transition_ok hmoved with ⟨hsame, rfl⟩ | ⟨-, rfl⟩
    · exact ⟨⟨rfl, rfl, rfl, rfl⟩, hsame ▸ hstatus⟩
    · exact ⟨⟨rfl, rfl, rfl, rfl⟩, hstatus⟩

theorem Moved.dispatchRetirement (h : deployment.dispatchRetirement commandId time =
    .ok deployment') : Moved deployment deployment' := by
  simp only [Deployment.dispatchRetirement, ok_rules] at h
  obtain ⟨_, -, -, h⟩ := h
  split_ifs at h <;> cases h <;> exact ⟨⟨rfl, rfl, rfl, rfl⟩, .inl rfl⟩

theorem Moved.completeRetirement (h : deployment.completeRetirement time = .ok deployment') :
    Moved deployment deployment' := by
  unfold Deployment.completeRetirement at h
  split_ifs at h
  · simp only [ok_rules] at h
    obtain ⟨_, -, rfl⟩ := h
    exact .refl _
  · simp only [ok_rules] at h
    rcases transition_ok h.2 with ⟨-, rfl⟩ | ⟨hstatus, rfl⟩
    · exact .refl _
    · exact ⟨⟨rfl, rfl, rfl, rfl⟩, .inr (.inr ⟨hstatus, rfl⟩)⟩

theorem Moved.requestCancellation (h : deployment.requestCancellation time = .ok deployment') :
    Moved deployment deployment' := by
  simp only [Deployment.requestCancellation, bind_ok_iff] at h
  obtain ⟨_, -, h⟩ := h
  split_ifs at h
  · cases h
    exact .refl _
  · simp only [ok_rules, Bool.not_eq_true] at h
    obtain ⟨hterminal, -, -, rfl⟩ := h
    exact ⟨⟨rfl, rfl, rfl, rfl⟩, .inr (.inl ⟨hterminal, rfl, fun h => by cases h⟩)⟩

theorem Moved.beginCleanup (h : deployment.beginCleanup commandId time = .ok deployment') :
    Moved deployment deployment' := by
  simp only [Deployment.beginCleanup, bind_ok_iff] at h
  obtain ⟨_, -, h⟩ := h
  split_ifs at h
  · simp only [ok_rules] at h
    obtain ⟨-, rfl⟩ := h
    exact .refl _
  · simp only [ok_rules, ne_eq, not_not] at h
    obtain ⟨hstatus, -, rfl⟩ := h
    exact ⟨⟨rfl, rfl, rfl, rfl⟩, .inr (.inl ⟨by rw [hstatus]; rfl, rfl, fun h => by cases h⟩)⟩

theorem Moved.retryCleanup (h : deployment.retryCleanup commandId time = .ok deployment') :
    Moved deployment deployment' := by
  simp only [Deployment.retryCleanup, ok_rules] at h
  obtain ⟨_, -, -, h⟩ := h
  split_ifs at h <;> cases h <;> exact ⟨⟨rfl, rfl, rfl, rfl⟩, .inl rfl⟩

theorem ended_of_cancel (h : deployment.cancel time = .ok deployment') :
    Ended deployment deployment' := by
  simp only [Deployment.cancel, bind_ok_iff] at h
  obtain ⟨_, -, h⟩ := h
  split_ifs at h with hcancelled
  · cases h
    exact ⟨.refl _, .inr (.inr hcancelled)⟩
  · simp only [ok_rules] at h
    obtain ⟨middle, hmiddle, rfl⟩ := h
    have hsame : SameIdentity deployment middle := by
      unfold ensureCancelling at hmiddle
      split_ifs at hmiddle
      · cases hmiddle
        exact .refl _
      · exact (Moved.requestCancellation hmiddle).toSameIdentity
    exact ⟨⟨hsame.id, hsame.organizationId, hsame.workloadId, hsame.revisionId⟩,
      .inr (.inr rfl)⟩

theorem ended_of_fail (h : deployment.fail reason time = .ok deployment') :
    Ended deployment deployment' := by
  simp only [Deployment.fail, ok_rules] at h
  obtain ⟨-, -, _, -, h⟩ := h
  split_ifs at h with hfailed
  · simp only [ok_rules] at h
    obtain ⟨-, rfl⟩ := h
    exact ⟨.refl _, by tauto⟩
  · cases h
    refine ⟨⟨rfl, rfl, rfl, rfl⟩, ?_⟩
    simp only [touch, failedStatus]
    split_ifs <;> simp

end Deployment

/-! ### Changes of the store -/

/-- What no operation changes about a Workload. -/
structure Workload.SameIdentity (workload workload' : Workload) : Prop where
  id : workload'.id = workload.id
  organizationId : workload'.organizationId = workload.organizationId
  projectId : workload'.projectId = workload.projectId
  environmentId : workload'.environmentId = workload.environmentId

theorem Workload.SameIdentity.refl (workload : Workload) : workload.SameIdentity workload :=
  ⟨rfl, rfl, rfl, rfl⟩

namespace Workload

variable {workload workload' : Workload}

variable {time : ℤ}

/-- Stopping a Workload keeps its active revision until the stop is complete. -/
theorem requestStop_ok (h : workload.requestStop time = .ok workload') :
    workload.SameIdentity workload' ∧ workload'.desiredState = .stopped ∧
      workload'.activeRevisionId = workload.activeRevisionId := by
  simp only [requestStop, ok_rules] at h
  obtain ⟨-, h⟩ := h
  split_ifs at h with hstopped <;> cases h
  · exact ⟨⟨rfl, rfl, rfl, rfl⟩, hstopped, rfl⟩
  · exact ⟨⟨rfl, rfl, rfl, rfl⟩, rfl, rfl⟩

theorem completeStop_ok (h : workload.completeStop time = .ok workload') :
    workload.SameIdentity workload' ∧ workload'.desiredState = .stopped ∧
      workload'.activeRevisionId = none := by
  simp only [completeStop, ok_rules, ne_eq, not_not] at h
  obtain ⟨hstopped, -, h⟩ := h
  split_ifs at h with hnone <;> cases h
  · exact ⟨⟨rfl, rfl, rfl, rfl⟩, hstopped, hnone⟩
  · exact ⟨⟨rfl, rfl, rfl, rfl⟩, hstopped, rfl⟩

theorem activate_ok {revisionId : Uuid} (h : workload.activate revisionId time = .ok workload') :
    workload.SameIdentity workload' ∧ workload'.desiredState = .running ∧
      workload'.activeRevisionId = some revisionId := by
  simp only [activate, ok_rules, ne_eq, not_not] at h
  obtain ⟨hrunning, -, h⟩ := h
  split_ifs at h with hactive <;> cases h
  · exact ⟨⟨rfl, rfl, rfl, rfl⟩, hrunning, hactive⟩
  · exact ⟨⟨rfl, rfl, rfl, rfl⟩, hrunning, rfl⟩

end Workload

/-- What the operations on one retiring replica do to it. -/
inductive WorkloadReplica.Retires (replica : WorkloadReplica) : WorkloadReplica → Prop
  | kept : Retires replica replica
  | dispatched (commandId : Uuid) (time : ℤ) (hretiring : replica.lifecycle = .retiring) :
      Retires replica { replica with
        retirementCommandId := some commandId
        aggregateVersion := replica.aggregateVersion + 1
        updatedAt := time }
  | fenced (time : ℤ) (hretiring : replica.lifecycle = .retiring) :
      Retires replica { replica with
        runtimeFencedAt := some time
        aggregateVersion := replica.aggregateVersion + 1
        updatedAt := time }

namespace WorkloadStore

variable {X : External} {V : WorkloadServices} {s s' : WorkloadStore}

/-- The deployment is bound to the current generation of a replica that is wanted. -/
structure CurrentlyDesired (s : WorkloadStore) (deployment : Deployment) : Prop where
  exists_bound : ∃ workload control binding replica member,
    s.workloads.get? deployment.workloadId = some workload ∧
    s.controls.get? deployment.workloadId = some control ∧
    s.bindings.get? deployment.id = some binding ∧
    s.replicas.get? binding.replicaId = some replica ∧
    s.members.get? binding.memberId = some member ∧
    binding.workloadId = deployment.workloadId ∧ binding.revisionId = deployment.revisionId ∧
    binding.replicaGeneration = replica.generation ∧ replica.lifecycle = .desired ∧
    replica.ordinal < control.desiredReplicas ∧ replica.revisionId = deployment.revisionId ∧
    member.replicaId = replica.id

variable {deployment : Deployment} {time : ℤ}

theorem requireCurrentDesiredReplica_ok {u : Unit}
    (h : s.requireCurrentDesiredReplica V deployment = .ok u) : CurrentlyDesired s deployment := by
  simp only [requireCurrentDesiredReplica, ok_rules, not_or, ne_eq, not_not, not_le,
    filter_eq_some_iff] at h
  obtain ⟨workload, ⟨hworkload, -⟩, control, hcontrol, -, binding, hbinding, replica, hreplica,
    member, hmember, hchecked⟩ := h
  obtain ⟨-, -, hbworkload, hbrevision, hgeneration, -, hdesired, hordinal, hrevision, hmreplica,
    -⟩ := hchecked
  exact ⟨workload, control, binding, replica, member, hworkload, hcontrol, hbinding, hreplica,
    hmember, hbworkload, hbrevision, hgeneration, hdesired, hordinal, hrevision, hmreplica⟩

variable (X V) in
/-- What a step can do to the tables. -/
inductive StoreChange (s : WorkloadStore) (action : WorkloadAction) : WorkloadStore → Prop
  | unchanged : StoreChange s action s
  | deploymentMoved (deployment deployment' : Deployment)
      (idempotency : IdempotencyTable Deployment)
      (hdeployment : deployment ∈ s.deployments.rows)
      (hmoved : deployment.Moved deployment') :
      StoreChange s action { s with
        deployments := s.deployments.insert deployment'
        cancellationIdempotency := idempotency }
  | deploymentEnded (deployment deployment' : Deployment)
      (hdeployment : deployment ∈ s.deployments.rows)
      (hended : deployment.Ended deployment')
      (haction : (∃ version reason time, action = .fail deployment.id version reason time) ∨
        ∃ version time, action = .cancel deployment.id version time) :
      StoreChange s action { s with deployments := s.deployments.insert deployment' }
  | workloadStopped (workload workload' : Workload)
      (idempotency : IdempotencyTable WorkloadStopBundle)
      (hworkload : workload ∈ s.workloads.rows) (hsame : workload.SameIdentity workload')
      (hstopped : workload'.desiredState = .stopped)
      (hactive : workload'.activeRevisionId = workload.activeRevisionId ∨
        workload'.activeRevisionId = none) :
      StoreChange s action { s with
        workloads := s.workloads.insert workload'
        stopIdempotency := idempotency }
  | revisionResolved (revision : WorkloadRevision) (body : String)
      (hrevision : revision ∈ s.revisions.rows) :
      StoreChange s action { s with
        revisions := s.revisions.insert { revision with body := body } }
  | runtimeBound (bindings : Table DeploymentRuntimeExecutionBinding.key) :
      StoreChange s action { s with runtimeBindings := bindings }
  | created (request : CreateDeploymentBundle) (target : DeploymentTarget)
      (binding : DeploymentReplicaBinding) (response : DeploymentBundle)
      (haction : action = .createDeployment request)
      (hnew : s.workloads.get? request.workload.id = none)
      (hbundle : validateBundle V request = .ok ())
      (hfresh : s.revisions.get? request.revision.id = none ∧
        s.deployments.get? request.deployment.id = none ∧
        s.bindings.get? request.deployment.id = none)
      (hcontrol : WorkloadControl.create request.workload request.control = .ok target.control)
      (hreplicas : ∃ created, Forall₂
        (fun ordinal pair => newReplica X request ordinal = .ok pair)
          (range request.control.placementPolicy.desiredReplicas) created ∧
        target.replicas = created.map Prod.fst ∧ target.members = created.map Prod.snd)
      (hbinding : ∃ replica member, target.replicas.head? = some replica ∧
        target.members.head? = some member ∧ DeploymentReplicaBinding.create X request.deployment
          request.revision replica member = .ok binding) :
      StoreChange s action (s.storeDeployment request target binding response)
  | updated (request : CreateDeploymentBundle) (control control' : WorkloadControl)
      (changed : Bool) (replica replica' : WorkloadReplica) (member : WorkloadReplicaMember)
      (binding : DeploymentReplicaBinding) (response : DeploymentBundle)
      (haction : action = .createDeployment request)
      (hexisting : s.workloads.get? request.workload.id = some request.workload)
      (hbundle : validateBundle V request = .ok ())
      (hfresh : s.revisions.get? request.revision.id = none ∧
        s.deployments.get? request.deployment.id = none ∧
        s.bindings.get? request.deployment.id = none)
      (hterminal : ∀ deployment ∈ s.deployments.rows,
        deployment.workloadId = request.workload.id → deployment.status.isTerminal = true)
      (hcontrol : s.controls.get? request.workload.id = some control)
      (hauthorized : control.authorizeDeployment request.control request.revision.createdAt =
        .ok (control', changed))
      (hreplica : s.replicas.get? request.workload.id = some replica)
      (hadvanced : replica.advance request.revision request.revision.createdAt = .ok replica')
      (hmember : s.members.get? replica'.id = some member)
      (hbinding : DeploymentReplicaBinding.create X request.deployment request.revision replica'
        member = .ok binding) :
      StoreChange s action
        (s.storeDeployment request ⟨control', [replica'], [member]⟩ binding response)
  | reconfigured (workload : Workload) (control : WorkloadControl) (revision : WorkloadRevision)
      (write : ReconfigureReplicaSetWrite) (plan : ReplicaSetReconfiguration)
      (idempotency : IdempotencyTable ReplicaSetWriteResult)
      (hworkload : s.workloads.get? workload.id = some workload)
      (hcontrol : s.controls.get? workload.id = some control)
      (hrevision : revision ∈ s.revisions.rows)
      (hplanned : ReplicaSet.Planned X workload control revision
        (s.replicasOf workload.organizationId workload.id) write.desiredReplicas write.requestedAt
        plan)
      (hmembers : ∀ member ∈ plan.membersToCreate, s.members.get? member.id = none) :
      StoreChange s action { s with
        members := s.members.insertAll plan.membersToCreate
        replicas := s.replicas.insertAll plan.replicas
        controls := s.controls.insert plan.control
        replicaSetIdempotency := idempotency }
  | assigned (deployment deployment' : Deployment) (binding binding' : DeploymentReplicaBinding)
      (member member' : WorkloadReplicaMember) (nodeId : Uuid) (time : ℤ)
      (hdeployment : s.deployments.get? deployment.id = some deployment)
      (hdesired : CurrentlyDesired s deployment)
      (hmoved : deployment.Moved deployment')
      (hbinding : s.bindings.get? deployment.id = some binding)
      (hmember : s.members.get? binding.memberId = some member)
      (hplaced : member.place nodeId time = .ok member')
      (hassigned : binding.assign deployment' member' = .ok binding') :
      StoreChange s action { s with
        members := s.members.insert member'
        bindings := s.bindings.insert binding'
        memberBindings := s.memberBindings.insert binding'
        deployments := s.deployments.insert deployment' }
  | activated (deployment deployment' : Deployment) (workload workload' : Workload)
      (hdeployment : deployment ∈ s.deployments.rows)
      (hdesired : CurrentlyDesired s deployment)
      (hworkload : s.workloads.get? deployment.workloadId = some workload)
      (hsame : deployment.SameIdentity deployment')
      (hstatus : deployment'.status = .retiring ∨ deployment'.status = .active)
      (hidentity : workload.SameIdentity workload')
      (hactive : workload'.activeRevisionId = some deployment.revisionId) :
      StoreChange s action { s with
        deployments := s.deployments.insert deployment'
        workloads := s.workloads.insert workload' }
  | materialized (workload : Workload) (control : WorkloadControl) (revision : WorkloadRevision)
      (replica : WorkloadReplica) (member : WorkloadReplicaMember) (deployment : Deployment)
      (binding : DeploymentReplicaBinding)
      (hworkload : s.workloads.get? replica.workloadId = some workload)
      (hcontrol : s.controls.get? replica.workloadId = some control)
      (hrevision : s.revisions.get? replica.revisionId = some revision)
      (hreplica : s.replicas.get? replica.id = some replica)
      (hmember : s.members.get? replica.id = some member)
      (hwanted : replicaWanted workload control replica = true)
      (hunbound : s.generationBinding replica = none)
      (hcreated : deployment.workloadId = replica.workloadId ∧
        deployment.revisionId = replica.revisionId ∧ deployment.status = .queued)
      (hbinding : DeploymentReplicaBinding.create X deployment revision replica member =
        .ok binding)
      (hfresh : s.deployments.get? deployment.id = none ∧ s.bindings.get? deployment.id = none) :
      StoreChange s action { s with
        deployments := s.deployments.insert deployment
        bindings := s.bindings.insert binding
        memberBindings := s.memberBindings.insert binding }
  | evacuationRequested (control : WorkloadControl) (replica : WorkloadReplica) (nodeId : Uuid)
      (time : ℤ) (hcontrol : s.controls.get? replica.workloadId = some control)
      (hreplica : s.replicas.get? replica.id = some replica)
      (hdesired : replica.lifecycle = .desired)
      (hordinal : replica.ordinal < control.desiredReplicas) :
      StoreChange s action { s with replicas := s.replicas.insert { replica with
        lifecycle := .retiring
        evacuationNodeId := some nodeId
        retirementCommandId := none
        runtimeFencedAt := none
        aggregateVersion := replica.aggregateVersion + 1
        updatedAt := time } }
  | replicaRetires (replica replica' : WorkloadReplica)
      (hreplica : s.replicas.get? replica.id = some replica) (hretires : replica.Retires replica') :
      StoreChange s action { s with replicas := s.replicas.insert replica' }
  | replicaFinished (control : WorkloadControl) (replica replica' : WorkloadReplica)
      (member member' : WorkloadReplicaMember) (fencedNodeId : Option Uuid) (time : ℤ)
      (hcontrol : s.controls.get? replica.workloadId = some control)
      (hreplica : s.replicas.get? replica.id = some replica)
      (hmember : s.members.get? member.id = some member)
      (hmemberReplica : member.replicaId = replica.id)
      (hretiring : replica.lifecycle = .retiring)
      (hremains : replica.evacuationNodeId.isSome =
        decide (replica.ordinal < control.desiredReplicas))
      (hfenced : fencedNodeId.isSome = true → replica.runtimeFencedAt ≠ none)
      (hreleased : releaseFenced member fencedNodeId time = .ok member')
      (hfinished : (replica.evacuationNodeId.isSome = true ∧
          replica' = replica.renewed (replica.generation + 1) (replica.aggregateVersion + 1)
            (canonicalTimestamp time)) ∨
        (replica.evacuationNodeId = none ∧ replica' = { replica with
          lifecycle := .retired
          aggregateVersion := replica.aggregateVersion + 1
          updatedAt := canonicalTimestamp time })) :
      StoreChange s action { s with
        members := s.members.insert member'
        replicas := s.replicas.insert replica' }

/-! ### What the operations do -/

variable {action : WorkloadAction}

variable {deploymentId organizationId workloadId : Uuid} {workload : Workload} {expectedVersion : ℕ}
  {transition : Deployment → Except String Deployment} {result : Deployment}
  {request : CreateDeploymentBundle} {target : DeploymentTarget} {response : DeploymentBundle}
  {write : ReconfigureReplicaSetWrite} {candidate : ReplicaDeploymentCandidate}
  {replica replica' : WorkloadReplica} {member : WorkloadReplicaMember}
  {fence : ReplicaRuntimeFence} {writerFence : WriterFenceOutcome}
  {completion : ReplicaRetirementCompletion}

theorem get?_deployment (h : s.deployments.get? deploymentId = some deployment) :
    deployment ∈ s.deployments.rows ∧ deployment.id = deploymentId :=
  Table.get?_eq_some_iff.1 h

theorem stateWorkload_ok (h : s.stateWorkload organizationId workloadId = .ok workload) :
    s.workloads.get? workload.id = some workload ∧ workload.id = workloadId ∧
      workload.organizationId = organizationId := by
  simp only [stateWorkload, orElse_ok_iff, filter_eq_some_iff, decide_eq_true_eq] at h
  obtain ⟨hget, horganization⟩ := h
  have hid : workload.id = workloadId := (Table.get?_eq_some_iff.1 hget).2
  exact ⟨hid ▸ hget, hid, horganization⟩

theorem expectDeployment_ok (h : s.expectDeployment deploymentId expectedVersion = .ok deployment) :
    s.deployments.get? deploymentId = some deployment := by
  simp only [expectDeployment, ok_rules] at h
  obtain ⟨_, hget, -, rfl⟩ := h
  exact hget

theorem mutate_ok (h : s.mutate deploymentId expectedVersion transition = .ok (result, s')) :
    ∃ deployment deployment', s.deployments.get? deploymentId = some deployment ∧
      transition deployment = .ok deployment' ∧
      s' = { s with deployments := s.deployments.insert deployment' } := by
  simp only [mutate, ok_rules, Prod.mk.injEq] at h
  obtain ⟨deployment, hget, deployment', htransition, -, rfl⟩ := h
  exact ⟨deployment, deployment', expectDeployment_ok hget, htransition, rfl⟩

theorem mutateDesired_ok
    (h : s.mutateDesired V deploymentId expectedVersion transition = .ok (result, s')) :
    ∃ deployment deployment', s.deployments.get? deploymentId = some deployment ∧
      transition deployment = .ok deployment' ∧
      s' = { s with deployments := s.deployments.insert deployment' } := by
  simp only [mutateDesired, ok_rules, Prod.mk.injEq] at h
  obtain ⟨deployment, hget, -, deployment', htransition, -, rfl⟩ := h
  exact ⟨deployment, deployment', expectDeployment_ok hget, htransition, rfl⟩

/-- A transition that moves the deployment, whichever way it is applied. -/
theorem StoreChange.of_moved
    (hmoved : ∀ deployment deployment', transition deployment = .ok deployment' →
      deployment.Moved deployment')
    (h : ∃ deployment deployment', s.deployments.get? deploymentId = some deployment ∧
      transition deployment = .ok deployment' ∧
      s' = { s with deployments := s.deployments.insert deployment' }) :
    StoreChange X V s action s' := by
  obtain ⟨deployment, deployment', hget, htransition, rfl⟩ := h
  exact .deploymentMoved deployment deployment' s.cancellationIdempotency (get?_deployment hget).1
    (hmoved _ _ htransition)

theorem newTarget_ok (h : s.newTarget X request = .ok target) :
    WorkloadControl.create request.workload request.control = .ok target.control ∧
      ∃ created, Forall₂ (fun ordinal pair => newReplica X request ordinal = .ok pair)
          (range request.control.placementPolicy.desiredReplicas) created ∧
        target.replicas = created.map Prod.fst ∧ target.members = created.map Prod.snd := by
  simp only [newTarget, ok_rules, mapAll_ok_iff] at h
  obtain ⟨-, control, hcontrol, created, hcreated, rfl⟩ := h
  exact ⟨hcontrol, created, hcreated, rfl, rfl⟩

theorem deterministicId_zero {id : Uuid}
    (h : deterministicId X workloadId 0 = .ok id) : id = workloadId := by
  simp only [deterministicId, canonicalReplicaOrdinal, ok_rules, if_true] at h
  exact h.2.symm

theorem existingTarget_ok {existing : Workload}
    (h : s.existingTarget X request existing = .ok target) :
    existing = request.workload ∧
      (∀ deployment ∈ s.deployments.rows, deployment.workloadId = request.workload.id →
        deployment.status.isTerminal = true) ∧
      ∃ control control' changed replica replica' member,
        s.controls.get? request.workload.id = some control ∧
        control.authorizeDeployment request.control request.revision.createdAt =
          .ok (control', changed) ∧
        s.replicas.get? request.workload.id = some replica ∧
        replica.advance request.revision request.revision.createdAt = .ok replica' ∧
        s.members.get? replica'.id = some member ∧ target = ⟨control', [replica'], [member]⟩ := by
  simp only [existingTarget, ok_rules, ne_eq, not_not] at h
  obtain ⟨rfl, hterminal, control, hcontrol, ⟨control', changed⟩, hauthorized, replicaId,
    hreplicaId, replica, hreplica, replica', hadvanced, member, hmember, rfl⟩ := h
  cases deterministicId_zero hreplicaId
  refine ⟨rfl, fun deployment hmem hworkload => ?_, control, control', changed, replica, replica',
    member, hcontrol, hauthorized, hreplica, hadvanced, hmember, rfl⟩
  by_contra hopen
  exact hterminal (List.any_eq_true.2 ⟨deployment, hmem, decide_eq_true ⟨hworkload, hopen⟩⟩)

theorem createNewDeployment_change (h : s.createNewDeployment X V request = .ok (response, s')) :
    StoreChange X V s (.createDeployment request) s' := by
  simp only [createNewDeployment, ok_rules, Prod.mk.injEq, not_or, Bool.not_eq_true,
    isSome_eq_false_iff, isNone_iff_eq_none] at h
  obtain ⟨hbundle, -, -, target, htarget, generation, -, -, hfresh, replica, hreplica, member,
    hmember, binding, hbinding, -, rfl⟩ := h
  unfold deploymentTarget at htarget
  cases hworkload : s.workloads.get? request.workload.id with
  | none =>
    simp only [hworkload] at htarget
    obtain ⟨hcontrol, hreplicas⟩ := newTarget_ok htarget
    exact .created request target binding _ rfl hworkload hbundle hfresh hcontrol hreplicas
      ⟨replica, member, hreplica, hmember, hbinding⟩
  | some =>
    simp only [hworkload] at htarget
    obtain ⟨rfl, hterminal, control, control', changed, canonical, advanced, canonicalMember,
      hcontrol, hauthorized, hcanonical, hadvanced, hcanonicalMember, rfl⟩ :=
      existingTarget_ok htarget
    cases hreplica
    cases hmember
    exact .updated request control control' changed canonical _ _ binding _ rfl hworkload hbundle
      hfresh hterminal hcontrol hauthorized hcanonical hadvanced hcanonicalMember hbinding

theorem createDeployment_change (h : s.createDeployment X V request = .ok (response, s')) :
    StoreChange X V s (.createDeployment request) s' := by
  simp only [createDeployment, bind_ok_iff] at h
  obtain ⟨replayed, -, h⟩ := h
  cases replayed with
  | some =>
    cases h
    exact .unchanged
  | none => exact createNewDeployment_change h

theorem cancelStoredDeployment_change {request : RequestDeploymentCancellationBundle}
    {result : IdempotentWrite Deployment}
    (h : s.cancelStoredDeployment request = .ok (result, s')) : StoreChange X V s action s' := by
  simp only [cancelStoredDeployment, validateCancellationBundle, ok_rules, Prod.mk.injEq, not_or,
    ne_eq, not_not] at h
  obtain ⟨current, hcurrent, control, -, -, ⟨time, -, expected, hexpected, -, rfl, -⟩, -, rfl⟩ := h
  exact .deploymentMoved current request.deployment _ (get?_deployment hcurrent).1
    (.requestCancellation hexpected)

theorem requestDeploymentCancellation_change {request : RequestDeploymentCancellationBundle}
    {result : IdempotentWrite Deployment}
    (h : s.requestDeploymentCancellation request = .ok (result, s')) :
    StoreChange X V s action s' := by
  simp only [requestDeploymentCancellation, bind_ok_iff] at h
  obtain ⟨replayed, -, h⟩ := h
  cases replayed with
  | some =>
    cases h
    exact .unchanged
  | none => exact cancelStoredDeployment_change h

theorem stopStoredWorkload_change {request : RequestWorkloadStopBundle}
    {result : WorkloadStopBundle} (h : s.stopStoredWorkload V request = .ok (result, s')) :
    StoreChange X V s action s' := by
  simp only [stopStoredWorkload, ok_rules, Prod.mk.injEq, not_or, ne_eq, not_not] at h
  obtain ⟨current, hcurrent, control, -, -, -, expected, hexpected, ⟨rfl, -⟩, -, -, rfl⟩ := h
  obtain ⟨hsame, hstopped, hactive⟩ := Workload.requestStop_ok hexpected
  exact .workloadStopped current request.workload _
    (Table.get?_eq_some_iff.1 (stateWorkload_ok hcurrent).1).1 hsame hstopped (.inl hactive)

theorem requestWorkloadStop_change {request : RequestWorkloadStopBundle}
    {result : WorkloadStopBundle} (h : s.requestWorkloadStop V request = .ok (result, s')) :
    StoreChange X V s action s' := by
  simp only [requestWorkloadStop, bind_ok_iff] at h
  obtain ⟨replayed, -, h⟩ := h
  cases replayed with
  | some =>
    cases h
    exact .unchanged
  | none => exact stopStoredWorkload_change h

theorem completeWorkloadStop_change {result : Workload}
    (h : s.completeWorkloadStop organizationId workloadId expectedVersion time =
      .ok (result, s')) : StoreChange X V s action s' := by
  simp only [completeWorkloadStop, bind_ok_iff] at h
  obtain ⟨current, hcurrent, h⟩ := h
  split_ifs at h
  · cases h
    exact .unchanged
  · simp only [ok_rules, Prod.mk.injEq] at h
    obtain ⟨workload, hworkload, -, rfl⟩ := h
    obtain ⟨hsame, hstopped, hactive⟩ := Workload.completeStop_ok hworkload
    exact .workloadStopped current workload s.stopIdempotency
      (Table.get?_eq_some_iff.1 (stateWorkload_ok hcurrent).1).1 hsame hstopped (.inr hactive)

theorem reconfigureStoredReplicaSet_change {result : ReplicaSetWriteResult}
    (h : s.reconfigureStoredReplicaSet X V write = .ok (result, s')) :
    StoreChange X V s action s' := by
  simp only [reconfigureStoredReplicaSet, ok_rules, Prod.mk.injEq, filter_eq_some_iff] at h
  obtain ⟨workload, hworkload, control, ⟨hcontrol, -⟩, canonical, -, revision, hrevision, plan,
    hplan, hmembers, -, -, rfl⟩ := h
  obtain ⟨hstored, hid, horganization⟩ := stateWorkload_ok hworkload
  rw [← hid, ← horganization] at hplan
  refine .reconfigured workload control revision write plan _ hstored (hid ▸ hcontrol)
    (Table.get?_eq_some_iff.1 hrevision).1 (ReplicaSet.planReplicaSetReconfiguration_ok hplan).of_sorted
    fun member hmember => ?_
  by_contra hstored
  exact hmembers (List.any_eq_true.2 ⟨member, hmember, isSome_iff_ne_none.2 hstored⟩)

theorem reconfigureReplicaSet_change {result : ReplicaSetWriteResult}
    (h : s.reconfigureReplicaSet X V write = .ok (result, s')) : StoreChange X V s action s' := by
  simp only [reconfigureReplicaSet, bind_ok_iff] at h
  obtain ⟨replayed, -, h⟩ := h
  cases replayed with
  | some =>
    cases h
    exact .unchanged
  | none => exact reconfigureStoredReplicaSet_change h

theorem bindDeploymentRuntimeExecution_change {binding : DeploymentRuntimeExecutionBinding}
    {result : IdempotentWrite DeploymentRuntimeExecutionBinding}
    (h : s.bindDeploymentRuntimeExecution V binding = .ok (result, s')) :
    StoreChange X V s action s' := by
  simp only [bindDeploymentRuntimeExecution, ok_rules] at h
  obtain ⟨-, h⟩ := h
  split at h
  · split_ifs at h
    cases h
    exact .unchanged
  · simp only [ok_rules, Prod.mk.injEq] at h
    obtain ⟨_, -, _, -, _, -, _, -, -, -, rfl⟩ := h
    exact .runtimeBound _

theorem resolveRevision_change {revisionId : Uuid} {artifact : String} {result : WorkloadRevision}
    (h : s.resolveRevision V organizationId revisionId artifact time = .ok (result, s')) :
    StoreChange X V s action s' := by
  simp only [resolveRevision, ok_rules, Prod.mk.injEq] at h
  obtain ⟨revision, hrevision, _, -, body, -, -, rfl⟩ := h
  exact .revisionResolved revision body (Table.get?_eq_some_iff.1 hrevision).1

theorem assignNode_change {nodeId : Uuid}
    (h : s.assignNode V deploymentId expectedVersion nodeId time = .ok (result, s')) :
    StoreChange X V s action s' := by
  simp only [assignNode, ok_rules, Prod.mk.injEq] at h
  obtain ⟨deployment, hget, hdesired, deployment', hscheduled, binding, hbinding, member, hmember,
    member', hplaced, binding', hassigned, -, rfl⟩ := h
  have hstored := expectDeployment_ok hget
  have hid := (get?_deployment hstored).2
  exact .assigned deployment deployment' binding binding' member member' nodeId time
    (hid ▸ hstored) (requireCurrentDesiredReplica_ok hdesired) (Moved.schedule hscheduled).1
    (hid ▸ hbinding) hmember hplaced hassigned

theorem activate_change {retirementRequired : Bool} {result : Workload × Deployment}
    (h : s.activate V deploymentId expectedVersion retirementRequired time = .ok (result, s')) :
    StoreChange X V s action s' := by
  simp only [activate, ok_rules] at h
  obtain ⟨deployment, hget, h⟩ := h
  split_ifs at h
  · simp only [ok_rules, Prod.mk.injEq] at h
    obtain ⟨_, -, -, rfl⟩ := h
    exact .unchanged
  · simp only [activateStored, ok_rules, Prod.mk.injEq] at h
    obtain ⟨hdesired, workload, hworkload, deployment', hactivated, workload', hactive, _, -, -, -,
      rfl⟩ := h
    obtain ⟨hsame, hstatus⟩ := activate_ok hactivated
    obtain ⟨hidentity, -, hrevision⟩ := Workload.activate_ok hactive
    exact .activated deployment deployment' workload workload' (get?_deployment hget).1
      (requireCurrentDesiredReplica_ok hdesired) hworkload hsame hstatus hidentity hrevision

theorem fail_change {reason : String}
    (h : s.fail V deploymentId expectedVersion reason time = .ok (result, s')) :
    StoreChange X V s (.fail deploymentId expectedVersion reason time) s' := by
  simp only [fail, ok_rules] at h
  obtain ⟨deployment, hget, h⟩ := h
  obtain ⟨hdeployment, rfl⟩ := get?_deployment hget
  split_ifs at h
  · cases h
    exact .unchanged
  · simp only [failStored, ok_rules, Prod.mk.injEq] at h
    obtain ⟨-, deployment', hfailed, _, -, _, -, -, -, rfl⟩ := h
    exact .deploymentEnded deployment deployment' hdeployment (ended_of_fail hfailed)
      (.inl ⟨_, _, _, rfl⟩)

theorem cancel_change (h : s.cancel deploymentId expectedVersion time = .ok (result, s')) :
    StoreChange X V s (.cancel deploymentId expectedVersion time) s' := by
  obtain ⟨deployment, deployment', hget, hcancelled, rfl⟩ := mutate_ok h
  obtain ⟨hdeployment, rfl⟩ := get?_deployment hget
  exact .deploymentEnded deployment deployment' hdeployment (ended_of_cancel hcancelled)
    (.inr ⟨_, _, rfl⟩)

theorem buildReplicaDeploymentWrite_ok {revision : WorkloadRevision}
    {binding : DeploymentReplicaBinding}
    (h : buildReplicaDeploymentWrite X V candidate workload revision replica member time =
      .ok (deployment, binding)) :
    deployment.workloadId = replica.workloadId ∧ deployment.revisionId = replica.revisionId ∧
      deployment.status = .queued ∧ DeploymentReplicaBinding.create X deployment revision replica
        member = .ok binding := by
  simp only [buildReplicaDeploymentWrite, validateMaterializationContext, ok_rules, Prod.mk.injEq,
    not_or, ne_eq, not_not] at h
  obtain ⟨⟨-, -, -, -, -, -, -, -, -, -, -, -, -, -, hworkload, hrevision, -⟩, _, hbinding, -, rfl,
    rfl⟩ := h
  exact ⟨hworkload.symm, hrevision.symm, rfl, hbinding⟩

theorem materializeReplicaDeployment_change {result : Option ReplicaDeploymentMaterialization}
    (h : s.materializeReplicaDeployment X V candidate time = .ok (result, s')) :
    StoreChange X V s action s' := by
  simp only [materializeReplicaDeployment, ok_rules] at h
  obtain ⟨workload, hworkload, control, hcontrol, -, replica, hreplica, h⟩ := h
  by_cases hstale : candidateStale candidate workload control replica = true
  · rw [if_pos hstale] at h
    cases h
    exact .unchanged
  rw [if_neg hstale] at h
  simp only [ok_rules] at h
  obtain ⟨revision, hrevision, h⟩ := h
  split_ifs at h
  · cases h
    exact .unchanged
  simp only [candidateStale, decide_eq_true_eq, not_or, ne_eq, not_not] at hstale
  obtain ⟨hcworkload, -, hcrevision, -, -, hwanted⟩ := hstale
  obtain ⟨hstored, hid, -⟩ := stateWorkload_ok hworkload
  have hreplicaId := (Table.get?_eq_some_iff.1 hreplica).2
  cases hbinding : s.generationBinding replica with
  | some =>
    simp only [hbinding, materializeExisting, ok_rules, Prod.mk.injEq] at h
    obtain ⟨_, -, -, _, -, -, rfl⟩ := h
    exact .unchanged
  | none =>
    simp only [hbinding, materializeNew, ok_rules, Prod.mk.injEq, not_or, Bool.not_eq_true,
      isSome_eq_false_iff, isNone_iff_eq_none] at h
    obtain ⟨member, hmember, ⟨deployment, binding⟩, hwrite, hfresh, -, rfl⟩ := h
    obtain ⟨hdworkload, hdrevision, hstatus, hcreate⟩ := buildReplicaDeploymentWrite_ok hwrite
    exact .materialized workload control revision replica member deployment binding
      (by rw [hcworkload, ← hid]; exact hstored) (hcworkload ▸ hcontrol) (hcrevision ▸ hrevision)
      (by rw [show replica.id = candidate.replicaId from hreplicaId]; exact hreplica) hmember
      hwanted hbinding ⟨hdworkload, hdrevision, hstatus⟩ hcreate hfresh

theorem findReplica_ok {replicaId : Uuid}
    (h : s.findReplica organizationId workloadId replicaId = .ok replica) :
    s.replicas.get? replica.id = some replica ∧ replica.id = replicaId ∧
      replica.workloadId = workloadId := by
  simp only [findReplica, orElse_ok_iff, filter_eq_some_iff, decide_eq_true_eq] at h
  obtain ⟨hget, -, hworkload⟩ := h
  have hid : replica.id = replicaId := (Table.get?_eq_some_iff.1 hget).2
  exact ⟨hid ▸ hget, hid, hworkload⟩

theorem requestReplicaEvacuation_change {request : ReplicaEvacuationRequest}
    {result : IdempotentWrite WorkloadReplica}
    (h : s.requestReplicaEvacuation V request = .ok (result, s')) :
    StoreChange X V s action s' := by
  simp only [requestReplicaEvacuation, ok_rules] at h
  obtain ⟨workload, -, control, hcontrol, replica, hreplica, member, -, h⟩ := h
  obtain ⟨hstored, -, hworkload⟩ := findReplica_ok hreplica
  split_ifs at h
  · cases h
    exact .unchanged
  · simp only [ok_rules, Prod.mk.injEq, not_or, ne_eq, not_not, not_le] at h
    obtain ⟨⟨-, -, -, hdesired, hordinal, -⟩, next, hnext, -, -, rfl⟩ := h
    rcases requestEvacuation_ok hnext with rfl | ⟨-, rfl⟩
    · exact .replicaRetires _ _ hstored .kept
    · exact .evacuationRequested control replica _ _ (hworkload ▸ hcontrol) hstored hdesired
        hordinal

theorem dispatchReplicaRetirement_change {dispatch : ReplicaRetirementDispatch}
    {result : WorkloadReplica} (h : s.dispatchReplicaRetirement dispatch = .ok (result, s')) :
    StoreChange X V s action s' := by
  simp only [dispatchReplicaRetirement, ok_rules] at h
  obtain ⟨replica, hreplica, -, h⟩ := h
  split_ifs at h
  · cases h
    exact .unchanged
  · simp only [ok_rules, Prod.mk.injEq] at h
    obtain ⟨-, next, hnext, -, rfl⟩ := h
    refine .replicaRetires replica _ (findReplica_ok hreplica).1 ?_
    obtain ⟨hretiring, rfl | rfl⟩ := dispatchRetirement_ok hnext
    · exact .kept
    · exact .dispatched _ _ hretiring

theorem fencedReplica_ok (h : s.fencedReplica fence writerFence = .ok replica') :
    ∃ replica, s.replicas.get? replica.id = some replica ∧ replica.Retires replica' := by
  simp only [fencedReplica, ok_rules] at h
  obtain ⟨replica, hreplica, -, -, h⟩ := h
  refine ⟨replica, (findReplica_ok hreplica).1, ?_⟩
  unfold fenceReplica at h
  split_ifs at h
  · cases h
    exact .kept
  · simp only [ok_rules] at h
    obtain ⟨hretiring, rfl | rfl⟩ := recordRuntimeFenced_ok h.2
    · exact .kept
    · exact .fenced _ hretiring

theorem recordReplicaRuntimeFenced_change :
    StoreChange X V s action (s.recordReplicaRuntimeFenced fence writerFence).2 := by
  unfold recordReplicaRuntimeFenced
  split
  · exact .unchanged
  · rename_i replica' hfenced
    obtain ⟨replica, hreplica, hretires⟩ := fencedReplica_ok hfenced
    exact .replicaRetires replica replica' hreplica hretires

theorem finishReplica_ok {previousMember : WorkloadReplicaMember}
    (h : finishReplica V replica previousMember member completion = .ok replica') :
    (replica.evacuationNodeId.isSome = true ∧
        replica' = replica.renewed (replica.generation + 1) (replica.aggregateVersion + 1)
          (canonicalTimestamp completion.completedAt)) ∨
      (replica.evacuationNodeId = none ∧ replica' = { replica with
        lifecycle := .retired
        aggregateVersion := replica.aggregateVersion + 1
        updatedAt := canonicalTimestamp completion.completedAt }) := by
  unfold finishReplica at h
  split_ifs at h with hevacuation
  · simp only [ok_rules] at h
    obtain ⟨_, hnext, -, rfl⟩ := h
    exact .inl ⟨hevacuation, (completeEvacuation_ok hnext).2.2.2⟩
  · simp only [ok_rules] at h
    obtain ⟨_, hnext, -, rfl⟩ := h
    exact .inr (completeRetirement_ok hnext).2

theorem completeReplicaRetirement_change {result : IdempotentWrite WorkloadReplica}
    (h : s.completeReplicaRetirement V completion = .ok (result, s')) :
    StoreChange X V s action s' := by
  simp only [completeReplicaRetirement, ok_rules, filter_eq_some_iff, decide_eq_true_eq] at h
  obtain ⟨replica, hreplica, member, ⟨hmember, hmemberReplica⟩, h⟩ := h
  obtain ⟨hstored, hid, -⟩ := findReplica_ok hreplica
  have hmemberId : member.id = completion.memberId := (Table.get?_eq_some_iff.1 hmember).2
  split_ifs at h
  · cases h
    exact .unchanged
  · simp only [ok_rules, Prod.mk.injEq] at h
    obtain ⟨-, -, rfl⟩ := h
    exact .unchanged
  · simp only [finishRetirement, ok_rules, Prod.mk.injEq, not_or, ne_eq, not_not, not_and] at h
    obtain ⟨-, -, -, control, hcontrol, ⟨hretiring, hremains, -, -⟩, dispatched, -, hfenced,
      member', hreleased, next, hnext, -, rfl⟩ := h
    exact .replicaFinished control replica next member member' completion.fencedNodeId _ hcontrol
      hstored (hmemberId ▸ hmember) (hmemberReplica.trans hid.symm) hretiring hremains
      (fun hsome => hfenced (.inr hsome)) hreleased (finishReplica_ok hnext)

open Runs in
theorem step_change (s : WorkloadStore) (action : WorkloadAction) :
    StoreChange X V s action (s.step X V action) := by
  cases action with
  | createDeployment =>
    exact afterResult_of .unchanged fun _ _ => createDeployment_change
  | requestDeploymentCancellation =>
    exact afterResult_of .unchanged fun _ _ => requestDeploymentCancellation_change
  | requestWorkloadStop =>
    exact afterResult_of .unchanged fun _ _ => requestWorkloadStop_change
  | completeWorkloadStop =>
    exact afterResult_of .unchanged fun _ _ => completeWorkloadStop_change
  | reconfigureReplicaSet =>
    exact afterResult_of .unchanged fun _ _ => reconfigureReplicaSet_change
  | bindDeploymentRuntimeExecution =>
    exact afterResult_of .unchanged fun _ _ => bindDeploymentRuntimeExecution_change
  | resolveRevision =>
    exact afterResult_of .unchanged fun _ _ => resolveRevision_change
  | markResolving =>
    exact afterResult_of .unchanged fun _ _ h =>
      .of_moved (fun _ _ => .resolve) (mutateDesired_ok h)
  | assignNode =>
    exact afterResult_of .unchanged fun _ _ => assignNode_change
  | markDispatched =>
    exact afterResult_of .unchanged fun _ _ h =>
      .of_moved (fun _ _ => .dispatch) (mutateDesired_ok h)
  | markVerifying =>
    exact afterResult_of .unchanged fun _ _ h =>
      .of_moved (fun _ _ => .verify) (mutateDesired_ok h)
  | activate =>
    exact afterResult_of .unchanged fun _ _ => activate_change
  | dispatchRetirement =>
    exact afterResult_of .unchanged fun _ _ h =>
      .of_moved (fun _ _ => .dispatchRetirement) (mutate_ok h)
  | completeRetirement =>
    exact afterResult_of .unchanged fun _ _ h =>
      .of_moved (fun _ _ => .completeRetirement) (mutate_ok h)
  | fail =>
    exact afterResult_of .unchanged fun _ _ => fail_change
  | markCancellationRequested =>
    exact afterResult_of .unchanged fun _ _ h =>
      .of_moved (fun _ _ => .requestCancellation) (mutate_ok h)
  | beginCleanup =>
    exact afterResult_of .unchanged fun _ _ h =>
      .of_moved (fun _ _ => .beginCleanup) (mutate_ok h)
  | retryCleanup =>
    exact afterResult_of .unchanged fun _ _ h =>
      .of_moved (fun _ _ => .retryCleanup) (mutate_ok h)
  | cancel =>
    exact afterResult_of .unchanged fun _ _ => cancel_change
  | materializeReplicaDeployment =>
    exact afterResult_of .unchanged fun _ _ => materializeReplicaDeployment_change
  | requestReplicaEvacuation =>
    exact afterResult_of .unchanged fun _ _ => requestReplicaEvacuation_change
  | dispatchReplicaRetirement =>
    exact afterResult_of .unchanged fun _ _ => dispatchReplicaRetirement_change
  | recordReplicaRuntimeFenced => exact recordReplicaRuntimeFenced_change
  | completeReplicaRetirement =>
    exact afterResult_of .unchanged fun _ _ => completeReplicaRetirement_change

end WorkloadStore

end A3SCloud
