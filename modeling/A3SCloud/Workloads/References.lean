import A3SCloud.Workloads.ReplicaSets

/-!
# References between the tables of the Workload repository

A deployment names its Workload, its revision and its binding, and a binding names its deployment,
its replica and its member. In every state of the repository what they name is stored
(`WorkloadStore.References`), and the binding of the current generation of a replica has the revision
of the replica.

* `WorkloadStore.Rewritten` relates the tables before and after a step, `step_rewritten` derives it
  from `StoreChange`.
-/

namespace A3SCloud

open Checks Deployment DeploymentReplicaBinding EffectivePlacementPolicy Table

/-! ### What does not change -/

/-- What no transition of a binding changes. -/
structure DeploymentReplicaBinding.SameBinding (binding binding' : DeploymentReplicaBinding) :
    Prop where
  workloadId : binding'.workloadId = binding.workloadId
  revisionId : binding'.revisionId = binding.revisionId
  replicaId : binding'.replicaId = binding.replicaId
  replicaGeneration : binding'.replicaGeneration = binding.replicaGeneration
  memberId : binding'.memberId = binding.memberId

theorem DeploymentReplicaBinding.SameBinding.refl (binding : DeploymentReplicaBinding) :
    binding.SameBinding binding :=
  ⟨rfl, rfl, rfl, rfl, rfl⟩

/-- A new binding names what it was made from. -/
structure DeploymentReplicaBinding.Binds (binding : DeploymentReplicaBinding)
    (deployment : Deployment) (replica : WorkloadReplica) (member : WorkloadReplicaMember) :
    Prop where
  deploymentId : binding.deploymentId = deployment.id
  workloadId : binding.workloadId = deployment.workloadId
  revisionId : binding.revisionId = deployment.revisionId
  replicaId : binding.replicaId = replica.id
  replicaGeneration : binding.replicaGeneration = replica.generation
  memberId : binding.memberId = member.id
  replicaWorkload : replica.workloadId = binding.workloadId
  replicaRevision : replica.revisionId = binding.revisionId
  memberReplica : member.replicaId = binding.replicaId
  placementGeneration : binding.placementGeneration = member.placementGeneration
  nodeId : binding.nodeId = deployment.nodeId

theorem DeploymentReplicaBinding.binds_of_create {X : External} {deployment : Deployment}
    {revision : WorkloadRevision} {replica : WorkloadReplica} {member : WorkloadReplicaMember}
    {binding : DeploymentReplicaBinding}
    (h : DeploymentReplicaBinding.create X deployment revision replica member = .ok binding) :
    binding.Binds deployment replica member := by
  obtain ⟨⟨unitId, -, rfl⟩, hvalid⟩ := create_ok h
  simp only [validateAgainst, validateCommon, validateLineage, ok_rules, not_or, ne_eq,
    not_not] at hvalid
  obtain ⟨⟨⟨-, -, -, -, -, -, -, -, -, -, -, -, -, -, -, -, hworkload, -, hmember, -⟩, hrevision,
    -⟩, -⟩ := hvalid
  exact ⟨rfl, rfl, rfl, rfl, rfl, rfl, hworkload, hrevision, hmember, rfl, rfl⟩

namespace WorkloadStore

variable {X : External} {V : WorkloadServices} {ids : Set Uuid} {s s' : WorkloadStore}
  {action : WorkloadAction}

/-! ### The invariant -/

/-- What a deployment names is stored. -/
structure DeploymentLinked (s : WorkloadStore) (deployment : Deployment) : Prop where
  workload : ∃ workload, s.workloads.get? deployment.workloadId = some workload
  revision : ∃ revision, s.revisions.get? deployment.revisionId = some revision
  binding : ∃ binding, s.bindings.get? deployment.id = some binding ∧
    binding.workloadId = deployment.workloadId ∧ binding.revisionId = deployment.revisionId

/-- What a binding names is stored. -/
structure BindingLinked (s : WorkloadStore) (binding : DeploymentReplicaBinding) : Prop where
  deployment : ∃ deployment, s.deployments.get? binding.deploymentId = some deployment
  member : ∃ member, s.members.get? binding.memberId = some member
  replica : ∃ replica, s.replicas.get? binding.replicaId = some replica ∧
    replica.workloadId = binding.workloadId ∧
    (binding.replicaGeneration = replica.generation → replica.revisionId = binding.revisionId)

/-- A control record of a Workload whose replicas have one member each. -/
def SingleNode (control : WorkloadControl) : Prop :=
  control.spec.placementPolicy.topology = .singleNode ∧
    control.spec.placementPolicy.membersPerReplica = 1

structure References (s : WorkloadStore) : Prop where
  control : ∀ id control, s.controls.get? id = some control → SingleNode control
  deployment : ∀ id deployment, s.deployments.get? id = some deployment →
    s.DeploymentLinked deployment
  binding : ∀ id binding, s.bindings.get? id = some binding → s.BindingLinked binding

theorem references_empty : References empty := by
  constructor <;> intros <;> simp_all [empty]

/-- The tables before and after a step. -/
structure Rewritten (s s' : WorkloadStore) : Prop where
  workloads : s.workloads.Rewrites Workload.SameIdentity (fun _ => True) s'.workloads
  revisions : s.revisions.Rewrites (fun _ _ => True) (fun _ => True) s'.revisions
  deployments : s.deployments.Rewrites SameIdentity s'.DeploymentLinked s'.deployments
  bindings : s.bindings.Rewrites SameBinding s'.BindingLinked s'.bindings
  controls : s.controls.Rewrites (fun control control' => SingleNode control → SingleNode control')
    SingleNode s'.controls

/-- The references hold after a step that has rewritten the tables. -/
theorem References.of_rewritten (h : s.References) (hs : s.replicaTables.Consistent X ids)
    (hrewritten : s.Rewritten s')
    (hevolves : s.replicaTables.Evolves s'.replicaTables) : s'.References where
  control id control hcontrol := by
    rcases hrewritten.controls.backward id control hcontrol with ⟨old, hold, hkept⟩ | hnew
    · exact hkept (h.control id old hold)
    · exact hnew
  deployment id deployment hdeployment := by
    rcases hrewritten.deployments.backward id deployment hdeployment with ⟨old, hold, hsame⟩ | hnew
    · obtain ⟨⟨workload, hworkload⟩, ⟨revision, hrevision⟩, binding, hbinding, hbworkload,
        hbrevision⟩ := h.deployment id old hold
      obtain ⟨workload', hworkload', -⟩ := hrewritten.workloads.forward _ _ hworkload
      obtain ⟨revision', hrevision', -⟩ := hrewritten.revisions.forward _ _ hrevision
      obtain ⟨binding', hbinding', hsameBinding⟩ := hrewritten.bindings.forward _ _ hbinding
      exact ⟨⟨workload', by rw [hsame.workloadId]; exact hworkload'⟩,
        ⟨revision', by rw [hsame.revisionId]; exact hrevision'⟩, binding',
        by rw [hsame.id]; exact hbinding',
        by rw [hsameBinding.workloadId, hsame.workloadId, hbworkload],
        by rw [hsameBinding.revisionId, hsame.revisionId, hbrevision]⟩
    · exact hnew
  binding id binding hbinding := by
    rcases hrewritten.bindings.backward id binding hbinding with ⟨old, hold, hsame⟩ | hnew
    · have hkey : old.deploymentId = id := (get?_eq_some_iff.1 hold).2
      have hkey' : binding.deploymentId = id := (get?_eq_some_iff.1 hbinding).2
      obtain ⟨⟨deployment, hdeployment⟩, ⟨member, hmember⟩, replica, hreplica, hworkload,
        hrevision⟩ := h.binding id old hold
      obtain ⟨deployment', hdeployment', -⟩ := hrewritten.deployments.forward _ _ hdeployment
      obtain ⟨member', hmember', -⟩ := hevolves.member _ _ hmember
      obtain ⟨replica', hreplica', hcontinues⟩ := hevolves.replica _ _ hreplica
      refine ⟨⟨deployment', by rw [hkey', ← hkey]; exact hdeployment'⟩,
        ⟨member', by rw [hsame.memberId]; exact hmember'⟩, replica',
        by rw [hsame.replicaId]; exact hreplica',
        by rw [hcontinues.workloadId, hworkload, hsame.workloadId], fun hgeneration => ?_⟩
      -- a binding is never ahead of its replica, so the replica has not gone on to a generation
      obtain ⟨stored, hstored, hle⟩ := hs.bound id old hold
      rw [show s.replicaTables.replicas = s.replicas from rfl, hreplica] at hstored
      cases hstored
      have hcontinued := hcontinues.generation
      rw [hsame.replicaGeneration] at hgeneration
      rw [hcontinues.revision (by omega), hrevision (by omega), hsame.revisionId]
    · exact hnew

/-! ### Steps -/

variable {request : CreateDeploymentBundle} {binding : DeploymentReplicaBinding}
  {response : DeploymentBundle}

theorem validateBundle_ok {u : Unit} (h : validateBundle V request = .ok u) :
    request.control.placementPolicy.topology = .singleNode ∧
      request.control.placementPolicy.membersPerReplica = 1 ∧
      request.revision.workloadId = request.workload.id ∧
      request.deployment.workloadId = request.workload.id ∧
      request.deployment.revisionId = request.revision.id := by
  simp only [validateBundle, WorkloadControlSpec.validate, validate, ok_rules, not_or, ne_eq,
    not_not] at h
  obtain ⟨⟨-, -, -, -, -, hfit, -⟩, -, -, -, htopology, hrevision, -, hworkload, hid, -⟩ := h
  simp only [membersFit, htopology, decide_eq_true_eq] at hfit
  exact ⟨htopology, hfit, hrevision, hworkload, hid⟩

section Store

variable {request : CreateDeploymentBundle} {target : DeploymentTarget}
  {binding : DeploymentReplicaBinding} {response : DeploymentBundle}

@[simp] theorem storeDeployment_deployments :
    (s.storeDeployment request target binding response).deployments =
      s.deployments.insert request.deployment := by
  unfold storeDeployment storeWorkload
  split <;> rfl

@[simp] theorem storeDeployment_revisions :
    (s.storeDeployment request target binding response).revisions =
      s.revisions.insert request.revision := by
  unfold storeDeployment storeWorkload
  split <;> rfl

@[simp] theorem storeDeployment_bindings :
    (s.storeDeployment request target binding response).bindings = s.bindings.insert binding := by
  unfold storeDeployment storeWorkload
  split <;> rfl

@[simp] theorem storeDeployment_controls :
    (s.storeDeployment request target binding response).controls =
      s.controls.insert target.control := by
  unfold storeDeployment storeWorkload
  split <;> rfl

@[simp] theorem storeDeployment_replicas :
    (s.storeDeployment request target binding response).replicas =
      s.replicas.insertAll target.replicas := by
  unfold storeDeployment storeWorkload
  split <;> rfl

theorem storeDeployment_workloads_of_none (h : s.workloads.get? request.workload.id = none) :
    (s.storeDeployment request target binding response).workloads =
      s.workloads.insert request.workload := by
  simp only [storeDeployment, storeWorkload, h]

variable {existing : Workload}

theorem storeDeployment_workloads_of_some
    (h : s.workloads.get? request.workload.id = some existing) :
    (s.storeDeployment request target binding response).workloads = s.workloads := by
  simp only [storeDeployment, storeWorkload, h]

theorem storeDeployment_members_of_none (h : s.workloads.get? request.workload.id = none) :
    (s.storeDeployment request target binding response).members =
      s.members.insertAll target.members := by
  simp only [storeDeployment, storeWorkload, h]

theorem storeDeployment_members_of_some (h : s.workloads.get? request.workload.id = some existing) :
    (s.storeDeployment request target binding response).members = s.members := by
  simp only [storeDeployment, storeWorkload, h]

end Store

variable {deployment : Deployment} {replica : WorkloadReplica} {member : WorkloadReplicaMember}
  {control : WorkloadControl}

/-- The links of a deployment that was just stored with its binding. -/
theorem deploymentLinked_of_binds (hbinds : binding.Binds deployment replica member)
    (hworkload : ∃ workload, s.workloads.get? deployment.workloadId = some workload)
    (hrevision : ∃ revision, s.revisions.get? deployment.revisionId = some revision)
    (hbinding : s.bindings.get? deployment.id = some binding) : s.DeploymentLinked deployment :=
  ⟨hworkload, hrevision, binding, hbinding, hbinds.workloadId, hbinds.revisionId⟩

theorem bindingLinked_of_binds (hbinds : binding.Binds deployment replica member)
    (hdeployment : s.deployments.get? deployment.id = some deployment)
    (hreplica : s.replicas.get? replica.id = some replica)
    (hmember : s.members.get? member.id = some member) : s.BindingLinked binding :=
  ⟨⟨deployment, by rw [hbinds.deploymentId]; exact hdeployment⟩,
    ⟨member, by rw [hbinds.memberId]; exact hmember⟩, replica,
    by rw [hbinds.replicaId]; exact hreplica, hbinds.replicaWorkload,
    fun _ => hbinds.replicaRevision⟩

theorem rewrites_deployment {N : Deployment → Prop} {deployment' : Deployment}
    (hdeployment : deployment ∈ s.deployments.rows) (hsame : deployment.SameIdentity deployment') :
    s.deployments.Rewrites SameIdentity N (s.deployments.insert deployment') :=
  .insert_at SameIdentity.refl (get?_eq_some_iff.2 ⟨hdeployment, rfl⟩) hsame.id
    hsame

theorem rewrites_workload {workload workload' : Workload} (hworkload : workload ∈ s.workloads.rows)
    (hsame : workload.SameIdentity workload') :
    s.workloads.Rewrites Workload.SameIdentity (fun _ => True) (s.workloads.insert workload') :=
  .insert_at Workload.SameIdentity.refl (get?_eq_some_iff.2 ⟨hworkload, rfl⟩) hsame.id hsame

/-- What a step without new rows leaves to show. -/
theorem Rewritten.refl (s : WorkloadStore) : s.Rewritten s :=
  ⟨.refl Workload.SameIdentity.refl, .refl fun _ => trivial, .refl SameIdentity.refl,
    .refl SameBinding.refl, .refl fun _ h => h⟩

/-- A control record that is stored anew and asks for one member for each replica. -/
theorem rewrites_control (hsingle : SingleNode control) :
    s.controls.Rewrites (fun control control' => SingleNode control → SingleNode control')
      SingleNode (s.controls.insert control) where
  forward id c hc := by
    rcases get?_insert_of_get? (a := control) hc with ⟨-, hc'⟩ | ⟨-, hc'⟩
    · exact ⟨control, hc', fun _ => hsingle⟩
    · exact ⟨c, hc', fun h => h⟩
  backward id c hc := by
    rcases get?_insert_eq_some.1 hc with ⟨-, rfl⟩ | ⟨-, hc⟩
    · exact .inr hsingle
    · exact .inl ⟨c, hc, fun h => h⟩

section Stored

variable (hbundle : validateBundle V request = .ok ())
  (hfresh : s.revisions.get? request.revision.id = none ∧
    s.deployments.get? request.deployment.id = none ∧
    s.bindings.get? request.deployment.id = none)

include hbundle hfresh

theorem rewritten_stored {target : DeploymentTarget}
    (hbinding : DeploymentReplicaBinding.create X request.deployment request.revision replica
      member = .ok binding)
    (hworkloads : s.workloads.Rewrites Workload.SameIdentity (fun _ => True)
      (s.storeDeployment request target binding response).workloads)
    (hstored : (s.storeDeployment request target binding response).workloads.get?
      request.workload.id = some request.workload)
    (hreplica : (s.replicas.insertAll target.replicas).get? replica.id = some replica)
    (hmember : (s.storeDeployment request target binding response).members.get? member.id =
      some member) (hcontrol : target.control.spec = request.control) :
    s.Rewritten (s.storeDeployment request target binding response) := by
  obtain ⟨htopology, hmembers, -, hworkload, hrevision⟩ := validateBundle_ok hbundle
  have hbinds := binds_of_create hbinding
  refine ⟨hworkloads, ?_, ?_, ?_, ?_⟩
  · rw [storeDeployment_revisions]
    exact .insert_new (fun _ => trivial) hfresh.1 trivial
  · rw [storeDeployment_deployments]
    refine .insert_new SameIdentity.refl hfresh.2.1
      (deploymentLinked_of_binds hbinds ⟨request.workload, ?_⟩ ⟨request.revision, ?_⟩ ?_)
    · rw [hworkload]
      exact hstored
    · rw [storeDeployment_revisions, hrevision]
      exact get?_insert_self _ _
    · rw [storeDeployment_bindings, ← hbinds.deploymentId]
      exact get?_insert_self _ _
  · rw [storeDeployment_bindings]
    have hnone : s.bindings.get? binding.key = none :=
      (congrArg s.bindings.get? hbinds.deploymentId).trans hfresh.2.2
    refine .insert_new SameBinding.refl hnone
      (bindingLinked_of_binds hbinds ?_ ?_ hmember)
    · rw [storeDeployment_deployments]
      exact get?_insert_self _ _
    · rw [storeDeployment_replicas]
      exact hreplica
  · rw [storeDeployment_controls]
    refine rewrites_control ?_
    rw [SingleNode, hcontrol]
    exact ⟨htopology, hmembers⟩

theorem rewritten_created (hids : DistinctReplicaIds X ids) (hs : s.replicaTables.Consistent X ids)
    (hknown : request.workload.id ∈ ids) {target : DeploymentTarget}
    (hnew : s.workloads.get? request.workload.id = none)
    (hcontrol : WorkloadControl.create request.workload request.control = .ok target.control)
    (hreplicas : ReplicaTables.NewReplicas X request target)
    (hbinding : ∃ replica member, target.replicas.head? = some replica ∧
      target.members.head? = some member ∧ DeploymentReplicaBinding.create X request.deployment
        request.revision replica member = .ok binding) :
    s.Rewritten (s.storeDeployment request target binding response) := by
  obtain ⟨replica, member, hreplica, hmember, hbinding⟩ := hbinding
  have hresized := hs.resized_of_created hids hknown hnew hcontrol hreplicas
  refine rewritten_stored hbundle hfresh hbinding ?_ ?_ ?_ ?_
    (WorkloadControl.create_ok hcontrol).1
  · rw [storeDeployment_workloads_of_none hnew]
    exact .insert_new Workload.SameIdentity.refl hnew trivial
  · rw [storeDeployment_workloads_of_none hnew]
    exact get?_insert_self _ _
  · exact (get?_insertAll_eq_some (hresized.replica_inj hids hknown)).2
      (.inl ⟨List.mem_of_mem_head? hreplica, rfl⟩)
  · rw [storeDeployment_members_of_none hnew]
    exact (get?_insertAll_eq_some hresized.memberOf).2
      (.inl ⟨List.mem_of_mem_head? hmember, rfl⟩)

theorem rewritten_updated {control' : WorkloadControl} {changed : Bool} {replica' : WorkloadReplica}
    (hexisting : s.workloads.get? request.workload.id = some request.workload)
    (hauthorized : control.authorizeDeployment request.control request.revision.createdAt =
      .ok (control', changed)) (hmember : s.members.get? replica'.id = some member)
    (hbinding : DeploymentReplicaBinding.create X request.deployment request.revision replica'
      member = .ok binding) :
    s.Rewritten (s.storeDeployment request ⟨control', [replica'], [member]⟩ binding response) := by
  refine rewritten_stored hbundle hfresh hbinding ?_ ?_ (get?_insert_self _ _) ?_
    (WorkloadControl.authorizeDeployment_ok hauthorized).2.2.2.1
  · rw [storeDeployment_workloads_of_some hexisting]
    exact .refl Workload.SameIdentity.refl
  · rw [storeDeployment_workloads_of_some hexisting]
    exact hexisting
  · rw [storeDeployment_members_of_some hexisting]
    exact get?_key hmember

end Stored

theorem step_rewritten (hids : DistinctReplicaIds X ids) (hs : s.replicaTables.Consistent X ids)
    (href : s.References) (hknown : CreatesIn ids action) :
    s.Rewritten (s.step X V action) := by
  have hchange := step_change (X := X) (V := V) s action
  generalize s.step X V action = s' at hchange
  have hrefl := Rewritten.refl s
  cases hchange with
  | unchanged => exact hrefl
  | runtimeBound => exact ⟨hrefl.workloads, hrefl.revisions, .refl SameIdentity.refl,
      .refl SameBinding.refl, hrefl.controls⟩
  | deploymentMoved deployment deployment' idempotency hdeployment hmoved =>
    exact ⟨hrefl.workloads, hrefl.revisions, rewrites_deployment hdeployment hmoved.toSameIdentity,
      .refl SameBinding.refl, hrefl.controls⟩
  | deploymentEnded deployment deployment' hdeployment hended =>
    exact ⟨hrefl.workloads, hrefl.revisions, rewrites_deployment hdeployment hended.toSameIdentity,
      .refl SameBinding.refl, hrefl.controls⟩
  | workloadStopped workload workload' idempotency hworkload hsame =>
    exact ⟨rewrites_workload hworkload hsame, hrefl.revisions, .refl SameIdentity.refl,
      .refl SameBinding.refl, hrefl.controls⟩
  | revisionResolved revision body hrevision =>
    exact ⟨hrefl.workloads, .insert_at (fun _ => trivial)
      (get?_eq_some_iff.2 ⟨hrevision, rfl⟩) rfl trivial,
      .refl SameIdentity.refl, .refl SameBinding.refl,
      hrefl.controls⟩
  | created request target binding response haction hnew hbundle hfresh hcontrol hreplicas
      hbinding =>
    subst haction
    exact rewritten_created hbundle hfresh hids hs hknown hnew hcontrol hreplicas hbinding
  | updated request control control' changed replica replica' member binding response haction
      hexisting hbundle hfresh hterminal hcontrol hauthorized hreplica hadvanced hmember hbinding =>
    exact rewritten_updated hbundle hfresh hexisting hauthorized hmember hbinding
  | reconfigured workload control revision write plan idempotency hworkload hcontrol hrevision
      hplanned hmembers =>
    have hsingle : SingleNode plan.control := by
      have htopology := hplanned.topology.trans (href.control _ control hcontrol).1
      have hfit := hplanned.membersFit
      simp only [membersFit, htopology, decide_eq_true_eq] at hfit
      exact ⟨htopology, hfit⟩
    exact ⟨hrefl.workloads, hrefl.revisions, .refl SameIdentity.refl,
      .refl SameBinding.refl, rewrites_control hsingle⟩
  | assigned deployment deployment' binding binding' member member' nodeId time hdeployment hdesired
      hmoved hbinding hmember hplaced hassigned =>
    obtain ⟨hid, -, -, rfl⟩ := assign_ok hassigned
    exact ⟨hrefl.workloads, hrefl.revisions,
      rewrites_deployment (get?_eq_some_iff.1 hdeployment).1 hmoved.toSameIdentity,
      .insert_at SameBinding.refl (get?_key hbinding) rfl
        ⟨rfl, rfl, rfl, rfl, rfl⟩, hrefl.controls⟩
  | activated deployment deployment' workload workload' hdeployment hdesired hworkload hsame hstatus
      hidentity hactive =>
    exact ⟨rewrites_workload (get?_eq_some_iff.1 hworkload).1 hidentity, hrefl.revisions,
      rewrites_deployment hdeployment hsame, .refl SameBinding.refl,
      hrefl.controls⟩
  | materialized workload control revision replica member deployment binding hworkload hcontrol
      hrevision hreplica hmember hwanted hunbound hcreated hbinding hfresh =>
    have hbinds := binds_of_create hbinding
    have hnone : s.bindings.get? binding.key = none :=
      (congrArg s.bindings.get? hbinds.deploymentId).trans hfresh.2
    have hstored : (s.bindings.insert binding).get? deployment.id = some binding := by
      rw [← hbinds.deploymentId]
      exact get?_insert_self _ _
    exact ⟨hrefl.workloads, hrefl.revisions,
      .insert_new SameIdentity.refl hfresh.1 (deploymentLinked_of_binds hbinds
        ⟨workload, by rw [hcreated.1]; exact hworkload⟩
        ⟨revision, by rw [hcreated.2.1]; exact hrevision⟩ hstored),
      .insert_new SameBinding.refl hnone (bindingLinked_of_binds hbinds
        (get?_insert_self _ _) hreplica (get?_key hmember)), hrefl.controls⟩
  | evacuationRequested | replicaRetires | replicaFinished =>
    exact ⟨hrefl.workloads, hrefl.revisions, .refl SameIdentity.refl,
      .refl SameBinding.refl, hrefl.controls⟩

/-- The references and the replica sets hold together in every state. -/
theorem references_step (hids : DistinctReplicaIds X ids) (hs : s.replicaTables.Consistent X ids)
    (href : s.References) (hknown : CreatesIn ids action) : (s.step X V action).References :=
  href.of_rewritten hs (step_rewritten hids hs href hknown) (consistent_step hids hs hknown).2

end WorkloadStore

end A3SCloud
