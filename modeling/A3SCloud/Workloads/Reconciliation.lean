import A3SCloud.Workloads.References

/-!
# Reconciliation of the active revision

A running replica is looked after in one of two ways: it is the replica of a Runtime target
(`listActiveRuntimeTargets`), or it waits for a deployment (`pendingReplicaDeployments`). An update
moves the canonical replica alone to its revision before anything runs, so a replica can fall between
the two lists: when the update fails or is cancelled, and when the Workload has more replicas than
the canonical one.

* `ReplicaReconciled` says that a replica is in one of the lists, or that its deployment has ended
  without success.
* `OnRevision` is the invariant: the wanted replicas and the open deployments of a Workload are all
  of one revision, which is the active one when no deployment is open. `UpdatesSafely` is the
  condition on the operations that keeps it; it is asked of those that change the store, not of
  replays and refused calls.
-/

namespace A3SCloud

open Checks List Table WorkloadControl WorkloadReplica

namespace WorkloadStore

variable {X : External} {V : WorkloadServices} {ids : Set Uuid} {s s' : WorkloadStore}
  {action : WorkloadAction} {binding : DeploymentReplicaBinding} {replica' : WorkloadReplica}

/-! ### What is looked after -/

/-- The replica is that of a Runtime target of a revision. -/
def IsTarget (s : WorkloadStore) (limit : ℕ) (revisionId : Uuid) (replica : WorkloadReplica) :
    Prop :=
  ∃ targets, s.listActiveRuntimeTargets limit = .ok targets ∧
    ∃ target ∈ targets, target.replica = replica ∧ target.revision.id = revisionId

/-- The replica waits for a deployment. -/
def IsCandidate (s : WorkloadStore) (limit : ℕ) (replica : WorkloadReplica) : Prop :=
  ∃ candidates, s.pendingReplicaDeployments limit = .ok candidates ∧
    candidateOf replica ∈ candidates

/-- The deployment of the revision to which the replica generation is bound has ended without
success. -/
def HasEnded (s : WorkloadStore) (revisionId : Uuid) (replica : WorkloadReplica) : Prop :=
  ∃ binding ∈ s.bindings.rows, binding.replicaId = replica.id ∧
    binding.replicaGeneration = replica.generation ∧
    ∃ deployment ∈ s.deployments.rows, deployment.id = binding.deploymentId ∧
      deployment.revisionId = revisionId ∧ (deployment.status = .failed ∨
        deployment.status = .orphaned ∨ deployment.status = .cancelled)

def ReplicaReconciled (s : WorkloadStore) (limit : ℕ) (revisionId : Uuid)
    (replica : WorkloadReplica) : Prop :=
  s.IsTarget limit revisionId replica ∨ s.IsCandidate limit replica ∨ s.HasEnded revisionId replica

instance (s : WorkloadStore) (limit : ℕ) (revisionId : Uuid) (replica : WorkloadReplica) :
    Decidable (s.ReplicaReconciled limit revisionId replica) := by
  unfold ReplicaReconciled IsTarget IsCandidate HasEnded
  infer_instance

/-- A Workload runs on an active revision and none of its deployments is open. -/
def Settled (s : WorkloadStore) (workload : Workload) (revisionId : Uuid) : Prop :=
  workload.desiredState = .running ∧ workload.activeRevisionId = some revisionId ∧
    ∀ deployment ∈ s.deployments.rows, deployment.workloadId = workload.id →
      deployment.status.isTerminal = true

def Wants (s : WorkloadStore) (workload : Workload) (replica : WorkloadReplica) : Prop :=
  replica.workloadId = workload.id ∧ replica.lifecycle = .desired ∧
    ∃ control ∈ s.controls.rows, control.workloadId = workload.id ∧
      replica.ordinal < control.desiredReplicas

instance (s : WorkloadStore) (workload : Workload) (revisionId : Uuid) :
    Decidable (s.Settled workload revisionId) := by
  unfold Settled
  infer_instance

instance (s : WorkloadStore) (workload : Workload) (replica : WorkloadReplica) :
    Decidable (s.Wants workload replica) := by
  unfold Wants
  infer_instance

/-- The wanted replicas of every Workload that runs on an active revision are looked after, whenever
the limit of the lists is large enough. -/
def ActiveRevisionsReconciled (s : WorkloadStore) : Prop :=
  ∀ limit, 0 < limit → limit ≤ 10000 → s.deployments.rows.length ≤ limit →
    s.replicas.rows.length ≤ limit → ∀ workload ∈ s.workloads.rows, ∀ revisionId,
      s.Settled workload revisionId → ∀ replica ∈ s.replicas.rows, s.Wants workload replica →
        s.ReplicaReconciled limit revisionId replica

/-! ### The lists -/

variable {limit : ℕ} {replica : WorkloadReplica} {request : CreateDeploymentBundle}
  {response : DeploymentBundle}

theorem isCandidate_of_isPending (hlimit : 0 < limit ∧ limit ≤ 10000)
    (hlength : s.replicas.rows.length ≤ limit) (hreplica : replica ∈ s.replicas.rows)
    (hpending : s.isPending replica = true) : s.IsCandidate limit replica := by
  have hcheck : ¬ (limit = 0 ∨ 10000 < limit) := by omega
  simp only [IsCandidate, pendingReplicaDeployments, ok_rules]
  refine ⟨_, ⟨hcheck, rfl⟩, ?_⟩
  have hle : ((s.replicas.rows.filter s.isPending).insertionSort pendingBefore).length ≤ limit := by
    rw [length_insertionSort]
    exact (length_filter_le _ _).trans hlength
  rw [take_of_length_le hle]
  exact mem_map_of_mem ((perm_insertionSort _ _).mem_iff.2
    (mem_filter.2 ⟨hreplica, hpending⟩))

theorem collectTargets_ok {deployments : List Deployment}
    (hall : ∀ deployment ∈ deployments, ∃ target, s.activeTarget deployment = .ok target)
    (hlength : deployments.length ≤ limit) :
    ∃ targets, s.collectTargets limit deployments = .ok targets ∧
      ∀ deployment ∈ deployments, ∀ target, s.activeTarget deployment = .ok (some target) →
        target ∈ targets := by
  induction deployments generalizing limit with
  | nil =>
    refine ⟨[], ?_, fun _ h => absurd h not_mem_nil⟩
    cases limit <;> simp only [collectTargets]
  | cons deployment deployments ih =>
    obtain ⟨hfirst, hrest⟩ := forall_mem_cons.1 hall
    obtain ⟨limit, rfl⟩ : ∃ n, limit = n + 1 :=
      ⟨limit - 1, by rw [length_cons] at hlength; omega⟩
    rw [length_cons] at hlength
    obtain ⟨answer, hanswer⟩ := hfirst
    cases answer with
    | none =>
      have hle : deployments.length ≤ limit + 1 := by omega
      obtain ⟨targets, htargets, hmem⟩ := ih hrest hle
      refine ⟨targets, by rw [collectTargets, hanswer]; exact htargets, ?_⟩
      rintro d hd target htarget
      rcases mem_cons.1 hd with rfl | hd
      · rw [hanswer] at htarget
        cases htarget
      · exact hmem d hd target htarget
    | some first =>
      have hle : deployments.length ≤ limit := by omega
      obtain ⟨targets, htargets, hmem⟩ := ih hrest hle
      refine ⟨first :: targets, ?_, ?_⟩
      · simp only [collectTargets, bind_ok_iff]
        refine ⟨some first, hanswer, ?_⟩
        simp only [ok_rules]
        exact ⟨targets, htargets, rfl⟩
      · rintro d hd target htarget
        rcases mem_cons.1 hd with rfl | hd
        · rw [hanswer] at htarget
          cases htarget
          exact mem_cons_self
        · exact mem_cons_of_mem _ (hmem d hd target htarget)

variable {deployment : Deployment}

/-- The target of a deployment to which a wanted replica is bound. -/
theorem References.activeTarget_eq (h : s.References)
    (hdeployment : deployment ∈ s.deployments.rows)
    (hbinding : s.bindings.get? deployment.id = some binding)
    (hreplica : s.replicas.get? binding.replicaId = some replica)
    (hdesired : replica.lifecycle = .desired) (hrevision : replica.revisionId = binding.revisionId)
    (hgeneration : replica.generation = binding.replicaGeneration) :
    ∃ target, s.activeTarget deployment = .ok (some target) ∧ target.replica = replica ∧
      target.revision.id = deployment.revisionId := by
  obtain ⟨⟨workload, hworkload⟩, ⟨revision, hstored⟩, -⟩ :=
    h.deployment _ deployment (get?_eq_some_iff.2 ⟨hdeployment, rfl⟩)
  obtain ⟨-, ⟨member, hmember⟩, -⟩ := h.binding _ binding hbinding
  have hfresh : ¬ (replica.lifecycle ≠ .desired ∨ replica.revisionId ≠ binding.revisionId ∨
      replica.generation ≠ binding.replicaGeneration) := by
    simp only [hdesired, hrevision, hgeneration, ne_eq, not_true_eq_false, or_self,
      not_false_eq_true]
  refine ⟨⟨workload, revision, replica, member, deployment, binding,
    s.runtimeBindings.get? deployment.id⟩, ?_, rfl, (get?_eq_some_iff.1 hstored).2⟩
  simp only [activeTarget, ok_rules]
  refine ⟨workload, hworkload, revision, hstored, binding, hbinding, replica, hreplica, ?_⟩
  rw [if_neg hfresh, hmember]
  rfl

/-- A stored deployment has an answer: nothing it names is missing. -/
theorem References.exists_activeTarget (h : s.References)
    (hdeployment : deployment ∈ s.deployments.rows) :
    ∃ target, s.activeTarget deployment = .ok target := by
  obtain ⟨⟨workload, hworkload⟩, ⟨revision, hrevision⟩, binding, hbinding, -⟩ :=
    h.deployment _ deployment (get?_eq_some_iff.2 ⟨hdeployment, rfl⟩)
  obtain ⟨-, -, replica, hreplica, -⟩ := h.binding _ binding hbinding
  by_cases hstale : replica.lifecycle ≠ .desired ∨ replica.revisionId ≠ binding.revisionId ∨
      replica.generation ≠ binding.replicaGeneration
  · simp only [activeTarget, ok_rules]
    exact ⟨none, workload, hworkload, revision, hrevision, binding, hbinding, replica, hreplica,
      if_pos hstale⟩
  · simp only [not_or, ne_eq, not_not] at hstale
    obtain ⟨target, htarget, -⟩ :=
      h.activeTarget_eq hdeployment hbinding hreplica hstale.1 hstale.2.1 hstale.2.2
    exact ⟨some target, htarget⟩

theorem References.isTarget (h : s.References) (hlimit : 0 < limit ∧ limit ≤ 10000)
    (hlength : s.deployments.rows.length ≤ limit) (hdeployment : deployment ∈ s.deployments.rows)
    (hactive : s.isActiveDeployment deployment = true)
    (hbinding : s.bindings.get? deployment.id = some binding)
    (hreplica : s.replicas.get? binding.replicaId = some replica)
    (hdesired : replica.lifecycle = .desired) (hrevision : replica.revisionId = binding.revisionId)
    (hgeneration : replica.generation = binding.replicaGeneration) :
    s.IsTarget limit deployment.revisionId replica := by
  have hmem : ∀ {d : Deployment},
      d ∈ (s.deployments.rows.filter s.isActiveDeployment).insertionSort s.targetBefore ↔
        d ∈ s.deployments.rows ∧ s.isActiveDeployment d = true := by
    intro d
    rw [(perm_insertionSort _ _).mem_iff, mem_filter]
  have hle : ((s.deployments.rows.filter s.isActiveDeployment).insertionSort
      s.targetBefore).length ≤ limit := by
    rw [length_insertionSort]
    exact (length_filter_le _ _).trans hlength
  obtain ⟨targets, htargets, hcovered⟩ :=
    collectTargets_ok (fun d hd => h.exists_activeTarget (hmem.1 hd).1) hle
  obtain ⟨target, htarget, hreplicaEq, hrevisionEq⟩ :=
    h.activeTarget_eq hdeployment hbinding hreplica hdesired hrevision hgeneration
  have hcheck : ¬ (limit = 0 ∨ 10000 < limit) := by omega
  refine ⟨targets, ?_, target, hcovered deployment (hmem.2 ⟨hdeployment, hactive⟩) target htarget,
    hreplicaEq, hrevisionEq⟩
  simp only [listActiveRuntimeTargets, ok_rules]
  exact ⟨hcheck, htargets⟩

/-! ### The revision of a Workload -/

/-- The wanted replicas and the open deployments of a Workload are of one revision, that of its
canonical replica; the active revision is another one only while a deployment is open. -/
structure OnRevision (controls : Table WorkloadControl.key) (replicas : Table WorkloadReplica.key)
    (deployments : Table Deployment.key) (workload : Workload) (revisionId : Uuid) : Prop where
  canonical : ∃ replica, replicas.get? workload.id = some replica ∧
    replica.revisionId = revisionId
  below : ∀ id replica control, replicas.get? id = some replica →
    replica.workloadId = workload.id → controls.get? workload.id = some control →
      replica.ordinal < control.desiredReplicas → replica.revisionId = revisionId
  unfinished : ∀ id deployment, deployments.get? id = some deployment →
    deployment.workloadId = workload.id → deployment.status.isTerminal = false →
      deployment.revisionId = revisionId
  retiring : ∀ id deployment, deployments.get? id = some deployment →
    deployment.workloadId = workload.id → deployment.status = .retiring →
      workload.activeRevisionId = none ∨ workload.activeRevisionId = some revisionId
  active : workload.activeRevisionId = none ∨ workload.activeRevisionId = some revisionId ∨
    ∃ id deployment, deployments.get? id = some deployment ∧
      deployment.workloadId = workload.id ∧ deployment.status.isTerminal = false

/-- Every Workload is on one revision. -/
def Aligned (s : WorkloadStore) : Prop :=
  ∀ id workload, s.workloads.get? id = some workload →
    ∃ revisionId, OnRevision s.controls s.replicas s.deployments workload revisionId

/-- An operation that does not leave a replica of an active revision behind: a Workload is updated
only while it has one replica, and a deployment fails or is cancelled only when no other revision
than its own is active. New Workloads and deployments are as the commands make them. -/
def UpdatesSafely (s : WorkloadStore) : WorkloadAction → Prop
  | .createDeployment request => request.deployment.status = .queued ∧
      (s.workloads.get? request.workload.id = none → request.workload.activeRevisionId = none) ∧
      (s.workloads.get? request.workload.id ≠ none → ∀ control ∈ s.controls.rows,
        control.workloadId = request.workload.id → control.desiredReplicas = 1)
  | .fail deploymentId _ _ _ | .cancel deploymentId _ _ =>
      ∀ deployment ∈ s.deployments.rows, deployment.id = deploymentId →
        ∀ workload ∈ s.workloads.rows, workload.id = deployment.workloadId →
          workload.activeRevisionId = none ∨
            workload.activeRevisionId = some deployment.revisionId
  | _ => True

instance (s : WorkloadStore) (action : WorkloadAction) : Decidable (s.UpdatesSafely action) := by
  apply WorkloadAction.casesOn (motive := fun action => Decidable (s.UpdatesSafely action)) action
    <;> intros <;> unfold UpdatesSafely <;> infer_instance

section OnRevision

variable {controls : Table WorkloadControl.key} {replicas : Table WorkloadReplica.key}
  {deployments : Table Deployment.key} {workload workload' : Workload} {revisionId : Uuid}
  {deployment deployment' : Deployment}
  (h : OnRevision controls replicas deployments workload revisionId)

include h

/-- A deployment that is stored: it is of the revision while it is open, and what it takes the place
of was not the last open deployment of another revision than the active one. -/
theorem OnRevision.withDeployment
    (hopen : deployment'.workloadId = workload.id → deployment'.status.isTerminal = false →
      deployment'.revisionId = revisionId)
    (hretiring : deployment'.workloadId = workload.id → deployment'.status = .retiring →
      workload.activeRevisionId = none ∨ workload.activeRevisionId = some revisionId)
    (hreplaced : ∀ d, deployments.get? deployment'.id = some d → d.workloadId = workload.id →
      d.status.isTerminal = false →
        (workload.activeRevisionId = none ∨ workload.activeRevisionId = some revisionId) ∨
          (deployment'.workloadId = workload.id ∧ deployment'.status.isTerminal = false)) :
    OnRevision controls replicas (deployments.insert deployment') workload revisionId := by
  refine ⟨h.canonical, h.below, ?_, ?_, ?_⟩
  · intro id d hd hworkload hstatus
    rcases get?_insert_eq_some.1 hd with ⟨-, rfl⟩ | ⟨-, hold⟩
    · exact hopen hworkload hstatus
    · exact h.unfinished id d hold hworkload hstatus
  · intro id d hd hworkload hstatus
    rcases get?_insert_eq_some.1 hd with ⟨-, rfl⟩ | ⟨-, hold⟩
    · exact hretiring hworkload hstatus
    · exact h.retiring id d hold hworkload hstatus
  · rcases h.active with hnone | hsome | ⟨id, d, hd, hworkload, hstatus⟩
    · exact .inl hnone
    · exact .inr (.inl hsome)
    rcases get?_insert_of_get? (a := deployment') hd with ⟨rfl, hd'⟩ | ⟨-, hd'⟩
    · exact (or_assoc.1 ((hreplaced d hd hworkload hstatus).imp_right fun hnew =>
        ⟨_, deployment', hd', hnew⟩))
    · exact .inr (.inr ⟨id, d, hd', hworkload, hstatus⟩)

/-- A transition of a deployment that leaves it open or completes its retirement. -/
theorem OnRevision.moved (hdeployment : deployments.get? deployment.id = some deployment)
    (hmoved : deployment.Moved deployment') :
    OnRevision controls replicas (deployments.insert deployment') workload revisionId := by
  refine h.withDeployment ?_ ?_ ?_ <;> rw [hmoved.workloadId]
  · intro hworkload hopen
    rw [hmoved.revisionId]
    refine h.unfinished _ deployment hdeployment hworkload ?_
    rcases hmoved.status with hstatus | ⟨hstatus, -⟩ | ⟨-, hstatus⟩
    · rwa [hstatus] at hopen
    · exact hstatus
    · rw [hstatus] at hopen
      cases hopen
  · intro hworkload hretiring
    refine h.retiring _ deployment hdeployment hworkload ?_
    rcases hmoved.status with hstatus | ⟨-, -, hne⟩ | ⟨-, hstatus⟩
    · rwa [hstatus] at hretiring
    · exact absurd hretiring hne
    · rw [hstatus] at hretiring
      cases hretiring
  · intro d hd hworkload hopen
    rw [hmoved.id, hdeployment] at hd
    cases hd
    rcases hmoved.status with hstatus | ⟨-, hstatus, -⟩ | ⟨hretiring, -⟩
    · exact .inr ⟨hworkload, by rw [hstatus]; exact hopen⟩
    · exact .inr ⟨hworkload, hstatus⟩
    · -- the last open deployment is retired, and then its revision is active
      exact .inl (h.retiring _ _ hdeployment hworkload hretiring)

/-- A deployment ends without success while no other revision is active. -/
theorem OnRevision.ended (hdeployment : deployments.get? deployment.id = some deployment)
    (hended : deployment.Ended deployment')
    (hactive : deployment.workloadId = workload.id → workload.activeRevisionId = none ∨
      workload.activeRevisionId = some deployment.revisionId) :
    OnRevision controls replicas (deployments.insert deployment') workload revisionId := by
  have hterminal : deployment'.status.isTerminal = true ∧ deployment'.status ≠ .retiring := by
    rcases hended.status with hstatus | hstatus | hstatus <;> rw [hstatus] <;> exact ⟨rfl, nofun⟩
  refine h.withDeployment (fun _ hopen => ?_) (fun _ hretiring => absurd hretiring hterminal.2) ?_
  · rw [hterminal.1] at hopen
    cases hopen
  · intro d hd hworkload hopen
    rw [hended.id, hdeployment] at hd
    cases hd
    rw [h.unfinished _ _ hdeployment hworkload hopen] at hactive
    exact .inl (hactive hworkload)

theorem OnRevision.queued (hnew : deployments.get? deployment.id = none)
    (hstatus : deployment.status = .queued)
    (hrevision : deployment.workloadId = workload.id → deployment.revisionId = revisionId) :
    OnRevision controls replicas (deployments.insert deployment) workload revisionId := by
  refine h.withDeployment (fun hworkload _ => hrevision hworkload) ?_ ?_
  · intro _ hretiring
    rw [hstatus] at hretiring
    cases hretiring
  · intro d hd
    rw [hnew] at hd
    cases hd

/-- The Workload itself changes: its active revision is the same, none or the revision. -/
theorem OnRevision.withWorkload (hid : workload'.id = workload.id)
    (hactive : workload'.activeRevisionId = workload.activeRevisionId ∨
      workload'.activeRevisionId = none ∨ workload'.activeRevisionId = some revisionId) :
    OnRevision controls replicas deployments workload' revisionId := by
  refine ⟨hid ▸ h.canonical, hid ▸ h.below, hid ▸ h.unfinished, ?_, ?_⟩
  · intro id d hd hworkload hretiring
    rcases hactive with heq | hactive
    · rw [heq]
      exact h.retiring id d hd (hworkload.trans hid) hretiring
    · exact hactive
  · rcases hactive with heq | hnone | hsome
    · rw [heq, hid]
      exact h.active
    · exact .inl hnone
    · exact .inr (.inl hsome)

theorem OnRevision.withReplica
    (hreplica : replicas.get? replica.id = some replica) (hsame : replica.SameReplica replica')
    (hrevision : replica'.revisionId = replica.revisionId) :
    OnRevision controls (replicas.insert replica') deployments workload revisionId := by
  have hkey : replica'.key = replica.id := hsame.id
  refine ⟨?_, ?_, h.unfinished, h.retiring, h.active⟩
  · obtain ⟨r, hr, hrev⟩ := h.canonical
    rcases get?_insert_of_get? (a := replica') hr with ⟨hid, hr'⟩ | ⟨-, hr'⟩
    · rw [hid, hkey, hreplica] at hr
      cases hr
      exact ⟨replica', hr', hrevision.trans hrev⟩
    · exact ⟨r, hr', hrev⟩
  · intro id r control hr hworkload hcontrol hlt
    rcases get?_insert_eq_some.1 hr with ⟨-, rfl⟩ | ⟨-, hold⟩
    · rw [hrevision]
      exact h.below _ replica control hreplica (hsame.workloadId ▸ hworkload) hcontrol
        (hsame.ordinal ▸ hlt)
    · exact h.below id r control hold hworkload hcontrol hlt

/-- A change of the replicas and the control record of another Workload. -/
theorem OnRevision.frame {controls' : Table WorkloadControl.key}
    {replicas' : Table WorkloadReplica.key}
    (hcontrols : controls'.get? workload.id = controls.get? workload.id)
    (hcanonical : ∀ replica, replicas.get? workload.id = some replica →
      replicas'.get? workload.id = some replica)
    (hreplicas : ∀ id replica, replicas'.get? id = some replica →
      replica.workloadId = workload.id → replicas.get? id = some replica) :
    OnRevision controls' replicas' deployments workload revisionId := by
  refine ⟨?_, ?_, h.unfinished, h.retiring, h.active⟩
  · obtain ⟨r, hr, hrevision⟩ := h.canonical
    exact ⟨r, hcanonical r hr, hrevision⟩
  · intro id r control hr hworkload hcontrol hlt
    exact h.below id r control (hreplicas id r hr hworkload) hworkload (hcontrols ▸ hcontrol) hlt

/-- A transition of a deployment of another Workload. -/
theorem OnRevision.otherDeployment (hdeployment : deployments.get? deployment.id = some deployment)
    (hsame : deployment.SameIdentity deployment') (hne : deployment.workloadId ≠ workload.id) :
    OnRevision controls replicas (deployments.insert deployment') workload revisionId := by
  refine h.withDeployment ?_ ?_ ?_
  · exact fun hworkload => absurd (hsame.workloadId.symm.trans hworkload) hne
  · exact fun hworkload => absurd (hsame.workloadId.symm.trans hworkload) hne
  · intro d hd hworkload
    rw [hsame.id, hdeployment] at hd
    cases hd
    exact absurd hworkload hne

end OnRevision

/-! ### Steps -/

theorem aligned_empty : Aligned empty := by
  intro id workload h
  simp [empty] at h

theorem OnRevision.eq_of_currentlyDesired (href : s.References) {workload : Workload}
    {revisionId : Uuid} (h : OnRevision s.controls s.replicas s.deployments workload revisionId)
    (hdesired : s.CurrentlyDesired deployment) (hworkload : deployment.workloadId = workload.id) :
    deployment.revisionId = revisionId := by
  obtain ⟨w, control, binding, replica, member, -, hcontrol, hbinding, hreplica, -, hbworkload, -, -,
    -, hordinal, hrevision, -⟩ := hdesired.exists_bound
  obtain ⟨-, -, replica', hreplica', hrworkload, -⟩ := href.binding _ binding hbinding
  rw [hreplica] at hreplica'
  cases hreplica'
  rw [← hrevision]
  exact h.below _ replica control hreplica (hrworkload.trans (hbworkload.trans hworkload))
    (hworkload ▸ hcontrol) hordinal

theorem aligned_activated (href : s.References) (h : s.Aligned) {deployment' : Deployment}
    {workload workload' : Workload} (hdeployment : deployment ∈ s.deployments.rows)
    (hdesired : s.CurrentlyDesired deployment)
    (hworkload : s.workloads.get? deployment.workloadId = some workload)
    (hsame : deployment.SameIdentity deployment') (hidentity : workload.SameIdentity workload')
    (hactive : workload'.activeRevisionId = some deployment.revisionId) :
    Aligned { s with
      deployments := s.deployments.insert deployment'
      workloads := s.workloads.insert workload' } := by
  have hstored : s.deployments.get? deployment.id = some deployment :=
    get?_eq_some_iff.2 ⟨hdeployment, rfl⟩
  have hid : workload.id = deployment.workloadId := (get?_eq_some_iff.1 hworkload).2
  intro id w hw
  rcases get?_insert_eq_some.1 hw with ⟨-, rfl⟩ | ⟨hne, hold⟩
  · obtain ⟨revisionId, hon⟩ := h _ workload hworkload
    have hrevision := hon.eq_of_currentlyDesired href hdesired hid.symm
    rw [hrevision] at hactive
    have hon' := hon.withWorkload hidentity.id (.inr (.inr hactive))
    refine ⟨revisionId, hon'.canonical, hon'.below, ?_, fun _ _ _ _ _ => .inr hactive,
      .inr (.inl hactive)⟩
    intro did d hd hdworkload hopen
    rcases get?_insert_eq_some.1 hd with ⟨-, rfl⟩ | ⟨-, hd⟩
    · exact hsame.revisionId.trans hrevision
    · exact hon'.unfinished did d hd hdworkload hopen
  · obtain ⟨revisionId, hon⟩ := h id w hold
    refine ⟨revisionId, hon.otherDeployment hstored hsame fun heq => hne ?_⟩
    rw [← show w.id = id from (get?_eq_some_iff.1 hold).2, ← heq, ← hid]
    exact hidentity.id.symm

theorem aligned_created (hids : DistinctReplicaIds X ids) (hs : s.replicaTables.Consistent X ids)
    (href : s.References) (h : s.Aligned) (hknown : request.workload.id ∈ ids)
    (hsafe : s.UpdatesSafely (.createDeployment request)) {target : DeploymentTarget}
    (hnew : s.workloads.get? request.workload.id = none)
    (hbundle : validateBundle V request = .ok ())
    (hfresh : s.deployments.get? request.deployment.id = none)
    (hcontrol : create request.workload request.control = .ok target.control)
    (hreplicas : ReplicaTables.NewReplicas X request target)
    (hhead : ∃ replica, target.replicas.head? = some replica) :
    Aligned (s.storeDeployment request target binding response) := by
  obtain ⟨-, -, -, hworkload, hrevision⟩ := validateBundle_ok hbundle
  have hresized := hs.resized_of_created hids hknown hnew hcontrol hreplicas
  obtain ⟨created, hcreated, hreplicasEq, -⟩ := hreplicas
  have hinj := hresized.replica_inj hids hknown
  have hrevisions : ∀ replica ∈ target.replicas, replica.revisionId = request.revision.id ∧
      replica.workloadId = request.workload.id := by
    rw [hreplicasEq, forall_mem_map]
    intro pair hpair
    obtain ⟨ordinal, -, hnewReplica⟩ := exists_left_of_mem hcreated hpair
    obtain ⟨-, -, -, -, hid, -, hrevision, -⟩ :=
      forOrdinal_ok (ReplicaTables.newReplica_ok hnewReplica).1
    exact ⟨hrevision, hid⟩
  have hcontrolKey : target.control.key = request.workload.id := hresized.controlId
  intro id w hw
  rw [storeDeployment_workloads_of_none hnew] at hw
  simp only [storeDeployment_controls, storeDeployment_replicas, storeDeployment_deployments]
  rcases get?_insert_eq_some.1 hw with ⟨-, rfl⟩ | ⟨hne, hold⟩
  · refine ⟨request.revision.id, ?_, ?_, ?_, ?_, .inl (hsafe.2.1 hnew)⟩
    · -- the canonical replica is the one of ordinal zero, which the first replica shows to exist
      obtain ⟨replica, hreplica⟩ := hhead
      have hmem := mem_of_mem_head? hreplica
      have hlt : 0 < target.control.desiredReplicas := by
        by_contra hzero
        have hdesired : request.control.placementPolicy.desiredReplicas = 0 := by
          have := (create_ok hcontrol).1
          rw [desiredReplicas, this] at hzero
          omega
        rw [hdesired, range_zero, forall₂_nil_left_iff] at hcreated
        rw [hreplicasEq, hcreated] at hmem
        cases hmem
      obtain ⟨canonical, hcanonical, hordinal⟩ := hresized.complete 0 hlt
      have hid := (hresized.identity canonical hcanonical).2.2
      rw [hordinal] at hid
      refine ⟨canonical, (get?_insertAll_eq_some hinj).2
        (.inl ⟨hcanonical, deterministicId_zero hid⟩), (hrevisions canonical hcanonical).1⟩
    · intro rid replica control hreplica hrworkload _ _
      rcases (get?_insertAll_eq_some hinj).1 hreplica with ⟨hmem, -⟩ | ⟨-, hold⟩
      · exact (hrevisions replica hmem).1
      · exact absurd hrworkload (hs.workloadId_ne hnew hold)
    · intro did d hd hdworkload _
      rcases get?_insert_eq_some.1 hd with ⟨-, rfl⟩ | ⟨-, hold⟩
      · exact hrevision
      · obtain ⟨w, hw⟩ := (href.deployment did d hold).workload
        rw [hdworkload, hnew] at hw
        cases hw
    · intro did d hd hdworkload _
      exact .inl (hsafe.2.1 hnew)
  · obtain ⟨revisionId, hon⟩ := h id w hold
    have hid : w.id = id := (get?_eq_some_iff.1 hold).2
    have hne' : w.id ≠ request.workload.id := fun heq => hne (hid.symm.trans heq)
    refine ⟨revisionId, (hon.frame ?_ ?_ ?_).queued hfresh hsafe.1 fun heq =>
      absurd (heq.symm.trans hworkload) hne'⟩
    · rw [get?_insert, hcontrolKey, if_neg hne']
    · intro replica hreplica
      refine (get?_insertAll_eq_some hinj).2 (.inr ⟨fun r hr heq => ?_, hreplica⟩)
      exact hs.workloadId_ne hnew hreplica (hs.replica_of_identifier hids hknown
        (hresized.identity r hr).2.2 (by rw [show r.id = w.id from heq]; exact hreplica)).1
    · intro rid replica hreplica hrworkload
      rcases (get?_insertAll_eq_some hinj).1 hreplica with ⟨hmem, -⟩ | ⟨-, hold⟩
      · exact absurd (hrworkload.symm.trans (hrevisions replica hmem).2) hne'
      · exact hold

theorem aligned_updated (hs : s.replicaTables.Consistent X ids) (h : s.Aligned)
    (hsafe : s.UpdatesSafely (.createDeployment request)) {control control' : WorkloadControl}
    {changed : Bool} {member : WorkloadReplicaMember}
    (hexisting : s.workloads.get? request.workload.id = some request.workload)
    (hbundle : validateBundle V request = .ok ())
    (hfresh : s.deployments.get? request.deployment.id = none)
    (hterminal : ∀ deployment ∈ s.deployments.rows,
      deployment.workloadId = request.workload.id → deployment.status.isTerminal = true)
    (hcontrol : s.controls.get? request.workload.id = some control)
    (hauthorized : control.authorizeDeployment request.control request.revision.createdAt =
      .ok (control', changed)) (hreplica : s.replicas.get? request.workload.id = some replica)
    (hadvanced : replica.advance request.revision request.revision.createdAt = .ok replica') :
    Aligned (s.storeDeployment request ⟨control', [replica'], [member]⟩ binding response) := by
  obtain ⟨-, -, hrevisionWorkload, hworkload, hrevision⟩ := validateBundle_ok hbundle
  obtain ⟨hadvancedWorkload, -, -, heq⟩ := advance_ok hadvanced
  obtain ⟨hidentity, hdesired, -⟩ := authorizeDeployment_ok hauthorized
  have hreplicaId : replica.id = request.workload.id := (get?_eq_some_iff.1 hreplica).2
  have hreplicaWorkload : replica.workloadId = request.workload.id :=
    hadvancedWorkload.symm.trans hrevisionWorkload
  obtain ⟨hsame, hnext⟩ : replica.SameReplica replica' ∧
      replica'.revisionId = request.revision.id := by
    rw [heq]
    exact ⟨⟨rfl, rfl, rfl, rfl⟩, rfl⟩
  have hkey : replica'.key = request.workload.id := hsame.id.trans hreplicaId
  have hcontrolId : control.workloadId = request.workload.id :=
    (get?_eq_some_iff.1 hcontrol).2
  have hcontrolKey : control'.key = request.workload.id :=
    (congrArg (fun i => i.2.2.2) hidentity).trans hcontrolId
  -- the Workload has one replica, so that the one that moves on is the only one that is wanted
  have hone : control'.desiredReplicas = 1 :=
    hdesired.trans (hsafe.2.2 (by rw [hexisting]; nofun) control
      (get?_eq_some_iff.1 hcontrol).1 hcontrolId)
  intro id w hw
  rw [storeDeployment_workloads_of_some hexisting] at hw
  simp only [storeDeployment_controls, storeDeployment_replicas, storeDeployment_deployments]
  show ∃ revisionId, OnRevision (s.controls.insert control') (s.replicas.insert replica')
    (s.deployments.insert request.deployment) w revisionId
  have hid : w.id = id := (get?_eq_some_iff.1 hw).2
  by_cases hsameWorkload : id = request.workload.id
  · subst hsameWorkload
    rw [hexisting] at hw
    cases hw
    have hopen : request.deployment.status.isTerminal = false := by
      rw [hsafe.1]
      rfl
    refine ⟨request.revision.id, ⟨replica', ?_, hnext⟩, ?_, ?_, ?_, .inr (.inr
      ⟨_, request.deployment, get?_insert_self _ _, hworkload, hopen⟩)⟩
    · exact get?_insert_eq_some.2 (.inl ⟨hkey.symm, rfl⟩)
    · intro rid r c hr hrworkload hc hlt
      rw [get?_insert, if_pos hcontrolKey.symm] at hc
      cases hc
      rcases get?_insert_eq_some.1 hr with ⟨-, rfl⟩ | ⟨hne, hold⟩
      · exact hnext
      · have hzero : r.ordinal = 0 := by omega
        have hident := (hs.stored rid r hold).identifier
        rw [hrworkload, hzero] at hident
        rw [hkey, ← deterministicId_zero hident] at hne
        exact absurd (get?_eq_some_iff.1 hold).2.symm hne
    · intro did d hd hdworkload hdopen
      rcases get?_insert_eq_some.1 hd with ⟨-, rfl⟩ | ⟨-, hold⟩
      · exact hrevision
      · rw [hterminal d (get?_eq_some_iff.1 hold).1 hdworkload] at hdopen
        cases hdopen
    · intro did d hd hdworkload hretiring
      rcases get?_insert_eq_some.1 hd with ⟨-, rfl⟩ | ⟨-, hold⟩
      · rw [hsafe.1] at hretiring
        cases hretiring
      · have hdone := hterminal d (get?_eq_some_iff.1 hold).1 hdworkload
        rw [hretiring] at hdone
        cases hdone
  · obtain ⟨revisionId, hon⟩ := h id w hw
    have hne : w.id ≠ request.workload.id := fun heq => hsameWorkload (hid.symm.trans heq)
    refine ⟨revisionId, (hon.frame ?_ ?_ ?_).queued hfresh hsafe.1 fun heq =>
      absurd (heq.symm.trans hworkload) hne⟩
    · rw [get?_insert, hcontrolKey, if_neg hne]
    · intro r hr
      rw [get?_insert, hkey, if_neg hne]
      exact hr
    · intro rid r hr hrworkload
      rcases get?_insert_eq_some.1 hr with ⟨-, rfl⟩ | ⟨-, hold⟩
      · exact absurd (hrworkload.symm.trans (hsame.workloadId.trans hreplicaWorkload)) hne
      · exact hold

section Planned

variable {workload : Workload} {control : WorkloadControl} {revision : WorkloadRevision}
  {desired : ℕ} {time : ℤ} {plan : ReplicaSetReconfiguration} {revisionId : Uuid}

section OfPlanned

variable (hs : s.replicaTables.Consistent X ids)
  (hon : OnRevision s.controls s.replicas s.deployments workload revisionId)
  (hworkload : s.workloads.get? workload.id = some workload)
  (hplanned : ReplicaSet.Planned X workload control revision
    (s.replicaTables.replicasOf workload) desired time plan)

include hs hon hworkload hplanned

/-- A plan is made for the revision of the canonical replica. -/
theorem OnRevision.eq_of_planned : revision.id = revisionId := by
  obtain ⟨replica, hreplica, hordinal, hrevision⟩ := hplanned.canonical
  obtain ⟨hget, hid⟩ := (hs.mem_replicasOf hworkload).1 hreplica
  have hident := (hs.stored _ replica hget).identifier
  rw [hordinal, hid] at hident
  obtain ⟨canonical, hcanonical, hcanonicalRevision⟩ := hon.canonical
  rw [show s.replicaTables.replicas = s.replicas from rfl, deterministicId_zero hident,
    hcanonical] at hget
  cases hget
  exact hrevision.symm.trans hcanonicalRevision

theorem OnRevision.below_of_planned (hcontrol : s.controls.get? workload.id = some control)
    (hreplica' : replica' ∈ plan.replicas) (hlt : replica'.ordinal < desired) :
    replica'.revisionId = revisionId := by
  have hrevision := hon.eq_of_planned hs hworkload hplanned
  rcases hplanned.origin replica' hreplica' with ⟨replica, hreplica, hmoved⟩ | ⟨m, -, hcreated⟩
  · obtain ⟨hget, hid⟩ := (hs.mem_replicasOf hworkload).1 hreplica
    cases hmoved with
    | kept =>
      by_cases hbefore : replica'.ordinal < control.desiredReplicas
      · exact hon.below _ replica' control hget hid hcontrol hbefore
      · -- a replica beyond the old number is not wanted, so it cannot have been kept
        obtain ⟨current, hcurrent, hordinal, hdesired⟩ := hplanned.next.1 _ hlt
        rw [inj_on_of_nodup_map hplanned.distinct hcurrent hreplica' hordinal] at hdesired
        have hfits := (hs.stored _ replica' hget).fits control (by rw [hid]; exact hcontrol)
        rw [Fits, if_neg hbefore, hdesired] at hfits
        rcases hfits with ⟨hretiring, -⟩ | hretired
        · cases hretiring
        · cases hretired
    | retired hlow hhigh hretired =>
      rcases requestRetirement_ok hretired with ⟨-, rfl⟩ | ⟨-, rfl⟩ <;>
        exact absurd hlt (not_lt.2 hlow)
    | reactivated hlow hhigh hreactivated =>
      obtain ⟨-, rfl⟩ := reactivate_ok hreactivated
      exact hrevision
  · obtain ⟨-, -, -, -, -, -, hcreatedRevision, -⟩ :=
      forOrdinal_ok hcreated.ofOrdinal
    exact hcreatedRevision.trans hrevision

theorem OnRevision.canonical_of_planned
    (hcanonicalWorkload : ∀ replica, s.replicas.get? workload.id = some replica →
      replica.workloadId = workload.id) :
    ∃ replica' ∈ plan.replicas, replica'.id = workload.id ∧ replica'.revisionId = revisionId := by
  obtain ⟨canonical, hcanonical, hcanonicalRevision⟩ := hon.canonical
  have hid : canonical.id = workload.id := (get?_eq_some_iff.1 hcanonical).2
  obtain ⟨replica', hreplica', hmoved⟩ := hplanned.moved canonical
    ((hs.mem_replicasOf hworkload).2 ⟨get?_key hcanonical, hcanonicalWorkload _ hcanonical⟩)
  refine ⟨replica', hreplica', (ReplicaTables.moved_continues hmoved).id.trans hid, ?_⟩
  cases hmoved with
  | kept => exact hcanonicalRevision
  | retired _ _ hretired =>
    rcases requestRetirement_ok hretired with ⟨-, rfl⟩ | ⟨-, rfl⟩ <;>
      exact hcanonicalRevision
  | reactivated _ _ hreactivated =>
    obtain ⟨-, rfl⟩ := reactivate_ok hreactivated
    exact hon.eq_of_planned hs hworkload hplanned

end OfPlanned

theorem deterministicId_canonical (workloadId : Uuid) :
    deterministicId X workloadId 0 = .ok workloadId := rfl

theorem aligned_reconfigured (hids : DistinctReplicaIds X ids)
    (hs : s.replicaTables.Consistent X ids) (h : s.Aligned)
    {idempotency : IdempotencyTable ReplicaSetWriteResult}
    (hworkload : s.workloads.get? workload.id = some workload)
    (hcontrol : s.controls.get? workload.id = some control)
    (hplanned : ReplicaSet.Planned X workload control revision
      (s.replicaTables.replicasOf workload) desired time plan)
    (hmembers : ∀ member ∈ plan.membersToCreate, s.members.get? member.id = none) :
    Aligned { s with
      members := s.members.insertAll plan.membersToCreate
      replicas := s.replicas.insertAll plan.replicas
      controls := s.controls.insert plan.control
      replicaSetIdempotency := idempotency } := by
  have hknown : ∀ {id w}, s.workloads.get? id = some w → id ∈ ids := fun hw => hs.known _ _ hw
  have hresized := hs.resized_of_planned hids hworkload hcontrol hplanned hmembers
  have hinj := hresized.replica_inj hids (hknown hworkload)
  have hcontrolKey : plan.control.key = workload.id := hresized.controlId
  have hcanonical : ∀ {id w replica}, s.workloads.get? id = some w →
      s.replicas.get? id = some replica → replica.workloadId = id := fun hw hreplica =>
    (hs.replica_of_identifier hids (hknown hw) (deterministicId_canonical _) hreplica).1
  intro id w hw
  have hw' : s.workloads.get? id = some w := hw
  have hid : w.id = id := (get?_eq_some_iff.1 hw').2
  show ∃ revisionId, OnRevision (s.controls.insert plan.control)
    (s.replicas.insertAll plan.replicas) s.deployments w revisionId
  obtain ⟨revisionId, hon⟩ := h id w hw'
  refine ⟨revisionId, ?_⟩
  by_cases hsame : id = workload.id
  · subst hsame
    rw [hworkload] at hw'
    cases hw'
    refine ⟨?_, ?_, hon.unfinished, hon.retiring, hon.active⟩
    · obtain ⟨canonical, hmem, hcanonicalId, hrevision⟩ :=
        hon.canonical_of_planned hs hworkload hplanned fun _ => hcanonical hworkload
      exact ⟨canonical, (get?_insertAll_eq_some hinj).2 (.inl ⟨hmem, hcanonicalId⟩),
        hrevision⟩
    · intro rid replica c hreplica hrworkload hc hlt
      rw [get?_insert, hcontrolKey, if_pos rfl] at hc
      cases hc
      rcases (get?_insertAll_eq_some hinj).1 hreplica with ⟨hmem, -⟩ | ⟨hnot, hold⟩
      · exact hon.below_of_planned hs hworkload hplanned hcontrol hmem
          (hplanned.desiredReplicas ▸ hlt)
      · obtain ⟨replica', hmem, hrid, -⟩ := hresized.kept rid replica hold hrworkload
        exact absurd hrid (hnot replica' hmem)
  · have hne : w.id ≠ workload.id := fun heq => hsame (hid.symm.trans heq)
    refine hon.frame ?_ ?_ ?_
    · rw [get?_insert, hcontrolKey, if_neg hne]
    · intro replica hreplica
      refine (get?_insertAll_eq_some hinj).2 (.inr ⟨fun r hr heq => ?_, hreplica⟩)
      have hworkloadId := (hs.replica_of_identifier hids (hknown hworkload)
        (hresized.identity r hr).2.2 (by rw [show r.id = w.id from heq]; exact hreplica)).1
      rw [hid] at hreplica
      exact hsame ((hcanonical hw' hreplica).symm.trans hworkloadId)
    · intro rid replica hreplica hrworkload
      rcases (get?_insertAll_eq_some hinj).1 hreplica with ⟨hmem, -⟩ | ⟨-, hold⟩
      · exact absurd (hrworkload.symm.trans (hresized.identity replica hmem).1) hne
      · exact hold

end Planned

/-- A safe step keeps the Workloads on their revisions. -/
theorem aligned_step (hids : DistinctReplicaIds X ids) (hs : s.replicaTables.Consistent X ids)
    (href : s.References) (h : s.Aligned) (hknown : CreatesIn ids action)
    (hsafe : s.step X V action ≠ s → s.UpdatesSafely action) : (s.step X V action).Aligned := by
  by_cases hsame : s.step X V action = s
  · rw [hsame]
    exact h
  replace hsafe := hsafe hsame
  have hchange := step_change (X := X) (V := V) s action
  generalize s.step X V action = s' at hchange
  -- a change of one replica that keeps its revision
  have hreplicaChange : ∀ {replica replica' : WorkloadReplica},
      s.replicas.get? replica.id = some replica → replica.SameReplica replica' →
      replica'.revisionId = replica.revisionId → ∀ id workload,
        s.workloads.get? id = some workload → ∃ revisionId,
          OnRevision s.controls (s.replicas.insert replica') s.deployments workload revisionId := by
    intro replica replica' hreplica hsame hrevision id workload hworkload
    obtain ⟨revisionId, hon⟩ := h id workload hworkload
    exact ⟨revisionId, hon.withReplica hreplica hsame hrevision⟩
  cases hchange with
  | unchanged | revisionResolved | runtimeBound => exact h
  | deploymentMoved deployment deployment' idempotency hdeployment hmoved =>
    intro id workload hworkload
    obtain ⟨revisionId, hon⟩ := h id workload hworkload
    exact ⟨revisionId, hon.moved (get?_eq_some_iff.2 ⟨hdeployment, rfl⟩) hmoved⟩
  | deploymentEnded deployment deployment' hdeployment hended haction =>
    intro id workload hworkload
    obtain ⟨revisionId, hon⟩ := h id workload hworkload
    refine ⟨revisionId, hon.ended (get?_eq_some_iff.2 ⟨hdeployment, rfl⟩) hended
      fun heq => ?_⟩
    have hmem := (get?_eq_some_iff.1 hworkload).1
    rcases haction with ⟨_, _, _, rfl⟩ | ⟨_, _, rfl⟩
    · exact hsafe deployment hdeployment rfl workload hmem heq.symm
    · exact hsafe deployment hdeployment rfl workload hmem heq.symm
  | workloadStopped workload workload' idempotency hworkload hsame hstopped hactive =>
    intro id w hw
    rcases get?_insert_eq_some.1 hw with ⟨-, rfl⟩ | ⟨-, hold⟩
    · obtain ⟨revisionId, hon⟩ := h _ workload (get?_eq_some_iff.2 ⟨hworkload, rfl⟩)
      exact ⟨revisionId, hon.withWorkload hsame.id (hactive.imp_right .inl)⟩
    · exact h id w hold
  | created request target binding response haction hnew hbundle hfresh hcontrol hreplicas
      hbinding =>
    subst haction
    obtain ⟨replica, -, hhead, -⟩ := hbinding
    exact aligned_created hids hs href h hknown hsafe hnew hbundle hfresh.2.1 hcontrol hreplicas
      ⟨replica, hhead⟩
  | updated request control control' changed replica replica' member binding response haction
      hexisting hbundle hfresh hterminal hcontrol hauthorized hreplica hadvanced hmember hbinding =>
    subst haction
    exact aligned_updated hs h hsafe hexisting hbundle hfresh.2.1 hterminal hcontrol hauthorized
      hreplica hadvanced
  | reconfigured workload control revision write plan idempotency hworkload hcontrol hrevision
      hplanned hmembers =>
    exact aligned_reconfigured hids hs h hworkload hcontrol hplanned hmembers
  | assigned deployment deployment' binding binding' member member' nodeId time hdeployment hdesired
      hmoved hbinding hmember hplaced hassigned =>
    intro id workload hworkload
    obtain ⟨revisionId, hon⟩ := h id workload hworkload
    exact ⟨revisionId, hon.moved hdeployment hmoved⟩
  | activated deployment deployment' workload workload' hdeployment hdesired hworkload hsame hstatus
      hidentity hactive =>
    exact aligned_activated href h hdeployment hdesired hworkload hsame hidentity hactive
  | materialized workload control revision replica member deployment binding hworkload hcontrol
      hrevision hreplica hmember hwanted hunbound hcreated hbinding hfresh =>
    intro id w hw
    obtain ⟨revisionId, hon⟩ := h id w hw
    refine ⟨revisionId, hon.queued hfresh.1 hcreated.2.2 fun heq => ?_⟩
    have hordinal : replica.ordinal < control.desiredReplicas := by
      simp only [replicaWanted, decide_eq_true_eq] at hwanted
      exact hwanted.2.2.2
    have hworkloadId : replica.workloadId = w.id := hcreated.1.symm.trans heq
    exact hcreated.2.1.trans (hon.below _ replica control hreplica hworkloadId
      (hworkloadId ▸ hcontrol) hordinal)
  | evacuationRequested control replica nodeId time hcontrol hreplica =>
    exact hreplicaChange hreplica ⟨rfl, rfl, rfl, rfl⟩ rfl
  | replicaRetires replica replica' hreplica hretires =>
    refine hreplicaChange hreplica (Retires.same hretires).1.toSameReplica ?_
    cases hretires <;> rfl
  | replicaFinished control replica replica' member member' fencedNodeId time hcontrol hreplica
      hmember hmemberReplica hretiring hremains hfenced hreleased hfinished =>
    rcases hfinished with ⟨-, rfl⟩ | ⟨-, rfl⟩
    · exact hreplicaChange hreplica ⟨rfl, rfl, rfl, rfl⟩ rfl
    · exact hreplicaChange hreplica ⟨rfl, rfl, rfl, rfl⟩ rfl

/-! ### Runs -/

/-- The wanted replicas of a Workload that is on its active revision are looked after. -/
theorem reconciled_of_aligned (href : s.References) (h : s.Aligned) : s.ActiveRevisionsReconciled := by
  intro limit hpositive hbound hdeployments hreplicas workload hworkload revisionId hsettled replica
    hreplica hwants
  obtain ⟨hrunning, hactive, hterminal⟩ := hsettled
  obtain ⟨hrworkload, hdesired, control, hcontrolMem, hcontrolId, hordinal⟩ := hwants
  have hstored : s.workloads.get? workload.id = some workload :=
    get?_eq_some_iff.2 ⟨hworkload, rfl⟩
  have hcontrol : s.controls.get? workload.id = some control :=
    get?_eq_some_iff.2 ⟨hcontrolMem, hcontrolId⟩
  have hget : s.replicas.get? replica.id = some replica :=
    get?_eq_some_iff.2 ⟨hreplica, rfl⟩
  obtain ⟨onRevision, hon⟩ := h _ workload hstored
  obtain rfl : onRevision = revisionId := by
    rcases hon.active with hnone | hsome | ⟨id, d, hd, hdworkload, hopen⟩
    · rw [hactive] at hnone
      cases hnone
    · rw [hactive] at hsome
      exact (Option.some.inj hsome).symm
    · rw [hterminal d (get?_eq_some_iff.1 hd).1 hdworkload] at hopen
      cases hopen
  have hrevision := hon.below _ replica control hget hrworkload hcontrol hordinal
  cases hbinding : s.generationBinding replica with
  | none =>
    refine .inr (.inl (isCandidate_of_isPending ⟨hpositive, hbound⟩ hreplicas hreplica ?_))
    obtain ⟨htopology, hmembers⟩ := href.control _ control hcontrol
    simp only [isPending, hrworkload, hstored, hcontrol, replicaWanted, hdesired, hrunning, hactive,
      hrevision, hordinal, htopology, hmembers, hbinding, Option.all_some, decide_true, and_self]
  | some binding =>
    have hmem := mem_of_find?_eq_some hbinding
    have hfound := find?_some hbinding
    simp only [decide_eq_true_eq] at hfound
    obtain ⟨hreplicaId, hgeneration⟩ := hfound
    have hbindingGet : s.bindings.get? binding.deploymentId = some binding :=
      get?_eq_some_iff.2 ⟨hmem, rfl⟩
    obtain ⟨⟨deployment, hdeployment⟩, -, stored, hstoredReplica, hbworkload, hbrevision⟩ :=
      href.binding _ binding hbindingGet
    rw [hreplicaId, hget] at hstoredReplica
    cases hstoredReplica
    obtain ⟨hdmem, hdid⟩ := get?_eq_some_iff.1 hdeployment
    have hdkey : deployment.id = binding.deploymentId := hdid
    obtain ⟨binding', hbinding', hdworkload, hdrevision⟩ :=
      (href.deployment _ deployment hdeployment).binding
    rw [hdkey, hbindingGet] at hbinding'
    cases hbinding'
    have hrevisionEq : deployment.revisionId = onRevision := by
      rw [← hdrevision, ← hbrevision hgeneration, hrevision]
    have hdworkloadId : deployment.workloadId = workload.id :=
      hdworkload.symm.trans (hbworkload.symm.trans hrworkload)
    have hdone := hterminal deployment hdmem hdworkloadId
    have hended : deployment.status = .active ∨ deployment.status = .failed ∨
        deployment.status = .orphaned ∨ deployment.status = .cancelled := by
      revert hdone
      cases deployment.status <;> simp [DeploymentStatus.isTerminal]
    rcases hended with hserving | hended
    · refine .inl (hrevisionEq ▸ href.isTarget ⟨hpositive, hbound⟩ hdeployments hdmem ?_
        (hdkey ▸ hbindingGet) (hreplicaId ▸ hget) hdesired (hbrevision hgeneration)
        hgeneration.symm)
      simp only [isActiveDeployment, hdworkloadId, hstored, Option.any_some, hrunning, hactive,
        hrevisionEq, hserving, or_true, and_self, decide_true]
    · exact .inr (.inr ⟨binding, hmem, hreplicaId, hgeneration, deployment, hdmem, hdkey,
        hrevisionEq, hended⟩)

/-- What is kept along a run of safe operations. -/
structure Reconcilable (X : External) (ids : Set Uuid) (s : WorkloadStore) : Prop where
  consistent : s.replicaTables.Consistent X ids
  references : s.References
  aligned : s.Aligned

theorem reconcilable_run (hids : DistinctReplicaIds X ids) {actions : List WorkloadAction}
    (hsafe : Runs.Allowed (step X V) (fun s action => CreatesIn ids action ∧
      (s.step X V action ≠ s → s.UpdatesSafely action)) empty actions) :
    Reconcilable X ids (Runs.run (step X V) empty actions) :=
  Runs.invariant (I := Reconcilable X ids)
    (fun _ _ h hok => ⟨(consistent_step hids h.consistent hok.1).1,
      references_step hids h.consistent h.references hok.1,
      aligned_step hids h.consistent h.references h.aligned hok.1 hok.2⟩)
    ⟨ReplicaTables.consistent_empty, references_empty, aligned_empty⟩ hsafe

/-- After a run of safe operations the wanted replicas of every Workload on an active revision are
looked after. -/
theorem activeRevisions_reconciled (X : External) (V : WorkloadServices) (ids : Set Uuid)
    (hids : DistinctReplicaIds X ids) (actions : List WorkloadAction)
    (hsafe : Runs.Allowed (step X V) (fun s action => CreatesIn ids action ∧
      (s.step X V action ≠ s → s.UpdatesSafely action)) empty actions) :
    (Runs.run (step X V) empty actions).ActiveRevisionsReconciled :=
  have h := reconcilable_run hids hsafe
  reconciled_of_aligned h.references h.aligned

end WorkloadStore

/-! ### Updates -/

namespace Sample

open WorkloadStore

def succeededUpdate : List WorkloadAction := updated ++ rollOut 52 20

theorem succeededUpdate_safe : Runs.Allowed (step replicaExternal services)
    (fun s action => CreatesIn {workloadId} action ∧ s.UpdatesSafely action) empty
    succeededUpdate := by
  decide +kernel

theorem activeRevisions_reconciled_updated :
    (∃ workload ∈ (Runs.run (step replicaExternal services) empty succeededUpdate).workloads.rows,
      (Runs.run (step replicaExternal services) empty succeededUpdate).Settled workload 42) ∧
      (Runs.run (step replicaExternal services) empty
        succeededUpdate).ActiveRevisionsReconciled :=
  ⟨by decide +kernel, activeRevisions_reconciled replicaExternal services {workloadId}
    distinctReplicaIds succeededUpdate (Runs.Allowed.mono (fun _ _ h => ⟨h.1, fun _ => h.2⟩)
      succeededUpdate_safe)⟩

/-- The update fails before it runs. -/
def failedUpdate : List WorkloadAction := updated ++ [.fail 52 1 "image not found" (seconds 20)]

/-- The replica beside the canonical one. -/
def secondReplica : ReplicaDeploymentCandidate where
  organizationId := 20
  workloadId := workloadId
  replicaId := replicaExternal.uuidV5 workloadId "a3s.cloud.workload-replica.v1:1"
  replicaOrdinal := 1
  revisionId := 41
  revisionGeneration := 1
  replicaGeneration := 1

/-- Two replicas run the first revision, then the update succeeds. -/
def updateOfTwo : List WorkloadAction :=
  .createDeployment (deployRevision workload 2 1) :: rollOut 51 10 ++
    .materializeReplicaDeployment secondReplica (seconds 20) ::
      rollOut (replicaDeploymentId replicaExternal secondReplica) 20 ++
    .createDeployment (deployRevision (activatedWorkload 25) 2 2) :: rollOut 52 30

def reached (actions : List WorkloadAction) : WorkloadStore :=
  Runs.run (step replicaExternal services) empty actions

/-- A wanted replica of a Workload on an active revision that nothing looks after. -/
def LeftOut (s : WorkloadStore) (revisionId : Uuid) : Prop :=
  ∃ workload ∈ s.workloads.rows, s.Settled workload revisionId ∧
    ∃ replica ∈ s.replicas.rows, s.Wants workload replica ∧
      ¬ s.ReplicaReconciled 100 revisionId replica

instance (s : WorkloadStore) (revisionId : Uuid) : Decidable (LeftOut s revisionId) := by
  unfold LeftOut
  infer_instance

/-- The replica of the failed update is left out, and so is the second replica after the update that
succeeded. -/
theorem updates_leave_replicas_out :
    LeftOut (reached failedUpdate) 41 ∧ LeftOut (reached updateOfTwo) 42 := by
  decide +kernel

end Sample

end A3SCloud
