import A3SCloud.Workloads.References
import A3SCloud.Workloads.Reservation

/-!
# Proposed and real placements

The scheduling step of `modules/workloads/infrastructure/deployment_flow/steps.rs` reserves resources
for a placement that it only proposes, and the member is placed afterwards. The proposal is computed
from the binding alone, while the generation of a placement is counted by the member.

* `reservationMatches` is the check of a reservation in
  `modules/workloads/infrastructure/persistence/postgres/resource_claims.rs`, `claimMatchesBinding`
  the comparison of a claim with its binding in `modules/workloads/application/bound_runtime_claim.rs`.
* `Placements` is what holds of the placement generations in every state of the repository.
-/

namespace A3SCloud

open Checks DeploymentReplicaBinding Table

/-! ### The checks -/

/-- The member check of `reserve_new_claim_in_transaction`. -/
def memberMatches (member : WorkloadReplicaMember) (reservation : ResourceClaimReservation) : Bool :=
  match member.nodeId with
  | some nodeId => nodeId = reservation.nodeId ∧
      member.placementGeneration = reservation.binding.placementGeneration
  | none => checkedAdd member.placementGeneration 1 = some reservation.binding.placementGeneration

/-- The reservation is for the stored binding, or for the placement that it proposes. -/
def reservationMatches (persisted : DeploymentReplicaBinding) (member : WorkloadReplicaMember)
    (reservation : ResourceClaimReservation) : Bool :=
  persisted = reservation.binding ∨ (memberMatches member reservation ∧
    (persisted.proposeAssignment reservation.nodeId reservation.binding.updatedAt).toOption =
      some reservation.binding)

def claimMatchesBinding (claim : ResourceClaimIdentity) (binding : DeploymentReplicaBinding) :
    Bool :=
  binding.organizationId = claim.organizationId ∧ binding.projectId = claim.projectId ∧
    binding.environmentId = claim.environmentId ∧ binding.workloadId = claim.workloadId ∧
    binding.deploymentId = claim.deploymentId ∧ binding.replicaId = claim.replicaId ∧
    binding.replicaGeneration = claim.replicaGeneration ∧ binding.memberId = claim.memberId ∧
    binding.placementGeneration = claim.placementGeneration ∧
    binding.nodeId = some claim.nodeId ∧ binding.runtimeUnitId = claim.runtimeUnitId ∧
    binding.runtimeGeneration = claim.runtimeGeneration

def scheduledReservation (claimId : Uuid) (candidate : DeploymentReplicaBinding) (nodeId : Uuid)
    (inventory : NodeResourceInventory) (topologyDigest : DigestText)
    (slots : List ResourceSlotRequest) (now : ℤ) : ResourceClaimReservation where
  id := claimId
  binding := candidate
  nodeId := nodeId
  inventory := inventory
  topologyDigest := topologyDigest
  slots := slots
  reservedAt := now

/-- The proposal has the generation of the real placement. -/
def Predicts (binding : DeploymentReplicaBinding) (member : WorkloadReplicaMember) (nodeId : Uuid) :
    Prop :=
  member.placementGeneration = 0 ∨ (member.nodeId = some nodeId ∧
    member.placementGeneration = max 1 binding.placementGeneration)

instance (binding : DeploymentReplicaBinding) (member : WorkloadReplicaMember) (nodeId : Uuid) :
    Decidable (Predicts binding member nodeId) :=
  inferInstanceAs (Decidable (_ ∨ _))

/-! ### One placement -/

section Placement

variable {binding proposed assigned : DeploymentReplicaBinding}
  {member member' : WorkloadReplicaMember} {deployment : Deployment} {nodeId : Uuid} {time : ℤ}

theorem proposeAssignment_ok (h : binding.proposeAssignment nodeId time = .ok proposed) :
    binding.nodeId = none ∧ proposed = { binding with
      nodeId := some nodeId
      placementGeneration := max 1 binding.placementGeneration
      updatedAt := canonicalTimestamp time } := by
  simp only [proposeAssignment, ok_rules, not_or, Bool.not_eq_true, Option.isSome_eq_false_iff,
    Option.isNone_iff_eq_none] at h
  obtain ⟨⟨hnode, -⟩, rfl⟩ := h
  refine ⟨hnode, ?_⟩
  congr 1
  split_ifs with hzero
  · rw [hzero]
    rfl
  · omega

theorem place_generation (h : member.place nodeId time = .ok member') :
    (member.nodeId = some nodeId ∧ member'.placementGeneration = member.placementGeneration) ∨
      (member.nodeId = none ∧ member'.placementGeneration = member.placementGeneration + 1 ∧
        member.placementGeneration + 1 < 2 ^ 64) := by
  rcases WorkloadReplicaMember.place_ok h with ⟨hnode, rfl⟩ | ⟨hnode, hlt, rfl⟩
  · exact .inl ⟨hnode, rfl⟩
  · exact .inr ⟨hnode, rfl, hlt⟩

/-- The proposal is checked against the member and compared with the real placement. -/
structure PlacementPredicted (binding : DeploymentReplicaBinding) (member : WorkloadReplicaMember)
    (nodeId : Uuid) (now : ℤ) (proposed assigned : DeploymentReplicaBinding) (p : Prop) : Prop where
  generation : proposed.placementGeneration = assigned.placementGeneration ↔ p
  memberMatches : ∀ claimId inventory topologyDigest slots, memberMatches member
    (scheduledReservation claimId proposed nodeId inventory topologyDigest slots now) = true ↔ p
  reservationMatches : ∀ claimId inventory topologyDigest slots, reservationMatches binding member
    (scheduledReservation claimId proposed nodeId inventory topologyDigest slots now) = true ↔ p
  claimMatches : ∀ X claimId inventory topologyDigest slots bindings claim,
    ResourceClaim.reserve X (scheduledReservation claimId proposed nodeId inventory topologyDigest
      slots now) bindings = .ok claim →
    (claimMatchesBinding claim.toResourceClaimIdentity assigned = true ↔ p)

/-- Whether a proposal is right depends on the generations of the binding and the member alone. -/
theorem placementPredicted_of_generation
    (hproposed : binding.proposeAssignment nodeId time = .ok proposed)
    (hplaced : member.place nodeId time = .ok member')
    (hassigned : binding.assign deployment member' = .ok assigned) :
    PlacementPredicted binding member nodeId time proposed assigned
      (max 1 binding.placementGeneration = member'.placementGeneration) := by
  obtain ⟨hunplaced, heq⟩ := proposeAssignment_ok hproposed
  have hmember : ∀ claimId inventory topologyDigest slots, memberMatches member
      (scheduledReservation claimId proposed nodeId inventory topologyDigest slots time) = true ↔
        max 1 binding.placementGeneration = member'.placementGeneration := by
    intro claimId inventory topologyDigest slots
    have hgeneration : proposed.placementGeneration = max 1 binding.placementGeneration := by
      rw [heq]
    rcases place_generation hplaced with ⟨hnode, hsame⟩ | ⟨hnode, hnext, hlt⟩
    · simp only [memberMatches, hnode, scheduledReservation, hgeneration, hsame, true_and,
        decide_eq_true_eq]
      exact eq_comm
    · simp only [memberMatches, hnode, scheduledReservation, hgeneration, hnext,
        checkedAdd_eq_some, decide_eq_true_eq, hlt, and_true]
      exact eq_comm
  obtain ⟨hid, hnode, -, rfl⟩ := assign_ok hassigned
  refine ⟨by rw [heq], hmember, ?_, ?_⟩
  · intro claimId inventory topologyDigest slots
    have hagain : (binding.proposeAssignment nodeId proposed.updatedAt).toOption =
        some proposed := by
      have hsame : binding.proposeAssignment nodeId proposed.updatedAt =
          binding.proposeAssignment nodeId time := by
        simp only [heq, proposeAssignment, canonicalTimestamp_idem]
      rw [hsame, hproposed]
      rfl
    have hne : binding ≠ proposed := by
      intro hsame
      have := congrArg DeploymentReplicaBinding.nodeId (hsame.trans heq)
      rw [hunplaced] at this
      cases this
    rw [← hmember claimId inventory topologyDigest slots]
    simp only [reservationMatches, decide_eq_true_eq]
    constructor
    · rintro (hsame | ⟨hmatches, -⟩)
      · exact absurd hsame hne
      · exact hmatches
    · exact fun hmatches => .inr ⟨hmatches, hagain⟩
  · intro X claimId inventory topologyDigest slots bindings claim hclaim
    obtain ⟨rfl, -⟩ := ResourceClaim.reserve_ok hclaim
    have hplacedNode : member'.nodeId = some nodeId := by
      rcases WorkloadReplicaMember.place_ok hplaced with ⟨hthere, rfl⟩ | ⟨-, -, rfl⟩
      · exact hthere
      · rfl
    subst heq
    simp only [claimMatchesBinding, ResourceClaim.sealed, ResourceClaim.unsealed,
      ResourceClaimReservation.identity, scheduledReservation, hnode, hplacedNode, true_and,
      and_true, decide_eq_true_eq]
    exact eq_comm

end Placement

/-! ### Placement generations in every state -/

namespace ReplicaTables

variable {X : External} {ids : Set Uuid} {t t' : ReplicaTables}
  {binding : DeploymentReplicaBinding}

/-- A binding is never ahead of its member, and has the generation of the member while it is
unplaced and for the current generation of its replica. -/
structure BindingPlaced (t : ReplicaTables) (binding : DeploymentReplicaBinding) : Prop where
  memberReplica : binding.memberId = binding.replicaId
  generation : ∃ member, t.members.get? binding.memberId = some member ∧
    binding.placementGeneration ≤ member.placementGeneration ∧
    (binding.nodeId = none → ∀ replica, t.replicas.get? binding.replicaId = some replica →
      binding.replicaGeneration = replica.generation →
      binding.placementGeneration = member.placementGeneration)

/-- What holds of the placement generations. -/
structure Placements (t : ReplicaTables) : Prop where
  member : ∀ id member, t.members.get? id = some member → member.nodeId ≠ none →
    1 ≤ member.placementGeneration
  binding : ∀ id binding, t.bindings.get? id = some binding → t.BindingPlaced binding

theorem placements_empty : Placements WorkloadStore.empty.replicaTables := by
  constructor <;> intros <;> simp_all [WorkloadStore.replicaTables, WorkloadStore.empty]

/-- Members that keep their placement generations and are at most released. -/
def MembersKept (t t' : ReplicaTables) : Prop :=
  ∀ id member, t.members.get? id = some member → ∃ member', t'.members.get? id = some member' ∧
    member'.placementGeneration = member.placementGeneration ∧
    (member'.nodeId = member.nodeId ∨ member'.nodeId = none)

theorem MembersKept.of_get? (h : ∀ id member, t.members.get? id = some member →
    t'.members.get? id = some member) : t.MembersKept t' :=
  fun id member hmember => ⟨member, h id member hmember, rfl, .inl rfl⟩

/-- A binding that is for the current generation of its replica after a step was so before. -/
theorem Consistent.current_of_evolves (ht : t.Consistent X ids) (hevolves : t.Evolves t')
    {id : Uuid} (hbinding : t.bindings.get? id = some binding) {replica' : WorkloadReplica}
    (hreplica' : t'.replicas.get? binding.replicaId = some replica')
    (hcurrent : binding.replicaGeneration = replica'.generation) :
    ∃ replica, t.replicas.get? binding.replicaId = some replica ∧
      binding.replicaGeneration = replica.generation := by
  obtain ⟨replica, hreplica, hle⟩ := ht.bound _ binding hbinding
  obtain ⟨next, hnext, hcontinues⟩ := hevolves.replica _ replica hreplica
  rw [hreplica'] at hnext
  cases hnext
  have := hcontinues.generation
  exact ⟨replica, hreplica, by omega⟩

/-- A step that places no member keeps the placement generations, if those of new bindings fit. -/
theorem Placements.keep (h : t.Placements) (ht : t.Consistent X ids) (hevolves : t.Evolves t')
    (hkept : t.MembersKept t') (hbindings : ∀ id binding, t'.bindings.get? id = some binding →
      t.bindings.get? id = some binding ∨ t'.BindingPlaced binding) : t'.Placements where
  member id member' hmember' hnode := by
    cases hmember : t.members.get? id with
    | none => exact absurd (hevolves.newMember id member' hmember' hmember) hnode
    | some member =>
      obtain ⟨next, hnext, hgeneration, hsame | hreleased⟩ := hkept id member hmember <;>
        rw [hmember'] at hnext <;> cases hnext
      · rw [hgeneration]
        exact h.member id member hmember (hsame ▸ hnode)
      · exact absurd hreleased hnode
  binding id binding hbinding := by
    rcases hbindings id binding hbinding with hold | hnew
    · obtain ⟨hreplicaId, member, hmember, hle, heq⟩ := h.binding id binding hold
      obtain ⟨member', hmember', hgeneration, -⟩ := hkept _ member hmember
      refine ⟨hreplicaId, member', hmember', hgeneration ▸ hle, fun hnone replica' hreplica' hcur =>
        ?_⟩
      obtain ⟨replica, hreplica, hcurrent⟩ :=
        ht.current_of_evolves hevolves hold hreplica' hcur
      rw [hgeneration]
      exact heq hnone replica hreplica hcurrent
    · exact hnew

theorem Consistent.bindingPlaced_of_binds (ht : t.Consistent X ids) {deployment : Deployment}
    {replica : WorkloadReplica} {member : WorkloadReplicaMember}
    (hbinds : binding.Binds deployment replica member)
    (hmember : t.members.get? binding.memberId = some member) : t.BindingPlaced binding :=
  ⟨(ht.member _ member hmember).1.symm.trans hbinds.memberReplica, member, hmember,
    hbinds.placementGeneration.le, fun _ _ _ _ => hbinds.placementGeneration⟩

end ReplicaTables

namespace WorkloadStore

open ReplicaTables

variable {X : External} {V : WorkloadServices} {ids : Set Uuid} {s s' : WorkloadStore}
  {action : WorkloadAction}

theorem placements_assigned (hs : s.replicaTables.Consistent X ids) (h : s.replicaTables.Placements)
    {deployment deployment' : Deployment} {binding binding' : DeploymentReplicaBinding}
    {member member' : WorkloadReplicaMember} {nodeId : Uuid} {time : ℤ}
    (hdesired : CurrentlyDesired s deployment)
    (hbinding : s.bindings.get? deployment.id = some binding)
    (hmember : s.members.get? binding.memberId = some member)
    (hplaced : member.place nodeId time = .ok member')
    (hassigned : binding.assign deployment' member' = .ok binding') :
    Placements { s.replicaTables with
      members := s.members.insert member'
      bindings := s.bindings.insert binding' } := by
  obtain ⟨hid, hnode, -, rfl⟩ := assign_ok hassigned
  have hmemberId : member.id = binding.memberId := (get?_eq_some_iff.1 hmember).2
  obtain ⟨hkey, hsome, hle, hpositive⟩ : member'.key = binding.memberId ∧ member'.nodeId ≠ none ∧
      member.placementGeneration ≤ member'.placementGeneration ∧
      1 ≤ member'.placementGeneration := by
    rcases WorkloadReplicaMember.place_ok hplaced with ⟨hthere, rfl⟩ | ⟨-, -, rfl⟩
    · exact ⟨hmemberId, by simp [hthere], le_rfl, h.member _ member hmember (by simp [hthere])⟩
    · exact ⟨hmemberId, nofun, Nat.le_succ _, Nat.succ_pos _⟩
  have hstored : (s.members.insert member').get? binding.memberId = some member' := by
    rw [← hkey]
    exact get?_insert_self _ _
  refine ⟨fun id m hm hne => ?_, fun id b hb => ?_⟩
  · rcases get?_insert_eq_some.1 hm with ⟨-, rfl⟩ | ⟨-, hold⟩
    · exact hpositive
    · exact h.member id m hold hne
  · rcases get?_insert_eq_some.1 hb with ⟨-, rfl⟩ | ⟨hne, hold⟩
    · exact ⟨(h.binding _ binding hbinding).memberReplica, member', hstored, le_rfl,
        fun hnone => absurd (hnode.symm.trans hnone) hsome⟩
    obtain ⟨hreplicaId, m, hm, hmle, heq⟩ := h.binding id b hold
    by_cases hsame : b.memberId = binding.memberId
    · rw [hsame] at hm
      cases Option.some.inj (hmember.symm.trans hm)
      refine ⟨hreplicaId, member', hsame ▸ hstored, hmle.trans hle, fun _ replica hreplica hcur => ?_⟩
      -- the other binding of this member cannot be for the current generation as well
      obtain ⟨-, -, current, stored, -, -, -, hcurrent, hstoredReplica, -, -, -, hgeneration, -⟩ :=
        hdesired.exists_bound
      rw [hbinding] at hcurrent
      cases hcurrent
      have hreplicas : b.replicaId = binding.replicaId := by
        rw [← hreplicaId, hsame, (h.binding _ binding hbinding).memberReplica]
      rw [hreplicas] at hreplica
      cases Option.some.inj (hstoredReplica.symm.trans hreplica)
      have hids := hs.single id _ b binding hold hbinding hreplicas (hcur.trans hgeneration.symm)
      exact absurd (hids.trans (get?_eq_some_iff.1 hbinding).2.symm) hne
    · refine ⟨hreplicaId, m, ?_, hmle, heq⟩
      show (s.members.insert member').get? b.memberId = some m
      rw [get?_insert, hkey, if_neg hsame]
      exact hm

theorem placements_step (hids : DistinctReplicaIds X ids) (hs : s.replicaTables.Consistent X ids)
    (h : s.replicaTables.Placements) (hknown : CreatesIn ids action) :
    (s.step X V action).replicaTables.Placements := by
  obtain ⟨hconsistent, hevolves⟩ := consistent_step (V := V) hids hs hknown
  have hchange := step_change (X := X) (V := V) s action
  generalize s.step X V action = s' at hchange hconsistent hevolves
  have hsame : ∀ id binding, s.bindings.get? id = some binding → s.bindings.get? id = some binding ∨
      s'.replicaTables.BindingPlaced binding := fun _ _ hb => .inl hb
  cases hchange with
  | unchanged => exact h
  | deploymentMoved | deploymentEnded => exact ⟨h.member, h.binding⟩
  | workloadStopped => exact h.keep hs hevolves (.of_get? fun _ _ hm => hm) hsame
  | revisionResolved | runtimeBound => exact ⟨h.member, h.binding⟩
  | activated | evacuationRequested | replicaRetires =>
    exact h.keep hs hevolves (.of_get? fun _ _ hm => hm) hsame
  | created request target binding response haction hnew hbundle hfresh hcontrol hreplicas
      hbinding =>
    subst haction
    obtain ⟨replica, member, -, hmember, hbinding⟩ := hbinding
    have hresized := hs.resized_of_created hids hknown hnew hcontrol hreplicas
    have hbinds := binds_of_create hbinding
    rw [replicaTables_created hnew] at hconsistent hevolves ⊢
    refine h.keep hs hevolves (.of_get? fun _ _ hm => hresized.member_kept hm) fun id b hb => ?_
    rcases get?_insert_eq_some.1 hb with ⟨-, rfl⟩ | ⟨-, hold⟩
    · refine .inr (hconsistent.bindingPlaced_of_binds hbinds ?_)
      rw [hbinds.memberId]
      exact (get?_insertAll_eq_some hresized.memberOf).2
        (.inl ⟨List.mem_of_mem_head? hmember, rfl⟩)
    · exact .inl hold
  | updated request control control' changed replica replica' member binding response haction
      hexisting hbundle hfresh hterminal hcontrol hauthorized hreplica hadvanced hmember hbinding =>
    have hbinds := binds_of_create hbinding
    rw [replicaTables_updated hexisting] at hconsistent hevolves ⊢
    refine h.keep hs hevolves (.of_get? fun _ _ hm => hm) fun id b hb => ?_
    rcases get?_insert_eq_some.1 hb with ⟨-, rfl⟩ | ⟨-, hold⟩
    · refine .inr (hconsistent.bindingPlaced_of_binds hbinds ?_)
      rw [hbinds.memberId]
      exact get?_key hmember
    · exact .inl hold
  | reconfigured workload control revision write plan idempotency hworkload hcontrol hrevision
      hplanned hmembers =>
    have hresized := hs.resized_of_planned hids hworkload hcontrol hplanned hmembers
    exact h.keep hs hevolves (.of_get? fun _ _ hm => hresized.member_kept hm) hsame
  | assigned deployment deployment' binding binding' member member' nodeId time hdeployment hdesired
      hmoved hbinding hmember hplaced hassigned =>
    exact placements_assigned hs h hdesired hbinding hmember hplaced hassigned
  | materialized workload control revision replica member deployment binding hworkload hcontrol
      hrevision hreplica hmember hwanted hunbound hcreated hbinding hfresh =>
    have hbinds := binds_of_create hbinding
    refine h.keep hs hevolves (.of_get? fun _ _ hm => hm) fun id b hb => ?_
    rcases get?_insert_eq_some.1 hb with ⟨-, rfl⟩ | ⟨-, hold⟩
    · refine .inr (hconsistent.bindingPlaced_of_binds hbinds ?_)
      rw [hbinds.memberId]
      exact get?_key hmember
    · exact .inl hold
  | replicaFinished control replica replica' member member' fencedNodeId time hcontrol hreplica
      hmember hmemberReplica hretiring hremains hfenced hreleased hfinished =>
    obtain ⟨hid, -, hgeneration, hnode⟩ := releaseFenced_ok hreleased
    refine h.keep hs hevolves (fun id m hm => ?_) hsame
    rcases get?_insert_of_get? (a := member') hm with ⟨heq, hm'⟩ | ⟨-, hm'⟩
    · rw [heq, show member'.key = member.id from hid] at hm
      cases Option.some.inj (hmember.symm.trans hm)
      exact ⟨member', hm', hgeneration, hnode.imp_right And.left⟩
    · exact ⟨m, hm', rfl, .inl rfl⟩

structure Placeable (X : External) (ids : Set Uuid) (s : WorkloadStore) : Prop where
  consistent : s.replicaTables.Consistent X ids
  placements : s.replicaTables.Placements

theorem placeable_run (hids : DistinctReplicaIds X ids) {actions : List WorkloadAction}
    (hactions : ∀ action ∈ actions, CreatesIn ids action) :
    Placeable X ids (Runs.run (step X V) empty actions) :=
  Runs.invariant (I := Placeable X ids)
    (fun _ _ hs hknown => ⟨(consistent_step hids hs.consistent hknown).1,
      placements_step hids hs.consistent hs.placements hknown⟩)
    ⟨consistent_empty, placements_empty⟩ (Runs.allowed_of_forall hactions)

/-- In every state, the placement that an unplaced binding proposes is the real one exactly when the
member was never placed, or still is on the node in the generation that the binding knows. For the
current generation of a replica the binding knows the generation of its member. -/
theorem proposed_placement (X : External) (V : WorkloadServices) (ids : Set Uuid)
    (hids : DistinctReplicaIds X ids) (actions : List WorkloadAction)
    (hactions : ∀ action ∈ actions, CreatesIn ids action)
    (binding : DeploymentReplicaBinding) (member : WorkloadReplicaMember)
    (hbinding : binding ∈ (Runs.run (step X V) empty actions).bindings.rows)
    (hmember : member ∈ (Runs.run (step X V) empty actions).members.rows)
    (hmemberId : member.id = binding.memberId) (nodeId : Uuid) (time : ℤ)
    (proposed assigned : DeploymentReplicaBinding) (member' : WorkloadReplicaMember)
    (deployment : Deployment) (hproposed : binding.proposeAssignment nodeId time = .ok proposed)
    (hplaced : member.place nodeId time = .ok member')
    (hassigned : binding.assign deployment member' = .ok assigned) :
    PlacementPredicted binding member nodeId time proposed assigned
        (Predicts binding member nodeId) ∧
      ∀ replica ∈ (Runs.run (step X V) empty actions).replicas.rows,
        replica.id = binding.replicaId → binding.replicaGeneration = replica.generation →
        (Predicts binding member nodeId ↔
          member.placementGeneration = 0 ∨ member.nodeId = some nodeId) := by
  obtain ⟨hpositive, hplacements⟩ := (placeable_run (V := V) hids hactions).placements
  obtain ⟨-, stored, hstored, hle, hcurrent⟩ :=
    hplacements _ binding (get?_eq_some_iff.2 ⟨hbinding, rfl⟩)
  cases Option.some.inj (hstored.symm.trans (get?_eq_some_iff.2 ⟨hmember, hmemberId⟩))
  have hnode : member.nodeId ≠ none → 1 ≤ member.placementGeneration :=
    hpositive _ member hstored
  have hpredicts : max 1 binding.placementGeneration = member'.placementGeneration ↔
      Predicts binding member nodeId := by
    rcases place_generation hplaced with ⟨hthere, hsame⟩ | ⟨hnone, hnext, -⟩
    · have := hnode (by simp [hthere])
      simp only [Predicts, hsame, hthere, true_and]
      omega
    · simp only [Predicts, hnext, hnone, reduceCtorEq, false_and, or_false]
      omega
  refine ⟨propext hpredicts ▸ placementPredicted_of_generation hproposed hplaced hassigned, ?_⟩
  intro replica hreplica hid hgeneration
  have heq := hcurrent (proposeAssignment_ok hproposed).1 replica
    (get?_eq_some_iff.2 ⟨hreplica, hid⟩) hgeneration
  unfold Predicts
  constructor
  · exact fun h => h.imp_right And.left
  · rintro (hzero | hthere)
    · exact .inl hzero
    · have := hnode (by simp [hthere])
      exact .inr ⟨hthere, by omega⟩

end WorkloadStore

/-! ### An evacuated replica -/

namespace Sample

open WorkloadStore

/-- The first deployment waits for a node. -/
def unplaced : List WorkloadAction := [.createDeployment (deployRevision workload 1 1)]

/-- A deployment of the Workload that is given a node. -/
def placedDeployment (deploymentId : Uuid) (time : ℕ) : Deployment :=
  { Deployment.create deploymentId 20 workloadId 41 61 (seconds 1) with
    nodeId := some nodeId
    updatedAt := seconds time }

/-- The binding of the deployment is proposed the generation that it is assigned after the run. -/
def ProposedAsAssigned (actions : List WorkloadAction) (deploymentId : Uuid) : Prop :=
  ∃ binding ∈ (Runs.run (step replicaExternal services) empty actions).bindings.rows,
  ∃ member ∈ (Runs.run (step replicaExternal services) empty actions).members.rows,
  binding.deploymentId = deploymentId ∧ ∃ proposed assigned,
    PlacementPredicted binding member nodeId (seconds 20) proposed assigned
      (Predicts binding member nodeId) ∧ Predicts binding member nodeId

/-- The first placement, and an update that stays on the node. -/
theorem proposed_placement_updated :
    ProposedAsAssigned unplaced 51 ∧ ProposedAsAssigned updated 52 := by
  have hreached : ∀ history ∈ [(unplaced, 51), (updated, 52)],
      (∀ action ∈ history.1, CreatesIn {workloadId} action) ∧
      ∃ binding ∈ (Runs.run (step replicaExternal services) empty history.1).bindings.rows,
      ∃ member ∈ (Runs.run (step replicaExternal services) empty history.1).members.rows,
      (binding.deploymentId = history.2 ∧ member.id = binding.memberId ∧
        Predicts binding member nodeId) ∧
      ∃ proposed, binding.proposeAssignment nodeId (seconds 20) = .ok proposed ∧
      ∃ member', member.place nodeId (seconds 20) = .ok member' ∧
      ∃ assigned, binding.assign (placedDeployment history.2 20) member' = .ok assigned ∧ True := by
    decide +kernel
  have hall : ∀ history ∈ [(unplaced, 51), (updated, 52)],
      ProposedAsAssigned history.1 history.2 := by
    intro history hhistory
    obtain ⟨hknown, binding, hbinding, member, hmember, ⟨hdeployment, hid, hpredicts⟩, proposed,
      hproposed, member', hplaced, assigned, hassigned, -⟩ := hreached history hhistory
    exact ⟨binding, hbinding, member, hmember, hdeployment, proposed, assigned,
      (proposed_placement replicaExternal services {workloadId} distinctReplicaIds history.1 hknown
        binding member hbinding hmember hid nodeId (seconds 20) proposed assigned member'
        (placedDeployment history.2 20) hproposed hplaced hassigned).1, hpredicts⟩
  exact ⟨hall (unplaced, 51) (by simp), hall (updated, 52) (by simp)⟩

/-- The replica in its second generation. -/
def evacuatedReplica : ReplicaDeploymentCandidate where
  organizationId := 20
  workloadId := workloadId
  replicaId := workloadId
  replicaOrdinal := 0
  revisionId := 41
  revisionGeneration := 1
  replicaGeneration := 2

/-- The only replica of a Workload is evacuated from its node and waits for another one. -/
def evacuated : List WorkloadAction :=
  .createDeployment (deployRevision workload 1 1) :: rollOut 51 10 ++
    [.requestReplicaEvacuation {
      candidate := {
        organizationId := 20
        workloadId := workloadId
        replicaId := workloadId
        replicaGeneration := 1
        expectedReplicaVersion := 1
        memberId := workloadId
        expectedMemberVersion := 2
        sourceNodeId := nodeId
        placementGeneration := 1 }
      requestedAt := seconds 20
      correlationId := 5 },
    .dispatchReplicaRetirement {
      organizationId := 20
      workloadId := workloadId
      replicaId := workloadId
      replicaGeneration := 1
      expectedReplicaVersion := 2
      commandId := 70
      dispatchedAt := seconds 21 },
    .recordReplicaRuntimeFenced {
      organizationId := 20
      workloadId := workloadId
      replicaId := workloadId
      replicaGeneration := 1
      expectedReplicaVersion := 3
      commandId := 70
      fencedAt := seconds 22 } ⟨.ok (), .ok ()⟩,
    .completeReplicaRetirement {
      organizationId := 20
      workloadId := workloadId
      replicaId := workloadId
      replicaGeneration := 1
      expectedReplicaVersion := 4
      memberId := workloadId
      expectedMemberVersion := 2
      fencedNodeId := some nodeId
      correlationId := 5
      completedAt := seconds 23 },
    .materializeReplicaDeployment evacuatedReplica (seconds 24)]

/-- The new deployment proposes the first placement again although the member makes its second one,
and the reservation for it is refused. -/
theorem evacuated_placement_mispredicted :
    ∃ binding ∈ (Runs.run (step replicaExternal services) empty evacuated).bindings.rows,
    ∃ replica ∈ (Runs.run (step replicaExternal services) empty evacuated).replicas.rows,
    ∃ member ∈ (Runs.run (step replicaExternal services) empty evacuated).members.rows,
      replica.id = binding.replicaId ∧ binding.replicaGeneration = replica.generation ∧
      member.id = binding.memberId ∧
      ∃ proposed, binding.proposeAssignment nodeId (seconds 30) = .ok proposed ∧
      ∃ member', member.place nodeId (seconds 30) = .ok member' ∧
      ∃ assigned, binding.assign (placedDeployment binding.deploymentId 30) member' = .ok assigned ∧
        proposed.placementGeneration = 1 ∧ assigned.placementGeneration = 2 ∧
        reservationMatches binding member (scheduledReservation binding.deploymentId proposed nodeId
          inventory (.sha256 12) [] (seconds 30)) = false := by
  decide +kernel

end Sample

end A3SCloud
