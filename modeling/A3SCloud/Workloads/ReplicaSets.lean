import A3SCloud.Contracts.Sample
import A3SCloud.Workloads.StoreChange

/-!
# Replica sets over runs of the Workload repository

What holds of the replicas, members and bindings of a Workload in every state of the repository, and
what no step does to them. The identifiers of replicas are derived from those of their Workloads; for
the Workloads of a run they are assumed not to collide (`DistinctReplicaIds`).

* `ReplicaTables` is the part of the store that the replica sets live in.
* `ReplicaTables.Consistent` is the invariant. A change of one replica, member or binding keeps it
  (`Consistent.insertReplica`, `Consistent.insertMember`, `Consistent.insertBinding`), and so does a
  change of the whole set of a Workload (`Consistent.resize`).
* `ReplicaTables.Evolves` is what a step may do to the replicas and members that are there.
-/

namespace A3SCloud

open Checks List Table WorkloadReplica WorkloadReplicaMember WorkloadStore DeploymentReplicaBinding

/-- The identifiers of the replicas of some Workloads are all different. -/
def DistinctReplicaIds (X : External) (ids : Set Uuid) : Prop :=
  ∀ workloadId ∈ ids, ∀ workloadId' ∈ ids, ∀ ordinal ordinal' id,
    WorkloadReplica.deterministicId X workloadId ordinal = .ok id →
    WorkloadReplica.deterministicId X workloadId' ordinal' = .ok id →
    workloadId = workloadId' ∧ ordinal = ordinal'

/-- The life of a replica fits the number of replicas that its Workload has. -/
def WorkloadReplica.Fits (replica : WorkloadReplica) (desiredReplicas : ℕ) : Prop :=
  if replica.ordinal < desiredReplicas then
    replica.lifecycle = .desired ∨ (replica.lifecycle = .retiring ∧ replica.evacuationNodeId ≠ none)
  else
    (replica.lifecycle = .retiring ∧ replica.evacuationNodeId = none) ∨ replica.lifecycle = .retired

variable {replica replica' : WorkloadReplica} {desiredReplicas : ℕ}
  {binding : DeploymentReplicaBinding}

theorem WorkloadReplica.fits_of_lt (hlt : replica.ordinal < desiredReplicas)
    (h : replica.lifecycle = .desired ∨
      (replica.lifecycle = .retiring ∧ replica.evacuationNodeId ≠ none)) :
    replica.Fits desiredReplicas := by
  rwa [Fits, if_pos hlt]

theorem WorkloadReplica.fits_of_not_lt (hge : ¬ replica.ordinal < desiredReplicas)
    (h : (replica.lifecycle = .retiring ∧ replica.evacuationNodeId = none) ∨
      replica.lifecycle = .retired) : replica.Fits desiredReplicas := by
  rwa [Fits, if_neg hge]

/-- What no transition of a replica changes. -/
structure WorkloadReplica.SameReplica (replica replica' : WorkloadReplica) : Prop where
  id : replica'.id = replica.id
  organizationId : replica'.organizationId = replica.organizationId
  workloadId : replica'.workloadId = replica.workloadId
  ordinal : replica'.ordinal = replica.ordinal

/-- A replica in a later or the same generation: a later one begins without a fence, and the revision
of a generation does not change. -/
structure WorkloadReplica.Continues (replica replica' : WorkloadReplica) : Prop
    extends SameReplica replica replica' where
  generation : replica.generation ≤ replica'.generation
  fence : replica.generation < replica'.generation → replica'.runtimeFencedAt = none
  revision : replica'.generation = replica.generation → replica'.revisionId = replica.revisionId

theorem WorkloadReplica.Continues.refl (replica : WorkloadReplica) : replica.Continues replica :=
  ⟨⟨rfl, rfl, rfl, rfl⟩, le_rfl, fun h => absurd h (lt_irrefl _), fun _ => rfl⟩

theorem WorkloadReplica.Continues.within (hsame : replica.SameReplica replica')
    (hgeneration : replica'.generation = replica.generation)
    (hrevision : replica'.revisionId = replica.revisionId) : replica.Continues replica' :=
  ⟨hsame, hgeneration.ge, fun h => absurd h (by omega), fun _ => hrevision⟩

theorem WorkloadReplica.Continues.next (hsame : replica.SameReplica replica')
    (hgeneration : replica'.generation = replica.generation + 1)
    (hfence : replica'.runtimeFencedAt = none) : replica.Continues replica' :=
  ⟨hsame, by omega, fun _ => hfence, fun h => absurd h (by omega)⟩

/-- The tables that the replica sets live in. -/
structure ReplicaTables where
  workloads : Table Workload.key
  controls : Table WorkloadControl.key
  replicas : Table WorkloadReplica.key
  members : Table WorkloadReplicaMember.key
  bindings : Table DeploymentReplicaBinding.key

def WorkloadStore.replicaTables (s : WorkloadStore) : ReplicaTables :=
  ⟨s.workloads, s.controls, s.replicas, s.members, s.bindings⟩

namespace ReplicaTables

variable {X : External} {ids : Set Uuid} {t t' : ReplicaTables}

/-- A replica is one of a stored Workload, under the identifier of its ordinal, and has a member. -/
structure ReplicaStored (X : External) (t : ReplicaTables) (replica : WorkloadReplica) : Prop where
  workload : ∃ workload, t.workloads.get? replica.workloadId = some workload ∧
    workload.organizationId = replica.organizationId
  identifier : WorkloadReplica.deterministicId X replica.workloadId replica.ordinal =
    .ok replica.id
  member : ∃ member, t.members.get? replica.id = some member
  unfenced : replica.lifecycle = .desired → replica.runtimeFencedAt = none
  fits : ∀ control, t.controls.get? replica.workloadId = some control →
    replica.Fits control.desiredReplicas

variable {replica replica' : WorkloadReplica} {member member' : WorkloadReplicaMember} {id : Uuid}
  {ordinal previous : ℕ} {request : CreateDeploymentBundle}

/-- Whether a replica is stored well does not depend on the other replicas and the bindings. -/
theorem ReplicaStored.of_tables (h : t.ReplicaStored X replica)
    {replicas : Table WorkloadReplica.key} {bindings : Table DeploymentReplicaBinding.key} :
    ReplicaStored X { t with replicas := replicas, bindings := bindings } replica :=
  ⟨h.workload, h.identifier, h.member, h.unfenced, h.fits⟩

/-- The invariant of the replica sets. -/
structure Consistent (X : External) (ids : Set Uuid) (t : ReplicaTables) : Prop where
  known : ∀ workloadId workload, t.workloads.get? workloadId = some workload → workloadId ∈ ids
  controlled : ∀ workloadId workload, t.workloads.get? workloadId = some workload →
    ∃ control, t.controls.get? workloadId = some control
  complete : ∀ workloadId workload control, t.workloads.get? workloadId = some workload →
    t.controls.get? workloadId = some control → ∀ ordinal < control.desiredReplicas,
      ∃ id replica, t.replicas.get? id = some replica ∧ replica.workloadId = workloadId ∧
        replica.ordinal = ordinal
  stored : ∀ id replica, t.replicas.get? id = some replica → t.ReplicaStored X replica
  member : ∀ id member, t.members.get? id = some member →
    member.replicaId = id ∧ ∃ replica, t.replicas.get? id = some replica
  bound : ∀ id binding, t.bindings.get? id = some binding →
    ∃ replica, t.replicas.get? binding.replicaId = some replica ∧
      binding.replicaGeneration ≤ replica.generation
  single : ∀ id id' binding binding', t.bindings.get? id = some binding →
    t.bindings.get? id' = some binding' → binding.replicaId = binding'.replicaId →
    binding.replicaGeneration = binding'.replicaGeneration → id = id'

/-- What a step may do to the replicas and members that are there. -/
structure Evolves (t t' : ReplicaTables) : Prop where
  replica : ∀ id replica, t.replicas.get? id = some replica →
    ∃ replica', t'.replicas.get? id = some replica' ∧ replica.Continues replica'
  member : ∀ id member, t.members.get? id = some member →
    ∃ member', t'.members.get? id = some member' ∧
      (member'.nodeId = member.nodeId ∨ member.nodeId = none ∨
        (member'.nodeId = none ∧ ∃ replica, t.replicas.get? member.replicaId = some replica ∧
          replica.lifecycle = .retiring ∧ replica.runtimeFencedAt ≠ none))
  newMember : ∀ id member', t'.members.get? id = some member' → t.members.get? id = none →
    member'.nodeId = none

theorem consistent_empty : Consistent X ids WorkloadStore.empty.replicaTables := by
  constructor <;> intros <;> simp_all [replicaTables, WorkloadStore.empty]

/-! ### Changes of one row -/

theorem Evolves.refl (t : ReplicaTables) : t.Evolves t where
  replica _ replica h := ⟨replica, h, .refl _⟩
  member _ member h := ⟨member, h, .inl rfl⟩
  newMember _ _ h hnone := by rw [hnone] at h; cases h

/-- A change of Workloads that keeps their identities. -/
theorem Consistent.insertWorkload (h : t.Consistent X ids) {workload workload' : Workload}
    (hworkload : t.workloads.get? workload.id = some workload)
    (hsame : workload.SameIdentity workload') :
    Consistent X ids { t with workloads := t.workloads.insert workload' } := by
  have hrows : t.workloads.Rewrites Workload.SameIdentity (fun _ => False)
      (t.workloads.insert workload') := .insert_at Workload.SameIdentity.refl hworkload hsame.id hsame
  refine ⟨?_, ?_, ?_, ?_, h.member, h.bound, h.single⟩
  · intro id w hw
    obtain ⟨w', hw', -⟩ := (hrows.backward id w hw).resolve_right not_false
    exact h.known id w' hw'
  · intro id w hw
    obtain ⟨w', hw', -⟩ := (hrows.backward id w hw).resolve_right not_false
    exact h.controlled id w' hw'
  · intro id w control hw hcontrol
    obtain ⟨w', hw', -⟩ := (hrows.backward id w hw).resolve_right not_false
    exact h.complete id w' control hw' hcontrol
  · intro id replica hreplica
    obtain ⟨⟨w, hw, horganization⟩, hid, hmember, hunfenced, hfits⟩ := h.stored id replica hreplica
    obtain ⟨w', hw', hkept⟩ := hrows.forward _ w hw
    exact ⟨⟨w', hw', hkept.organizationId.trans horganization⟩, hid, hmember, hunfenced, hfits⟩

/-- A change of a control record that keeps the number of replicas. -/
theorem Consistent.insertControl (h : t.Consistent X ids) {control control' : WorkloadControl}
    (hcontrol : t.controls.get? control.workloadId = some control)
    (hid : control'.workloadId = control.workloadId)
    (hdesired : control'.desiredReplicas = control.desiredReplicas) :
    Consistent X ids { t with controls := t.controls.insert control' } := by
  have hrows : t.controls.Rewrites (fun c c' => c'.desiredReplicas = c.desiredReplicas)
      (fun _ => False) (t.controls.insert control') := .insert_at (fun _ => rfl) hcontrol hid hdesired
  refine ⟨h.known, ?_, ?_, ?_, h.member, h.bound, h.single⟩
  · intro id w hw
    obtain ⟨c, hc⟩ := h.controlled id w hw
    obtain ⟨c', hc', -⟩ := hrows.forward id c hc
    exact ⟨c', hc'⟩
  · intro id w c hw hc
    obtain ⟨c', hc', heq⟩ := (hrows.backward id c hc).resolve_right not_false
    rw [heq]
    exact h.complete id w c' hw hc'
  · intro id replica hreplica
    obtain ⟨hworkload, hid, hmember, hunfenced, hfits⟩ := h.stored id replica hreplica
    refine ⟨hworkload, hid, hmember, hunfenced, fun c hc => ?_⟩
    obtain ⟨c', hc', heq⟩ := (hrows.backward _ c hc).resolve_right not_false
    rw [heq]
    exact hfits c' hc'

/-- A transition of a replica that suits the number of replicas. -/
theorem Consistent.insertReplica (h : t.Consistent X ids)
    (hreplica : t.replicas.get? replica.id = some replica) (hsame : replica.SameReplica replica')
    (hgeneration : replica.generation ≤ replica'.generation)
    (hunfenced : replica'.lifecycle = .desired → replica'.runtimeFencedAt = none)
    (hfits : ∀ control, t.controls.get? replica.workloadId = some control →
      replica'.Fits control.desiredReplicas) :
    Consistent X ids { t with replicas := t.replicas.insert replica' } := by
  have hrows : t.replicas.Rewrites (fun r r' => r.generation ≤ r'.generation ∧
      r'.workloadId = r.workloadId ∧ r'.ordinal = r.ordinal) (fun _ => False)
      (t.replicas.insert replica') := .insert_at (fun _ => ⟨le_rfl, rfl, rfl⟩) hreplica hsame.id
        ⟨hgeneration, hsame.workloadId, hsame.ordinal⟩
  refine ⟨h.known, h.controlled, ?_, ?_, ?_, ?_, h.single⟩
  · intro id w c hw hc ordinal hlt
    obtain ⟨rid, r, hr, hworkload, hordinal⟩ := h.complete id w c hw hc ordinal hlt
    obtain ⟨r', hr', -, hw', ho'⟩ := hrows.forward rid r hr
    exact ⟨rid, r', hr', hw'.trans hworkload, ho'.trans hordinal⟩
  · intro id r hr
    rcases get?_insert_eq_some.1 hr with ⟨rfl, rfl⟩ | ⟨-, hr⟩
    · obtain ⟨⟨w, hw, horganization⟩, hid, ⟨m, hm⟩, -, -⟩ := h.stored _ replica hreplica
      exact ⟨⟨w, by rw [hsame.workloadId]; exact hw, by rw [horganization, hsame.organizationId]⟩,
        by rw [hsame.workloadId, hsame.ordinal, hsame.id]; exact hid,
        ⟨m, by rw [hsame.id]; exact hm⟩, hunfenced, by rw [hsame.workloadId]; exact hfits⟩
    · exact (h.stored id r hr).of_tables
  · intro id m hm
    obtain ⟨hid, r, hr⟩ := h.member id m hm
    obtain ⟨r', hr', -⟩ := hrows.forward id r hr
    exact ⟨hid, r', hr'⟩
  · intro id b hb
    obtain ⟨r, hr, hle⟩ := h.bound id b hb
    obtain ⟨r', hr', hle', -⟩ := hrows.forward _ r hr
    exact ⟨r', hr', hle.trans hle'⟩

theorem Evolves.insertReplica (hreplica : t.replicas.get? replica.id = some replica)
    (hcontinues : replica.Continues replica') :
    t.Evolves { t with replicas := t.replicas.insert replica' } where
  replica := (Rewrites.insert_at (N := fun _ => False) Continues.refl hreplica
    hcontinues.id hcontinues).forward
  member _ member h := ⟨member, h, .inl rfl⟩
  newMember _ _ h hnone := by rw [hnone] at h; cases h

theorem Consistent.insertMember (h : t.Consistent X ids)
    (hmember : t.members.get? member.id = some member) (hid : member'.id = member.id)
    (hreplica : member'.replicaId = member.replicaId) :
    Consistent X ids { t with members := t.members.insert member' } := by
  have hrows : t.members.Rewrites (fun m m' => m'.replicaId = m.replicaId) (fun _ => False)
      (t.members.insert member') := .insert_at (fun _ => rfl) hmember hid hreplica
  refine ⟨h.known, h.controlled, h.complete, ?_, ?_, h.bound, h.single⟩
  · intro id replica hstored
    obtain ⟨hworkload, hident, ⟨m, hm⟩, hunfenced, hfits⟩ := h.stored id replica hstored
    obtain ⟨m', hm', -⟩ := hrows.forward _ m hm
    exact ⟨hworkload, hident, ⟨m', hm'⟩, hunfenced, hfits⟩
  · intro id m' hm'
    obtain ⟨m, hm, heq⟩ := (hrows.backward id m' hm').resolve_right not_false
    rw [heq]
    exact h.member id m hm

/-- A member that is placed, or released while its replica is fenced. -/
theorem Evolves.insertMember (hmember : t.members.get? member.id = some member)
    (hid : member'.id = member.id) (hnode : member'.nodeId = member.nodeId ∨ member.nodeId = none ∨
      (member'.nodeId = none ∧ ∃ replica, t.replicas.get? member.replicaId = some replica ∧
        replica.lifecycle = .retiring ∧ replica.runtimeFencedAt ≠ none)) :
    t.Evolves { t with members := t.members.insert member' } where
  replica _ replica h := ⟨replica, h, .refl _⟩
  member id m hm := by
    rcases get?_insert_of_get? (a := member') hm with ⟨heq, hm'⟩ | ⟨-, hm'⟩
    · rw [heq, show member'.key = member.id from hid, hmember] at hm
      cases hm
      exact ⟨member', hm', hnode⟩
    · exact ⟨m, hm', .inl rfl⟩
  newMember id m hm hnone := by
    rcases get?_insert_eq_some.1 hm with ⟨rfl, -⟩ | ⟨-, hm⟩
    · rw [show member'.key = member.id from hid, hmember] at hnone
      cases hnone
    · rw [hnone] at hm
      cases hm

/-- The binding of a deployment to a generation of a replica that no other deployment is bound to. -/
theorem Consistent.insertBinding (h : t.Consistent X ids)
    (hreplica : t.replicas.get? binding.replicaId = some replica)
    (hgeneration : binding.replicaGeneration ≤ replica.generation)
    (hfree : ∀ id binding', t.bindings.get? id = some binding' →
      binding'.replicaId = binding.replicaId →
      binding'.replicaGeneration = binding.replicaGeneration → id = binding.deploymentId) :
    Consistent X ids { t with bindings := t.bindings.insert binding } := by
  refine ⟨h.known, h.controlled, h.complete, fun id r hr => (h.stored id r hr).of_tables, h.member,
    ?_, ?_⟩
  · intro id b hb
    rcases get?_insert_eq_some.1 hb with ⟨-, rfl⟩ | ⟨-, hb⟩
    · exact ⟨replica, hreplica, hgeneration⟩
    · exact h.bound id b hb
  · intro id id' b b' hb hb' hsame hsame'
    rcases get?_insert_eq_some.1 hb with ⟨rfl, rfl⟩ | ⟨-, hold⟩ <;>
      rcases get?_insert_eq_some.1 hb' with ⟨rfl, rfl⟩ | ⟨-, hold'⟩
    · rfl
    · exact (hfree id' b' hold' hsame.symm hsame'.symm).symm
    · exact hfree id b hold hsame hsame'
    · exact h.single id id' b b' hold hold' hsame hsame'

/-! ### Changes of the whole set of a Workload -/

/-- What is stored under the identifier of an ordinal of a Workload is the replica of the ordinal. -/
theorem Consistent.replica_of_identifier (h : t.Consistent X ids) (hids : DistinctReplicaIds X ids)
    {workloadId : Uuid} (hknown : workloadId ∈ ids)
    (hid : WorkloadReplica.deterministicId X workloadId ordinal = .ok id)
    (hreplica : t.replicas.get? id = some replica) :
    replica.workloadId = workloadId ∧ replica.ordinal = ordinal := by
  obtain ⟨⟨w, hw, -⟩, hid', -⟩ := h.stored _ replica hreplica
  have hkey : replica.id = id := (get?_eq_some_iff.1 hreplica).2
  exact hids _ (h.known _ w hw) _ hknown _ _ _ (hkey ▸ hid') hid

/-- The replica set of a Workload that is created or gets another number of replicas: the replicas
it has from now on and the members of those that are new. -/
structure Resized (X : External) (t : ReplicaTables) (workload : Workload)
    (control : WorkloadControl) (replicas : List WorkloadReplica)
    (members : List WorkloadReplicaMember) : Prop where
  controlId : control.workloadId = workload.id
  identity : ∀ replica ∈ replicas, replica.workloadId = workload.id ∧
    replica.organizationId = workload.organizationId ∧
    WorkloadReplica.deterministicId X workload.id replica.ordinal = .ok replica.id
  distinct : (replicas.map WorkloadReplica.ordinal).Nodup
  unfenced : ∀ replica ∈ replicas, replica.lifecycle = .desired → replica.runtimeFencedAt = none
  fits : ∀ replica ∈ replicas, replica.Fits control.desiredReplicas
  complete : ∀ ordinal < control.desiredReplicas, ∃ replica ∈ replicas, replica.ordinal = ordinal
  kept : ∀ id replica, t.replicas.get? id = some replica → replica.workloadId = workload.id →
    ∃ replica' ∈ replicas, replica'.id = id ∧ replica.Continues replica'
  added : ∀ replica ∈ replicas, t.replicas.get? replica.id = none →
    ∃ member ∈ members, member.id = replica.id
  fresh : ∀ member ∈ members, member.replicaId = member.id ∧ member.nodeId = none ∧
    t.members.get? member.id = none ∧ ∃ replica ∈ replicas, replica.id = member.id
  memberOf : ∀ member ∈ members, ∀ member' ∈ members, member.key = member'.key →
    member = member'

def resize (t : ReplicaTables) (workloads : Table Workload.key) (control : WorkloadControl)
    (replicas : List WorkloadReplica) (members : List WorkloadReplicaMember) : ReplicaTables where
  workloads := workloads
  controls := t.controls.insert control
  replicas := t.replicas.insertAll replicas
  members := t.members.insertAll members
  bindings := t.bindings

namespace Resized

variable {workload : Workload} {control : WorkloadControl} {replicas : List WorkloadReplica}
  {members : List WorkloadReplicaMember} {workloads : Table Workload.key} {id : Uuid}

variable (h : Resized X t workload control replicas members) (ht : t.Consistent X ids)
  (hids : DistinctReplicaIds X ids) (hknown : workload.id ∈ ids)

include h

theorem member_kept (hmember : t.members.get? id = some member) :
    (t.members.insertAll members).get? id = some member := by
  rw [get?_insertAll_of_not_mem fun m hm heq => ?_, hmember]
  rw [← show m.id = id from heq, (h.fresh m hm).2.2.1] at hmember
  cases hmember

include hids hknown

theorem replica_inj :
    ∀ a ∈ replicas, ∀ b ∈ replicas, WorkloadReplica.key a = WorkloadReplica.key b → a = b := by
  intro a ha b hb hkey
  have hordinal := hids _ hknown _ hknown a.ordinal b.ordinal a.id (h.identity a ha).2.2
    (by rw [show a.id = b.id from hkey]; exact (h.identity b hb).2.2)
  exact inj_on_of_nodup_map h.distinct ha hb hordinal.2

include ht

/-- Every replica that was there is there, in the same or a later generation. -/
theorem replica_kept {replica : WorkloadReplica} (hreplica : t.replicas.get? id = some replica) :
    ∃ replica', (t.replicas.insertAll replicas).get? id = some replica' ∧
      replica.Continues replica' ∧
      (replica' = replica ∨ replica.workloadId = workload.id) := by
  have hinj := h.replica_inj hids hknown
  by_cases hworkload : replica.workloadId = workload.id
  · obtain ⟨replica', hmem, rfl, hgeneration⟩ := h.kept id replica hreplica hworkload
    exact ⟨replica', (get?_insertAll_eq_some hinj).2 (.inl ⟨hmem, rfl⟩), hgeneration,
      .inr hworkload⟩
  · refine ⟨replica, (get?_insertAll_eq_some hinj).2 (.inr ⟨fun r hr heq => ?_, hreplica⟩),
      .refl _, .inl rfl⟩
    rw [← show r.id = id from heq] at hreplica
    exact hworkload (ht.replica_of_identifier hids hknown (h.identity r hr).2.2 hreplica).1

theorem evolves (workloads : Table Workload.key) :
    t.Evolves (t.resize workloads control replicas members) where
  replica id replica hreplica := by
    obtain ⟨replica', hreplica', hgeneration, -⟩ := h.replica_kept ht hids hknown hreplica
    exact ⟨replica', hreplica', hgeneration⟩
  member id member hmember := ⟨member, h.member_kept hmember, .inl rfl⟩
  newMember id member hmember hnone := by
    rcases (get?_insertAll_eq_some h.memberOf).1 hmember with ⟨hmem, -⟩ | ⟨-, hold⟩
    · exact (h.fresh member hmem).2.1
    · rw [hnone] at hold
      cases hold

/-- The invariant after the replica set of a Workload was created or resized. -/
theorem consistent (hworkload : workloads.get? workload.id = some workload)
    (hothers : ∀ id, id ≠ workload.id → workloads.get? id = t.workloads.get? id) :
    Consistent X ids (t.resize workloads control replicas members) := by
  have hinj := h.replica_inj hids hknown
  have hcontrol : ∀ id, (t.controls.insert control).get? id =
      if id = workload.id then some control else t.controls.get? id := by
    intro id
    rw [get?_insert, show control.key = workload.id from h.controlId]
  have hreplicas : ∀ {id replica}, (t.replicas.insertAll replicas).get? id = some replica ↔
      (replica ∈ replicas ∧ replica.id = id) ∨
        ((∀ r ∈ replicas, r.id ≠ id) ∧ t.replicas.get? id = some replica) :=
    get?_insertAll_eq_some hinj
  have hmembers : ∀ {id member}, (t.members.insertAll members).get? id = some member ↔
      (member ∈ members ∧ member.id = id) ∨
        ((∀ m ∈ members, m.id ≠ id) ∧ t.members.get? id = some member) :=
    get?_insertAll_eq_some h.memberOf
  refine ⟨?_, ?_, ?_, ?_, ?_, ?_, ht.single⟩
  · intro id w hw
    by_cases hid : id = workload.id
    · rw [hid]
      exact hknown
    · exact ht.known id w (hothers id hid ▸ hw)
  · intro id w hw
    show ∃ c, (t.controls.insert control).get? id = some c
    rw [hcontrol]
    split_ifs with hid
    · exact ⟨control, rfl⟩
    · exact ht.controlled id w (hothers id hid ▸ hw)
  · intro id w c hw hc ordinal hlt
    rw [show (t.resize workloads control replicas members).controls =
      t.controls.insert control from rfl, hcontrol] at hc
    split_ifs at hc with hid
    · cases hc
      obtain ⟨r, hr, hordinal⟩ := h.complete ordinal hlt
      exact ⟨r.id, r, hreplicas.2 (.inl ⟨hr, rfl⟩), (h.identity r hr).1.trans hid.symm, hordinal⟩
    · obtain ⟨rid, r, hr, hrw, hordinal⟩ :=
        ht.complete id w c (hothers id hid ▸ hw) hc ordinal hlt
      obtain ⟨r', hr', -, rfl | heq⟩ := h.replica_kept ht hids hknown hr
      · exact ⟨rid, _, hr', hrw, hordinal⟩
      · exact absurd (hrw.symm.trans heq) hid
  · intro id r hr
    rcases hreplicas.1 hr with ⟨hmem, rfl⟩ | ⟨hnot, hold⟩
    · obtain ⟨hrw, horganization, hid⟩ := h.identity r hmem
      refine ⟨⟨workload, by rw [hrw]; exact hworkload, horganization.symm⟩, by rw [hrw]; exact hid,
        ?_, h.unfenced r hmem, fun c hc => ?_⟩
      · cases hstored : t.replicas.get? r.id with
        | none =>
          obtain ⟨m, hm, heq⟩ := h.added r hmem hstored
          exact ⟨m, hmembers.2 (.inl ⟨hm, heq⟩)⟩
        | some stored =>
          obtain ⟨m, hm⟩ := (ht.stored _ stored hstored).member
          rw [show stored.id = r.id from (get?_eq_some_iff.1 hstored).2] at hm
          exact ⟨m, h.member_kept hm⟩
      · rw [show (t.resize workloads control replicas members).controls =
          t.controls.insert control from rfl, hcontrol, if_pos hrw] at hc
        cases hc
        exact h.fits r hmem
    · obtain ⟨⟨w, hw, horganization⟩, hid, ⟨m, hm⟩, hunfenced, hfits⟩ := ht.stored id r hold
      -- a replica that is not in the set belongs to another Workload
      have hne : r.workloadId ≠ workload.id := by
        intro heq
        obtain ⟨r', hr', hrid, -⟩ := h.kept id r hold heq
        exact hnot r' hr' hrid
      refine ⟨⟨w, (hothers _ hne).trans hw, horganization⟩, hid, ⟨m, h.member_kept hm⟩, hunfenced,
        fun c hc => ?_⟩
      rw [show (t.resize workloads control replicas members).controls =
        t.controls.insert control from rfl, hcontrol, if_neg hne] at hc
      exact hfits c hc
  · intro id m hm
    rcases hmembers.1 hm with ⟨hmem, rfl⟩ | ⟨-, hold⟩
    · obtain ⟨hreplica, -, -, r, hr, hrid⟩ := h.fresh m hmem
      exact ⟨hreplica, r, hreplicas.2 (.inl ⟨hr, hrid⟩)⟩
    · obtain ⟨hreplica, r, hr⟩ := ht.member id m hold
      obtain ⟨r', hr', -⟩ := h.replica_kept ht hids hknown hr
      exact ⟨hreplica, r', hr'⟩
  · intro id b hb
    obtain ⟨r, hr, hle⟩ := ht.bound id b hb
    obtain ⟨r', hr', hgeneration, -⟩ := h.replica_kept ht hids hknown hr
    exact ⟨r', hr', hle.trans hgeneration.generation⟩

end Resized

/-! ### The replica set of a new Workload -/

theorem newReplica_ok {pair : WorkloadReplica × WorkloadReplicaMember}
    (h : newReplica X request ordinal = .ok pair) :
    WorkloadReplica.forOrdinal X request.workload request.revision ordinal = .ok pair.1 ∧
      forReplica X request.workload pair.1 = .ok pair.2 := by
  simp only [newReplica, ok_rules] at h
  obtain ⟨replica, hreplica, member, hmember, rfl⟩ := h
  exact ⟨hreplica, hmember⟩

theorem Consistent.workloadId_ne (h : t.Consistent X ids) {workloadId : Uuid}
    (hnew : t.workloads.get? workloadId = none) (hreplica : t.replicas.get? id = some replica) :
    replica.workloadId ≠ workloadId := by
  rintro rfl
  obtain ⟨w, hw, -⟩ := (h.stored id replica hreplica).workload
  rw [hnew] at hw
  cases hw

/-- The replicas of a new Workload with their members. -/
def NewReplicas (X : External) (request : CreateDeploymentBundle)
    (target : DeploymentTarget) : Prop :=
  ∃ created, Forall₂ (fun ordinal pair => newReplica X request ordinal = .ok pair)
      (range request.control.placementPolicy.desiredReplicas) created ∧
    target.replicas = created.map Prod.fst ∧ target.members = created.map Prod.snd

theorem Consistent.resized_of_created (h : t.Consistent X ids) (hids : DistinctReplicaIds X ids)
    (hknown : request.workload.id ∈ ids) (hnew : t.workloads.get? request.workload.id = none)
    {target : DeploymentTarget}
    (hcontrol : WorkloadControl.create request.workload request.control = .ok target.control)
    (hreplicas : NewReplicas X request target) :
    Resized X t request.workload target.control target.replicas target.members := by
  obtain ⟨created, hcreated, hreplicas, hmembers⟩ := hreplicas
  rw [hreplicas, hmembers]
  obtain ⟨hspec, hidentity, -⟩ := WorkloadControl.create_ok hcontrol
  have hdesired : target.control.desiredReplicas = request.control.placementPolicy.desiredReplicas := by
    rw [WorkloadControl.desiredReplicas, hspec]
  have hordinals : created.map (fun pair => pair.1.ordinal) =
      range request.control.placementPolicy.desiredReplicas := by
    have hequal : Forall₂ Eq (created.map (fun pair => pair.1.ordinal))
        (range request.control.placementPolicy.desiredReplicas) :=
      forall₂_map_left_iff.2 (hcreated.flip.imp fun pair ordinal hpair =>
        (forOrdinal_ok (newReplica_ok hpair).1).2.2.2.2.2.1)
    rwa [forall₂_eq_eq_eq] at hequal
  have hpairs : ∀ pair ∈ created, ∃ ordinal < target.control.desiredReplicas,
      WorkloadReplica.forOrdinal X request.workload request.revision ordinal = .ok pair.1 ∧
        forReplica X request.workload pair.1 = .ok pair.2 := by
    intro pair hpair
    obtain ⟨ordinal, hordinal, hnewReplica⟩ := exists_left_of_mem hcreated hpair
    exact ⟨ordinal, hdesired ▸ mem_range.1 hordinal, newReplica_ok hnewReplica⟩
  have hdistinct : ((created.map Prod.fst).map WorkloadReplica.ordinal).Nodup := by
    rw [map_map]
    exact (congrArg Nodup hordinals).mpr nodup_range
  refine ⟨congrArg (fun i => i.2.2.2) hidentity, ?_, hdistinct, ?_, ?_, ?_, ?_, ?_, ?_, ?_⟩
  · simp only [forall_mem_map]
    intro pair hpair
    obtain ⟨ordinal, -, hreplica, -⟩ := hpairs pair hpair
    obtain ⟨hid, horganization, -, -, hworkload, rfl, -⟩ := forOrdinal_ok hreplica
    exact ⟨hworkload, horganization, hid⟩
  · simp only [forall_mem_map]
    intro pair hpair _
    obtain ⟨ordinal, -, hreplica, -⟩ := hpairs pair hpair
    exact (forOrdinal_ok hreplica).2.2.2.2.2.2.2.2.2.2.2.1
  · simp only [forall_mem_map]
    intro pair hpair
    obtain ⟨ordinal, hlt, hreplica, -⟩ := hpairs pair hpair
    obtain ⟨-, -, -, -, -, rfl, -, -, -, hlifecycle, -⟩ := forOrdinal_ok hreplica
    exact fits_of_lt hlt (.inl hlifecycle)
  · intro ordinal hlt
    obtain ⟨pair, hpair, hnewReplica⟩ :=
      exists_right_of_mem hcreated (mem_range.2 (hdesired ▸ hlt))
    exact ⟨pair.1, mem_map_of_mem hpair,
      (forOrdinal_ok (newReplica_ok hnewReplica).1).2.2.2.2.2.1⟩
  · intro id replica hreplica heq
    exact absurd heq (h.workloadId_ne hnew hreplica)
  · simp only [forall_mem_map]
    intro pair hpair _
    obtain ⟨ordinal, -, -, hmember⟩ := hpairs pair hpair
    exact ⟨pair.2, mem_map_of_mem hpair, (forReplica_ok hmember).1⟩
  · simp only [forall_mem_map]
    intro pair hpair
    obtain ⟨ordinal, -, hreplica, hmember⟩ := hpairs pair hpair
    obtain ⟨hid, hreplicaId, hnode, -⟩ := forReplica_ok hmember
    refine ⟨hreplicaId.trans hid.symm, hnode, ?_, pair.1, mem_map_of_mem hpair, hid.symm⟩
    cases hstored : t.members.get? pair.2.id with
    | none => rfl
    | some stored =>
      obtain ⟨-, replica, hold⟩ := h.member _ stored hstored
      rw [hid] at hold
      exact absurd (h.replica_of_identifier hids hknown
        (forOrdinal_ok hreplica).1 hold).1 (h.workloadId_ne hnew hold)
  · simp only [forall_mem_map]
    intro pair hpair pair' hpair' hkey
    obtain ⟨ordinal, -, hreplica, hmember⟩ := hpairs pair hpair
    obtain ⟨ordinal', -, hreplica', hmember'⟩ := hpairs pair' hpair'
    have hids' : pair.1.id = pair'.1.id := by
      rw [← (forReplica_ok hmember).1,
        ← (forReplica_ok hmember').1]
      exact hkey
    obtain ⟨-, rfl⟩ := hids _ hknown _ hknown _ _ _ (forOrdinal_ok hreplica).1
      (hids' ▸ (forOrdinal_ok hreplica').1)
    have hsame : pair.1 = pair'.1 := Except.ok.inj (hreplica.symm.trans hreplica')
    exact Except.ok.inj (hmember.symm.trans (hsame ▸ hmember'))

/-! ### Another number of replicas -/

variable {time : ℤ} {desired : ℕ}

theorem moved_continues {revision : WorkloadRevision}
    (h : ReplicaSet.Moved revision time previous desired replica replica') :
    replica.Continues replica' := by
  cases h with
  | kept => exact .refl _
  | retired _ _ h =>
    rcases requestRetirement_ok h with ⟨-, rfl⟩ | ⟨-, rfl⟩ <;>
      exact .within ⟨rfl, rfl, rfl, rfl⟩ rfl rfl
  | reactivated _ _ h =>
    obtain ⟨-, rfl⟩ := reactivate_ok h
    exact .next ⟨rfl, rfl, rfl, rfl⟩ rfl rfl

theorem moved_unfenced {revision : WorkloadRevision}
    (h : ReplicaSet.Moved revision time previous desired replica replica')
    (hunfenced : replica.lifecycle = .desired → replica.runtimeFencedAt = none) :
    replica'.lifecycle = .desired → replica'.runtimeFencedAt = none := by
  cases h with
  | kept => exact hunfenced
  | retired _ _ h =>
    rcases requestRetirement_ok h with ⟨hne, rfl⟩ | ⟨-, rfl⟩
    · exact hunfenced
    · exact fun _ => rfl
  | reactivated _ _ h =>
    obtain ⟨-, rfl⟩ := reactivate_ok h
    exact fun _ => rfl

section Planned

variable {workload : Workload} {control : WorkloadControl} {revision : WorkloadRevision}
  {desired : ℕ} {time : ℤ} {plan : ReplicaSetReconfiguration}

def replicasOf (t : ReplicaTables) (workload : Workload) : List WorkloadReplica :=
  t.replicas.rows.filter (fun replica =>
    replica.organizationId = workload.organizationId ∧ replica.workloadId = workload.id)

variable {replica replica' : WorkloadReplica}

theorem Consistent.mem_replicasOf (h : t.Consistent X ids)
    (hworkload : t.workloads.get? workload.id = some workload) :
    replica ∈ t.replicasOf workload ↔
      t.replicas.get? replica.id = some replica ∧ replica.workloadId = workload.id := by
  simp only [replicasOf, mem_filter, decide_eq_true_eq, get?_eq_some_iff]
  constructor
  · rintro ⟨hmem, -, hid⟩
    exact ⟨⟨hmem, rfl⟩, hid⟩
  · rintro ⟨⟨hmem, -⟩, hid⟩
    obtain ⟨w, hw, horganization⟩ :=
      (h.stored _ replica (get?_eq_some_iff.2 ⟨hmem, rfl⟩)).workload
    rw [hid, hworkload] at hw
    cases hw
    exact ⟨hmem, horganization.symm, hid⟩

/-- Two stored replicas of one ordinal of a Workload are the same. -/
theorem Consistent.replica_unique (h : t.Consistent X ids) {id' : Uuid}
    (hreplica : t.replicas.get? id = some replica) (hreplica' : t.replicas.get? id' = some replica')
    (hworkload : replica.workloadId = replica'.workloadId)
    (hordinal : replica.ordinal = replica'.ordinal) : replica = replica' := by
  have hid := (h.stored _ _ hreplica).identifier
  rw [hworkload, hordinal, (h.stored _ _ hreplica').identifier] at hid
  rw [← show replica.id = id from (get?_eq_some_iff.1 hreplica).2, ← Except.ok.inj hid,
    show replica'.id = id' from (get?_eq_some_iff.1 hreplica').2, hreplica'] at hreplica
  exact (Option.some.inj hreplica).symm

theorem Consistent.lifecycle_of_planned (h : t.Consistent X ids)
    (hworkload : t.workloads.get? workload.id = some workload)
    (hplanned : ReplicaSet.Planned X workload control revision (t.replicasOf workload) desired time
      plan) (hreplica : replica ∈ t.replicasOf workload)
    (hlt : replica.ordinal < control.desiredReplicas) : replica.lifecycle = .desired := by
  obtain ⟨current, hcurrent, hordinal, hdesired⟩ := hplanned.current _ hlt
  obtain ⟨hget, hid⟩ := (h.mem_replicasOf hworkload).1 hreplica
  obtain ⟨hget', hid'⟩ := (h.mem_replicasOf hworkload).1 hcurrent
  rw [h.replica_unique hget hget' (hid.trans hid'.symm) hordinal.symm]
  exact hdesired

theorem Consistent.fits_of_planned (h : t.Consistent X ids)
    (hworkload : t.workloads.get? workload.id = some workload)
    (hcontrol : t.controls.get? workload.id = some control)
    (hplanned : ReplicaSet.Planned X workload control revision (t.replicasOf workload) desired time
      plan) (hreplica' : replica' ∈ plan.replicas) : replica'.Fits desired := by
  unfold WorkloadReplica.Fits
  split_ifs with hlt
  · obtain ⟨current, hcurrent, hordinal, hdesired⟩ := hplanned.next.1 _ hlt
    rw [← inj_on_of_nodup_map hplanned.distinct hcurrent hreplica' hordinal]
    exact .inl hdesired
  · have hnot := hplanned.next.2 replica' hreplica' (not_lt.1 hlt)
    rcases hplanned.origin replica' hreplica' with ⟨replica, hreplica, hmoved⟩ | ⟨m, -, hcreated⟩
    · obtain ⟨hget, hid⟩ := (h.mem_replicasOf hworkload).1 hreplica
      have hfits := (h.stored _ _ hget).fits control (by rw [hid]; exact hcontrol)
      cases hmoved with
      | kept =>
        have hge : ¬ replica'.ordinal < control.desiredReplicas :=
          fun hold => hnot (h.lifecycle_of_planned hworkload hplanned hreplica hold)
        rwa [WorkloadReplica.Fits, if_neg hge] at hfits
      | retired _ hhigh hretired =>
        have hdesired := h.lifecycle_of_planned hworkload hplanned hreplica hhigh
        rcases requestRetirement_ok hretired with ⟨hne, -⟩ | ⟨-, rfl⟩
        · exact absurd hdesired hne
        · exact .inl ⟨rfl, rfl⟩
      | reactivated _ hhigh hreactivated =>
        rw [(moved_continues (.reactivated ‹_› hhigh hreactivated)).ordinal] at hlt
        exact absurd hhigh hlt
    · obtain ⟨-, -, -, -, -, -, -, -, -, hlifecycle, -⟩ :=
        forOrdinal_ok hcreated.ofOrdinal
      exact absurd hlifecycle hnot

theorem Consistent.resized_of_planned (h : t.Consistent X ids) (hids : DistinctReplicaIds X ids)
    (hworkload : t.workloads.get? workload.id = some workload)
    (hcontrol : t.controls.get? workload.id = some control)
    (hplanned : ReplicaSet.Planned X workload control revision (t.replicasOf workload) desired time
      plan) (hmembers : ∀ member ∈ plan.membersToCreate, t.members.get? member.id = none) :
    Resized X t workload plan.control plan.replicas plan.membersToCreate := by
  have hknown := h.known _ _ hworkload
  have hidentity : ∀ replica ∈ plan.replicas, replica.workloadId = workload.id ∧
      replica.organizationId = workload.organizationId ∧
      WorkloadReplica.deterministicId X workload.id replica.ordinal = .ok replica.id := by
    intro replica' hreplica'
    rcases hplanned.origin replica' hreplica' with ⟨replica, hreplica, hmoved⟩ | ⟨m, -, hcreated⟩
    · obtain ⟨hget, hid⟩ := (h.mem_replicasOf hworkload).1 hreplica
      obtain ⟨w, hw, horganization⟩ := (h.stored _ _ hget).workload
      rw [hid, hworkload] at hw
      cases hw
      have hsame := moved_continues hmoved
      refine ⟨hsame.workloadId.trans hid, hsame.organizationId.trans horganization.symm, ?_⟩
      rw [hsame.ordinal, hsame.id, ← hid]
      exact (h.stored _ _ hget).identifier
    · obtain ⟨hid, horganization, -, -, hwid, -⟩ :=
        forOrdinal_ok hcreated.ofOrdinal
      exact ⟨hwid, horganization, hid⟩
  have hcontrolId : control.workloadId = workload.id := (get?_eq_some_iff.1 hcontrol).2
  refine ⟨?_, hidentity, hplanned.distinct, ?_, ?_, ?_, ?_, ?_, ?_, ?_⟩
  · exact (congrArg (fun i => i.2.2.2) hplanned.identity).trans hcontrolId
  · intro replica' hreplica'
    rcases hplanned.origin replica' hreplica' with ⟨replica, hreplica, hmoved⟩ | ⟨m, -, hcreated⟩
    · exact moved_unfenced hmoved
        (h.stored _ _ ((h.mem_replicasOf hworkload).1 hreplica).1).unfenced
    · obtain ⟨-, -, -, -, -, -, -, -, -, -, -, hfence, -⟩ :=
        forOrdinal_ok hcreated.ofOrdinal
      exact fun _ => hfence
  · intro replica' hreplica'
    rw [hplanned.desiredReplicas]
    exact h.fits_of_planned hworkload hcontrol hplanned hreplica'
  · intro ordinal hlt
    obtain ⟨replica, hreplica, hordinal, -⟩ :=
      hplanned.next.1 ordinal (hplanned.desiredReplicas ▸ hlt)
    exact ⟨replica, hreplica, hordinal⟩
  · intro id replica hreplica hid
    have hkey : replica.id = id := (get?_eq_some_iff.1 hreplica).2
    obtain ⟨replica', hreplica', hmoved⟩ :=
      hplanned.moved replica ((h.mem_replicasOf hworkload).2 ⟨hkey ▸ hreplica, hid⟩)
    have hcontinues := moved_continues hmoved
    exact ⟨replica', hreplica', hcontinues.id.trans hkey, hcontinues⟩
  · intro replica' hreplica' hnone
    rcases hplanned.origin replica' hreplica' with ⟨replica, hreplica, hmoved⟩ | ⟨m, hm, hcreated⟩
    · rw [(moved_continues hmoved).id, ((h.mem_replicasOf hworkload).1 hreplica).1] at hnone
      cases hnone
    · exact ⟨m, hm, (forReplica_ok hcreated.ofReplica).1⟩
  · intro m hm
    obtain ⟨replica', hreplica', hcreated⟩ := hplanned.members m hm
    obtain ⟨hid, hreplicaId, hnode, -⟩ := forReplica_ok hcreated.ofReplica
    exact ⟨hreplicaId.trans hid.symm, hnode, hmembers m hm, replica', hreplica', hid.symm⟩
  · intro m hm m' hm' hkey
    obtain ⟨replica, hreplica, hcreated⟩ := hplanned.members m hm
    obtain ⟨replica', hreplica', hcreated'⟩ := hplanned.members m' hm'
    have hid : replica.id = replica'.id := by
      rw [← (forReplica_ok hcreated.ofReplica).1,
        ← (forReplica_ok hcreated'.ofReplica).1]
      exact hkey
    have hordinal := (hids _ hknown _ hknown _ _ _ (hidentity replica hreplica).2.2
      (hid ▸ (hidentity replica' hreplica').2.2)).2
    obtain rfl := inj_on_of_nodup_map hplanned.distinct hreplica hreplica' hordinal
    exact Except.ok.inj (hcreated.ofReplica.symm.trans hcreated'.ofReplica)

end Planned

/-! ### Bindings -/

theorem binding_of_create {deployment : Deployment} {revision : WorkloadRevision}
    (h : create X deployment revision replica member = .ok binding) :
    binding.deploymentId = deployment.id ∧ binding.replicaId = replica.id ∧
      binding.replicaGeneration = replica.generation := by
  obtain ⟨⟨unitId, -, rfl⟩, -⟩ := create_ok h
  exact ⟨rfl, rfl, rfl⟩

theorem Consistent.bindNext (h : t.Consistent X ids)
    (hreplica : t.replicas.get? replica.id = some replica) (hsame : replica.SameReplica replica')
    (hgeneration : replica'.generation = replica.generation + 1)
    (hdesired : replica.lifecycle = .desired ∧ replica'.lifecycle = .desired)
    (hfence : replica'.runtimeFencedAt = replica.runtimeFencedAt)
    (hbinding : binding.replicaId = replica'.id ∧
      binding.replicaGeneration = replica'.generation) :
    Consistent X ids { t with
      replicas := t.replicas.insert replica'
      bindings := t.bindings.insert binding } := by
  have hstored := h.stored _ replica hreplica
  have hnext : Consistent X ids { t with replicas := t.replicas.insert replica' } := by
    refine h.insertReplica hreplica hsame (by omega)
      (fun _ => hfence.trans (hstored.unfenced hdesired.1)) fun control hcontrol => ?_
    have hfits := hstored.fits control hcontrol
    unfold WorkloadReplica.Fits at hfits ⊢
    rw [hsame.ordinal]
    split_ifs at hfits ⊢ with hlt
    · exact .inl hdesired.2
    · rcases hfits with ⟨hretiring, -⟩ | hretired
      · rw [hdesired.1] at hretiring
        cases hretiring
      · rw [hdesired.1] at hretired
        cases hretired
  have hget : (t.replicas.insert replica').get? binding.replicaId = some replica' := by
    rw [hbinding.1]
    exact get?_insert_self _ _
  refine hnext.insertBinding hget hbinding.2.le fun id b hb hid hgen => ?_
  obtain ⟨r, hr, hle⟩ := h.bound id b hb
  rw [hid, hbinding.1, hsame.id, hreplica] at hr
  cases hr
  rw [hgen, hbinding.2, hgeneration] at hle
  omega

end ReplicaTables

/-! ### Steps of the repository -/

namespace WorkloadStore

open ReplicaTables

variable {X : External} {V : WorkloadServices} {ids : Set Uuid} {s s' : WorkloadStore}
  {action : WorkloadAction}

/-- The action creates no Workload outside a set of identifiers. -/
def CreatesIn (ids : Set Uuid) : WorkloadAction → Prop
  | .createDeployment request => request.workload.id ∈ ids
  | _ => True

instance (ids : Set Uuid) [DecidablePred (· ∈ ids)] (action : WorkloadAction) :
    Decidable (CreatesIn ids action) := by
  cases action <;> unfold CreatesIn <;> infer_instance

variable {request : CreateDeploymentBundle} {target : DeploymentTarget}
  {response : DeploymentBundle} {replica replica' : WorkloadReplica}
  {member member' : WorkloadReplicaMember} {fencedNodeId : Option Uuid}

theorem replicaTables_created (hnew : s.workloads.get? request.workload.id = none) :
    (s.storeDeployment request target binding response).replicaTables =
      { s.replicaTables.resize (s.workloads.insert request.workload) target.control target.replicas
          target.members with bindings := s.bindings.insert binding } := by
  simp only [storeDeployment, storeWorkload, hnew]
  rfl

theorem replicaTables_updated {existing : Workload} {control : WorkloadControl}
    (hexisting : s.workloads.get? request.workload.id = some existing) :
    (s.storeDeployment request ⟨control, [replica], [member]⟩ binding response).replicaTables =
      { s.replicaTables with
        controls := s.controls.insert control
        replicas := s.replicas.insert replica
        bindings := s.bindings.insert binding } := by
  simp only [storeDeployment, storeWorkload, hexisting]
  rfl

theorem consistent_created (hids : DistinctReplicaIds X ids) (hs : s.replicaTables.Consistent X ids)
    (hknown : request.workload.id ∈ ids) (hnew : s.workloads.get? request.workload.id = none)
    (hcontrol : WorkloadControl.create request.workload request.control = .ok target.control)
    (hreplicas : NewReplicas X request target)
    (hbinding : ∃ replica member, target.replicas.head? = some replica ∧
      target.members.head? = some member ∧ create X request.deployment
        request.revision replica member = .ok binding) :
    (s.storeDeployment request target binding response).replicaTables.Consistent X ids ∧
      s.replicaTables.Evolves (s.storeDeployment request target binding response).replicaTables := by
  obtain ⟨replica, member, hreplica, -, hbinding⟩ := hbinding
  have hresized := hs.resized_of_created hids hknown hnew hcontrol hreplicas
  rw [replicaTables_created hnew]
  have hmem : replica ∈ target.replicas := mem_of_mem_head? hreplica
  have hevolves := hresized.evolves hs hids hknown (s.workloads.insert request.workload)
  refine ⟨?_, hevolves.replica, hevolves.member, hevolves.newMember⟩
  obtain ⟨-, hreplicaId, hgeneration⟩ := binding_of_create hbinding
  have hworkload : (s.workloads.insert request.workload).get? request.workload.id =
      some request.workload := get?_insert_self _ _
  have hothers : ∀ id, id ≠ request.workload.id →
      (s.workloads.insert request.workload).get? id = s.workloads.get? id := by
    intro id hne
    rw [get?_insert]
    exact if_neg hne
  have hget : (s.replicas.insertAll target.replicas).get? binding.replicaId = some replica := by
    rw [hreplicaId]
    exact (get?_insertAll_eq_some (hresized.replica_inj hids hknown)).2 (.inl ⟨hmem, rfl⟩)
  refine (hresized.consistent hs hids hknown hworkload hothers).insertBinding hget hgeneration.le
    fun id b hb hid _ => ?_
  -- no binding can be to a replica of a Workload that was not there
  obtain ⟨r, hr, -⟩ := hs.bound id b hb
  rw [hid, hreplicaId] at hr
  exact absurd (hs.replica_of_identifier hids hknown (hresized.identity replica hmem).2.2 hr).1
    (hs.workloadId_ne hnew hr)

theorem consistent_updated (hs : s.replicaTables.Consistent X ids)
    {control control' : WorkloadControl} {changed : Bool}
    (hexisting : s.workloads.get? request.workload.id = some request.workload)
    (hcontrol : s.controls.get? request.workload.id = some control)
    (hauthorized : control.authorizeDeployment request.control request.revision.createdAt =
      .ok (control', changed)) (hreplica : s.replicas.get? request.workload.id = some replica)
    (hadvanced : replica.advance request.revision request.revision.createdAt = .ok replica')
    (hbinding : create X request.deployment request.revision replica'
      member = .ok binding) :
    (s.storeDeployment request ⟨control', [replica'], [member]⟩ binding
        response).replicaTables.Consistent X ids ∧
      s.replicaTables.Evolves (s.storeDeployment request ⟨control', [replica'], [member]⟩ binding
        response).replicaTables := by
  rw [replicaTables_updated hexisting]
  obtain ⟨-, -, hdesired, heq⟩ := advance_ok hadvanced
  obtain ⟨hsame, hnext, hdesired', hfence⟩ : replica.SameReplica replica' ∧
      replica'.generation = replica.generation + 1 ∧ replica'.lifecycle = .desired ∧
      replica'.runtimeFencedAt = replica.runtimeFencedAt := by
    rw [heq]
    exact ⟨⟨rfl, rfl, rfl, rfl⟩, rfl, hdesired, rfl⟩
  obtain ⟨hidentity, hdesiredReplicas, -⟩ := WorkloadControl.authorizeDeployment_ok hauthorized
  obtain ⟨-, hreplicaId, hgeneration⟩ := binding_of_create hbinding
  have hkey : replica.id = request.workload.id := (get?_eq_some_iff.1 hreplica).2
  have hcontrolKey : control.workloadId = request.workload.id :=
    (get?_eq_some_iff.1 hcontrol).2
  have hstored : s.replicas.get? replica.id = some replica := hkey ▸ hreplica
  have hsameControl : control'.workloadId = control.workloadId :=
    congrArg (fun i => i.2.2.2) hidentity
  have hcontrolled := hs.insertControl (hcontrolKey ▸ hcontrol) hsameControl hdesiredReplicas
  refine ⟨hcontrolled.bindNext hstored hsame hnext ⟨hdesired, hdesired'⟩ hfence
    ⟨hreplicaId, hgeneration⟩, ?_⟩
  have hevolves := Evolves.insertReplica (t := s.replicaTables) hstored
    (.next hsame hnext (hfence.trans ((hs.stored _ replica hstored).unfenced hdesired)))
  exact ⟨hevolves.replica, hevolves.member, hevolves.newMember⟩

/-- What the operations on one retiring replica keep. -/
theorem Retires.same (h : replica.Retires replica') :
    replica.Continues replica' ∧ replica'.lifecycle = replica.lifecycle ∧
      replica'.evacuationNodeId = replica.evacuationNodeId ∧
      (replica' = replica ∨ replica.lifecycle = .retiring) := by
  cases h with
  | kept => exact ⟨.refl _, rfl, rfl, .inl rfl⟩
  | dispatched commandId time hretiring | fenced time hretiring =>
    exact ⟨.within ⟨rfl, rfl, rfl, rfl⟩ rfl rfl, rfl, rfl, .inr hretiring⟩

variable {time : ℤ}

theorem releaseFenced_ok (h : releaseFenced member fencedNodeId time = .ok member') :
    member'.id = member.id ∧ member'.replicaId = member.replicaId ∧
      member'.placementGeneration = member.placementGeneration ∧
      (member'.nodeId = member.nodeId ∨
        (member'.nodeId = none ∧ fencedNodeId.isSome = true)) := by
  cases fencedNodeId with
  | none =>
    cases h
    exact ⟨rfl, rfl, rfl, .inl rfl⟩
  | some =>
    rcases releaseAfterFencing_ok (mapError_ok_iff.1 h) with
      ⟨-, rfl⟩ | ⟨-, rfl⟩
    · exact ⟨rfl, rfl, rfl, .inl rfl⟩
    · exact ⟨rfl, rfl, rfl, .inr ⟨rfl, rfl⟩⟩

theorem consistent_retires (hs : s.replicaTables.Consistent X ids)
    (hreplica : s.replicas.get? replica.id = some replica) (hretires : replica.Retires replica') :
    Consistent X ids { s.replicaTables with replicas := s.replicas.insert replica' } ∧
      s.replicaTables.Evolves
        { s.replicaTables with replicas := s.replicas.insert replica' } := by
  obtain ⟨hcontinues, hlifecycle, hevacuation, hretiring⟩ := Retires.same hretires
  have hstored := hs.stored _ replica hreplica
  refine ⟨hs.insertReplica hreplica hcontinues.toSameReplica hcontinues.generation ?_ ?_,
    .insertReplica hreplica hcontinues⟩
  · intro hdesired
    rcases hretiring with rfl | hretiring
    · exact hstored.unfenced hdesired
    · rw [hlifecycle, hretiring] at hdesired
      cases hdesired
  · intro control hcontrol
    have hfits := hstored.fits control hcontrol
    unfold WorkloadReplica.Fits at hfits ⊢
    rwa [hcontinues.ordinal, hlifecycle, hevacuation]

theorem consistent_finished (hs : s.replicaTables.Consistent X ids) {control : WorkloadControl}
    (hcontrol : s.controls.get? replica.workloadId = some control)
    (hreplica : s.replicas.get? replica.id = some replica)
    (hmember : s.members.get? member.id = some member)
    (hmemberReplica : member.replicaId = replica.id) (hretiring : replica.lifecycle = .retiring)
    (hremains : replica.evacuationNodeId.isSome =
      decide (replica.ordinal < control.desiredReplicas))
    (hfenced : fencedNodeId.isSome = true → replica.runtimeFencedAt ≠ none)
    (hreleased : releaseFenced member fencedNodeId time = .ok member')
    (hfinished : (replica.evacuationNodeId.isSome = true ∧
        replica' = replica.renewed (replica.generation + 1) (replica.aggregateVersion + 1)
          (canonicalTimestamp time)) ∨
      (replica.evacuationNodeId = none ∧ replica' = { replica with
        lifecycle := .retired
        aggregateVersion := replica.aggregateVersion + 1
        updatedAt := canonicalTimestamp time })) :
    Consistent X ids { s.replicaTables with
        members := s.members.insert member'
        replicas := s.replicas.insert replica' } ∧
      s.replicaTables.Evolves { s.replicaTables with
        members := s.members.insert member'
        replicas := s.replicas.insert replica' } := by
  obtain ⟨hid, hreplicaId, -, hnode⟩ := releaseFenced_ok hreleased
  obtain ⟨hcontinues, hunfenced, hfits⟩ : replica.Continues replica' ∧
      (replica'.lifecycle = .desired → replica'.runtimeFencedAt = none) ∧
      replica'.Fits control.desiredReplicas := by
    rcases hfinished with ⟨hsome, rfl⟩ | ⟨hnone, rfl⟩
    · rw [hsome, eq_comm, decide_eq_true_eq] at hremains
      exact ⟨.next ⟨rfl, rfl, rfl, rfl⟩ rfl rfl, fun _ => rfl,
        fits_of_lt hremains (.inl rfl)⟩
    · rw [hnone, Option.isSome_none, eq_comm, decide_eq_false_iff_not] at hremains
      exact ⟨.within ⟨rfl, rfl, rfl, rfl⟩ rfl rfl, nofun,
        fits_of_not_lt hremains (.inr rfl)⟩
  have hreleasedNode : member'.nodeId = member.nodeId ∨ member.nodeId = none ∨
      (member'.nodeId = none ∧ ∃ replica, s.replicas.get? member.replicaId = some replica ∧
        replica.lifecycle = .retiring ∧ replica.runtimeFencedAt ≠ none) := by
    rcases hnode with hnode | ⟨hnone, hsome⟩
    · exact .inl hnode
    · exact .inr (.inr ⟨hnone, replica, hmemberReplica ▸ hreplica, hretiring, hfenced hsome⟩)
  have hmembers := Evolves.insertMember (t := s.replicaTables) hmember hid hreleasedNode
  have hreplicas := Evolves.insertReplica (t := s.replicaTables) hreplica hcontinues
  refine ⟨(hs.insertMember hmember hid hreplicaId).insertReplica hreplica hcontinues.toSameReplica
    hcontinues.generation hunfenced ?_, hreplicas.replica, hmembers.member, hmembers.newMember⟩
  intro c hc
  rw [show s.replicaTables.controls = s.controls from rfl, hcontrol] at hc
  cases hc
  exact hfits

/-- A step keeps the invariant and lets the replicas and members evolve. -/
theorem consistent_step (hids : DistinctReplicaIds X ids) (hs : s.replicaTables.Consistent X ids)
    (hknown : CreatesIn ids action) :
    (s.step X V action).replicaTables.Consistent X ids ∧
      s.replicaTables.Evolves (s.step X V action).replicaTables := by
  have hchange := step_change (X := X) (V := V) s action
  generalize s.step X V action = s' at hchange
  cases hchange with
  | unchanged | deploymentMoved | deploymentEnded | revisionResolved | runtimeBound =>
    exact ⟨hs, .refl _⟩
  | workloadStopped workload workload' idempotency hworkload hsame =>
    have hevolves := Evolves.refl s.replicaTables
    exact ⟨hs.insertWorkload (get?_eq_some_iff.2 ⟨hworkload, rfl⟩) hsame, hevolves.replica,
      hevolves.member, hevolves.newMember⟩
  | activated deployment deployment' workload workload' hdeployment hdesired hworkload hsame hstatus
      hidentity hactive =>
    have hevolves := Evolves.refl s.replicaTables
    exact ⟨hs.insertWorkload (get?_key hworkload) hidentity, hevolves.replica,
      hevolves.member, hevolves.newMember⟩
  | created request target binding response haction hnew hbundle hfresh hcontrol hreplicas
      hbinding =>
    subst haction
    exact consistent_created hids hs hknown hnew hcontrol hreplicas hbinding
  | updated request control control' changed replica replica' member binding response haction
      hexisting hbundle hfresh hterminal hcontrol hauthorized hreplica hadvanced hmember hbinding =>
    exact consistent_updated hs hexisting hcontrol hauthorized hreplica hadvanced hbinding
  | reconfigured workload control revision write plan idempotency hworkload hcontrol hrevision
      hplanned hmembers =>
    have hknown' := hs.known _ _ hworkload
    have hresized := hs.resized_of_planned hids hworkload hcontrol hplanned hmembers
    exact ⟨hresized.consistent hs hids hknown' hworkload fun _ _ => rfl,
      hresized.evolves hs hids hknown' s.workloads⟩
  | assigned deployment deployment' binding binding' member member' nodeId time hdeployment hdesired
      hmoved hbinding hmember hplaced hassigned =>
    obtain ⟨-, -, -, rfl⟩ := assign_ok hassigned
    have hstored : s.members.get? member.id = some member := get?_key hmember
    have hid : binding.deploymentId = deployment.id := (get?_eq_some_iff.1 hbinding).2
    obtain ⟨hmemberId, hreplicaId, hnode⟩ : member'.id = member.id ∧
        member'.replicaId = member.replicaId ∧
        (member'.nodeId = member.nodeId ∨ member.nodeId = none) := by
      rcases place_ok hplaced with ⟨hsome, rfl⟩ | ⟨hnone, -, rfl⟩
      · exact ⟨rfl, rfl, .inl rfl⟩
      · exact ⟨rfl, rfl, .inr hnone⟩
    have hevolves := Evolves.insertMember (t := s.replicaTables) hstored hmemberId
      (hnode.imp_right .inl)
    obtain ⟨replica, hreplica, hle⟩ := hs.bound _ binding hbinding
    refine ⟨(hs.insertMember hstored hmemberId hreplicaId).insertBinding hreplica hle
      fun id b hb hsame hsame' => ?_, hevolves.replica, hevolves.member, hevolves.newMember⟩
    exact (hs.single id _ b binding hb hbinding hsame hsame').trans hid.symm
  | materialized workload control revision replica member deployment binding hworkload hcontrol
      hrevision hreplica hmember hwanted hunbound hcreated hbinding hfresh =>
    obtain ⟨-, hreplicaId, hgeneration⟩ := binding_of_create hbinding
    have hevolves := Evolves.refl s.replicaTables
    refine ⟨hs.insertBinding (hreplicaId ▸ hreplica) hgeneration.le fun id b hb hsame hsame' => ?_,
      hevolves.replica, hevolves.member, hevolves.newMember⟩
    refine absurd ?_ (find?_eq_none.1 hunbound b (get?_eq_some_iff.1 hb).1)
    exact decide_eq_true ⟨hsame.trans hreplicaId, hsame'.trans hgeneration⟩
  | evacuationRequested control replica nodeId time hcontrol hreplica hdesired hordinal =>
    refine ⟨hs.insertReplica hreplica ⟨rfl, rfl, rfl, rfl⟩ le_rfl nofun fun c hc => ?_,
      .insertReplica hreplica (.within ⟨rfl, rfl, rfl, rfl⟩ rfl rfl)⟩
    rw [show s.replicaTables.controls = s.controls from rfl, hcontrol] at hc
    cases hc
    exact fits_of_lt hordinal (.inr ⟨rfl, nofun⟩)
  | replicaRetires replica replica' hreplica hretires => exact consistent_retires hs hreplica hretires
  | replicaFinished control replica replica' member member' fencedNodeId time hcontrol hreplica
      hmember hmemberReplica hretiring hremains hfenced hreleased hfinished =>
    exact consistent_finished hs hcontrol hreplica hmember hmemberReplica hretiring hremains hfenced
      hreleased hfinished

/-! ### Runs of the repository -/

/-- The replica sets of a state. -/
structure ReplicaSetsHold (s : WorkloadStore) : Prop where
  owned : ∀ replica ∈ s.replicas.rows, ∃ workload ∈ s.workloads.rows,
    workload.id = replica.workloadId
  controlled : ∀ workload ∈ s.workloads.rows,
    ∃ control, s.controls.get? workload.id = some control
  complete : ∀ workload ∈ s.workloads.rows, ∀ control,
    s.controls.get? workload.id = some control → ∀ ordinal < control.desiredReplicas,
      ∃ replica ∈ s.replicas.rows, replica.workloadId = workload.id ∧ replica.ordinal = ordinal
  below : ∀ replica ∈ s.replicas.rows, ∀ control,
    s.controls.get? replica.workloadId = some control →
      replica.ordinal < control.desiredReplicas → replica.lifecycle = .desired ∨
        (replica.lifecycle = .retiring ∧ replica.evacuationNodeId ≠ none)
  above : ∀ replica ∈ s.replicas.rows, ∀ control,
    s.controls.get? replica.workloadId = some control →
      control.desiredReplicas ≤ replica.ordinal →
        (replica.lifecycle = .retiring ∧ replica.evacuationNodeId = none) ∨
          replica.lifecycle = .retired
  bound : ∀ binding ∈ s.bindings.rows, ∀ binding' ∈ s.bindings.rows,
    binding.replicaId = binding'.replicaId →
      binding.replicaGeneration = binding'.replicaGeneration → binding = binding'

/-- What a step does to the replicas and members that are there. The fence of a replica is one of its
current generation, since a later generation begins without one. -/
structure ReplicasEvolve (s s' : WorkloadStore) : Prop where
  generation : ∀ replica ∈ s.replicas.rows, ∃ replica' ∈ s'.replicas.rows,
    replica'.id = replica.id ∧ replica.generation ≤ replica'.generation ∧
      (replica.generation < replica'.generation → replica'.runtimeFencedAt = none)
  node : ∀ member ∈ s.members.rows, ∃ member' ∈ s'.members.rows, member'.id = member.id ∧
    (member'.nodeId ≠ member.nodeId → member.nodeId = none ∨
      (member'.nodeId = none ∧ ∃ replica ∈ s.replicas.rows, replica.id = member.replicaId ∧
        replica.lifecycle = .retiring ∧ replica.runtimeFencedAt ≠ none))
  newNode : ∀ member' ∈ s'.members.rows, s.members.get? member'.id = none → member'.nodeId = none

theorem replicaSetsHold_of_consistent (h : s.replicaTables.Consistent X ids) :
    s.ReplicaSetsHold where
  owned replica hreplica := by
    obtain ⟨workload, hworkload, -⟩ :=
      (h.stored _ replica (get?_eq_some_iff.2 ⟨hreplica, rfl⟩)).workload
    exact ⟨workload, get?_eq_some_iff.1 hworkload⟩
  controlled workload hworkload :=
    h.controlled _ workload (get?_eq_some_iff.2 ⟨hworkload, rfl⟩)
  complete workload hworkload control hcontrol ordinal hlt := by
    obtain ⟨id, replica, hreplica, heq⟩ := h.complete _ workload control
      (get?_eq_some_iff.2 ⟨hworkload, rfl⟩) hcontrol ordinal hlt
    exact ⟨replica, (get?_eq_some_iff.1 hreplica).1, heq⟩
  below replica hreplica control hcontrol hlt := by
    have hfits := (h.stored _ replica (get?_eq_some_iff.2 ⟨hreplica, rfl⟩)).fits control
      hcontrol
    rwa [WorkloadReplica.Fits, if_pos hlt] at hfits
  above replica hreplica control hcontrol hle := by
    have hfits := (h.stored _ replica (get?_eq_some_iff.2 ⟨hreplica, rfl⟩)).fits control
      hcontrol
    rwa [WorkloadReplica.Fits, if_neg (not_lt.2 hle)] at hfits
  bound binding hbinding binding' hbinding' hreplica hgeneration :=
    s.bindings.eq_of_key_eq hbinding hbinding' (h.single _ _ binding binding'
      (get?_eq_some_iff.2 ⟨hbinding, rfl⟩) (get?_eq_some_iff.2 ⟨hbinding', rfl⟩)
      hreplica hgeneration)

theorem replicasEvolve_of_evolves (h : s.replicaTables.Evolves s'.replicaTables) :
    s.ReplicasEvolve s' where
  generation replica hreplica := by
    obtain ⟨replica', hreplica', hcontinues⟩ :=
      h.replica _ replica (get?_eq_some_iff.2 ⟨hreplica, rfl⟩)
    obtain ⟨hmem, hid⟩ := get?_eq_some_iff.1 hreplica'
    exact ⟨replica', hmem, hid, hcontinues.generation, hcontinues.fence⟩
  node member hmember := by
    obtain ⟨member', hmember', hnode⟩ :=
      h.member _ member (get?_eq_some_iff.2 ⟨hmember, rfl⟩)
    obtain ⟨hmem, hid⟩ := get?_eq_some_iff.1 hmember'
    refine ⟨member', hmem, hid, fun hne => ?_⟩
    rcases hnode with hsame | hnone | ⟨hreleased, replica, hreplica, hfenced⟩
    · exact absurd hsame hne
    · exact .inl hnone
    · obtain ⟨hrmem, hrid⟩ := get?_eq_some_iff.1 hreplica
      exact .inr ⟨hreleased, replica, hrmem, hrid, hfenced⟩
  newNode member' hmember' hnone :=
    h.newMember _ member' (get?_eq_some_iff.2 ⟨hmember', rfl⟩) hnone

theorem consistent_run (hids : DistinctReplicaIds X ids) {actions : List WorkloadAction}
    (hactions : ∀ action ∈ actions, CreatesIn ids action) :
    (Runs.run (step X V) empty actions).replicaTables.Consistent X ids :=
  Runs.invariant (I := fun s : WorkloadStore => s.replicaTables.Consistent X ids)
    (fun _ _ hs hknown => (consistent_step hids hs hknown).1) consistent_empty
    (Runs.allowed_of_forall hactions)

/-- In every state that the operations reach the replica sets have the shape that their control
records ask for, and the next operation keeps the generations and only releases fenced members. -/
theorem replicaSets_hold (X : External) (V : WorkloadServices) (ids : Set Uuid)
    (hids : DistinctReplicaIds X ids) (actions : List WorkloadAction)
    (hactions : ∀ action ∈ actions, CreatesIn ids action) :
    (Runs.run (step X V) empty actions).ReplicaSetsHold ∧
      ∀ action, CreatesIn ids action →
        (Runs.run (step X V) empty actions).ReplicasEvolve
          ((Runs.run (step X V) empty actions).step X V action) :=
  have hrun := consistent_run (V := V) hids hactions
  ⟨replicaSetsHold_of_consistent hrun, fun _ hknown =>
    replicasEvolve_of_evolves (consistent_step hids hrun hknown).2⟩

end WorkloadStore

/-! ### A Workload that grows -/

namespace Sample

/-- Services that accept every document. -/
def services : WorkloadServices where
  validateAgentBinding _ _ := .ok ()
  validateMcpBinding _ _ := .ok ()
  validateSkillBindings _ _ := .ok ()
  externalBuildFits _ _ := true
  composeDeploymentOperation _ := .ok ()
  composeStopOperation _ := .ok ()
  resolveRevision _ artifact _ := .ok artifact
  validateRuntimeExecution _ := .ok ()
  validateAdmission _ _ _ _ _ := .ok ()
  validatePlacementLineage _ _ _ := .ok ()
  replicaSetReconfigured _ _ _ := .ok ()
  healthyEnvelope _ _ _ _ _ := .ok ()
  failureEnvelope _ _ _ _ := .ok ()
  deploymentRequested _ _ _ := .ok ()
  evacuationRequested _ _ _ _ := .ok ()
  replicaEvacuated _ _ _ _ _ := .ok ()
  replicaRetired _ _ _ _ _ := .ok ()

/-- Names are read as numbers, so that those of different ordinals differ. -/
def replicaExternal : External :=
  { external with uuidV5 := fun base name =>
      name.toList.foldl (fun n c => 256 * n + c.toNat) (base + 1) }

def workload : Workload := Workload.create workloadId 20 21 22 "web" (seconds 1)

/-- A revision of the Workload, its number being its generation. -/
def revision (n : ℕ) : WorkloadRevision where
  id := 40 + n
  workloadId := workloadId
  generation := n
  createdAt := seconds n
  body := ""

def controlSpec (desiredReplicas : ℕ) : WorkloadControlSpec where
  managedOwner := none
  placementPolicy := {
    generation := 1
    desiredReplicas := desiredReplicas
    membersPerReplica := 1
    topology := .singleNode
    nodePoolId := none }

/-- The request for the deployment of a revision. -/
def deployRevision (workload : Workload) (desiredReplicas n : ℕ) : CreateDeploymentBundle where
  workload := workload
  control := controlSpec desiredReplicas
  revision := revision n
  deployment := Deployment.create (50 + n) 20 workloadId (40 + n) (60 + n) (seconds n)
  operation := {
    operationId := 60 + n
    organizationId := 20
    deploymentId := 50 + n
    revisionId := 40 + n
    workloadId := workloadId
    requestedAt := seconds n }
  idempotency := { scope := "deploy", key := toString n, requestDigest := .sha256 n }

/-- The operations that bring a deployment from its creation to its activation. -/
def rollOut (deploymentId : Uuid) (start : ℕ) : List WorkloadAction :=
  [.markResolving deploymentId 1 (seconds (start + 1)),
    .assignNode deploymentId 2 nodeId (seconds (start + 2)),
    .markDispatched deploymentId 3 deploymentId (seconds (start + 3)),
    .markVerifying deploymentId 4 (seconds (start + 4)),
    .activate deploymentId 5 false (seconds (start + 5))]

def activatedWorkload (time : ℕ) : Workload :=
  { workload with
    activeRevisionId := some 41
    aggregateVersion := 2
    updatedAt := seconds time }

/-- The first revision is active and the second one is requested. -/
def updated : List WorkloadAction :=
  .createDeployment (deployRevision workload 1 1) :: rollOut 51 10 ++
    [.createDeployment (deployRevision (activatedWorkload 15) 1 2)]

def scaleTo (desiredReplicas : ℕ) : ReconfigureReplicaSetWrite where
  organizationId := 20
  workloadId := workloadId
  expectedControlVersion := 1
  expectedPolicyGeneration := 1
  desiredReplicas := desiredReplicas
  managedOwner := none
  idempotency := { scope := "scale", key := "", requestDigest := .sha256 desiredReplicas }
  correlationId := 5
  requestedAt := seconds 2

/-- A Workload with two replicas that gets a third one. -/
def growing : List WorkloadAction :=
  [.createDeployment (deployRevision workload 2 1), .reconfigureReplicaSet (scaleTo 3)]

theorem distinctReplicaIds : DistinctReplicaIds replicaExternal {workloadId} := by
  have hnodup : ((range 100).map fun ordinal =>
      (WorkloadReplica.deterministicId replicaExternal workloadId ordinal).toOption).Nodup := by
    decide +kernel
  have hlt : ∀ {ordinal id}, WorkloadReplica.deterministicId replicaExternal workloadId ordinal =
      .ok id → ordinal ∈ range 100 := by
    intro ordinal id h
    simp only [WorkloadReplica.deterministicId, ok_rules, not_le] at h
    exact mem_range.2 h.1
  rintro _ rfl _ rfl ordinal ordinal' id h h'
  exact ⟨rfl, inj_on_of_nodup_map hnodup (hlt h) (hlt h') (by rw [h, h'])⟩

instance : DecidablePred (· ∈ ({workloadId} : Set Uuid)) :=
  fun id => inferInstanceAs (Decidable (id = workloadId))

theorem replicaSets_hold_growing :
    (∃ replica ∈ (Runs.run (step replicaExternal services) WorkloadStore.empty
        growing).replicas.rows, replica.ordinal = 2) ∧
      (Runs.run (step replicaExternal services) WorkloadStore.empty
        growing).ReplicaSetsHold :=
  ⟨by decide +kernel, (replicaSets_hold replicaExternal services {workloadId}
    distinctReplicaIds growing (by decide +kernel)).1⟩

end Sample

end A3SCloud
