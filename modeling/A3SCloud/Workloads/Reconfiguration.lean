import Mathlib.Data.List.Sort
import A3SCloud.Workloads.Control

/-!
# Reconfiguring a replica set

The model of `modules/workloads/domain/services/replica_set_reconfiguration.rs`.

* `planReplicaSetReconfiguration` retires, reactivates or creates the replicas of the ordinals that
  come or go with a new number of replicas.
* `planReplicaSetReconfiguration_ok` says what a plan does to each replica of the set (`Planned`).
-/

namespace A3SCloud

open Checks List WorkloadReplica

variable (X : External)

structure ReplicaSetReconfiguration where
  control : WorkloadControl
  replicas : List WorkloadReplica
  membersToCreate : List WorkloadReplicaMember
  deriving DecidableEq

inductive ReplicaSetReconfigurationError
  | conflict (message : String)
  | invariant (message : String)
  deriving DecidableEq

namespace ReplicaSet

open ReplicaSetReconfigurationError

/-! ### The checks of a set -/

/-- `sort_by_key(|replica| (replica.ordinal, replica.id))`. -/
def sortReplicas (replicas : List WorkloadReplica) : List WorkloadReplica :=
  replicas.insertionSort
    (fun a b => a.ordinal < b.ordinal ∨ (a.ordinal = b.ordinal ∧ a.id ≤ b.id))

/-- `sort_by_key(|member| (member.replica_id, member.ordinal, member.id))`. -/
def sortMembers (members : List WorkloadReplicaMember) : List WorkloadReplicaMember :=
  members.insertionSort (fun a b => [a.replicaId, a.ordinal, a.id] ≤ [b.replicaId, b.ordinal, b.id])

/-- The replicas are valid replicas of the Workload and their identities do not repeat. -/
def validateIdentities (workload : Workload) :
    List Uuid → List ℕ → List WorkloadReplica → Except ReplicaSetReconfigurationError Unit
  | _, _, [] => .ok ()
  | ids, ordinals, replica :: replicas => do
    (replica.validate X).mapError invariant
    refuseIf (replica.organizationId ≠ workload.organizationId ∨
        replica.projectId ≠ workload.projectId ∨
        replica.environmentId ≠ workload.environmentId ∨ replica.workloadId ≠ workload.id ∨
        replica.id ∈ ids ∨ replica.ordinal ∈ ordinals)
      (invariant "Workload replica set has inconsistent or duplicate identities")
    validateIdentities workload (replica.id :: ids) (replica.ordinal :: ordinals) replicas

/-- The desired replicas are those of the ordinals below a number. -/
def validateDesiredPrefix (replicas : List WorkloadReplica) (desiredReplicas : ℕ) :
    Except ReplicaSetReconfigurationError Unit := do
  checkAll (fun ordinal =>
      refuseIf (¬ (replicas.find? (fun replica => replica.ordinal = ordinal)).any
          (fun replica => replica.lifecycle = .desired))
        (invariant ("Workload desired replica ordinal " ++ toString ordinal ++ " is missing")))
    (range desiredReplicas)
  refuseIf (replicas.any (fun replica => desiredReplicas ≤ replica.ordinal ∧
      replica.lifecycle = .desired))
    (invariant "Workload desired replicas are not an ordinal prefix")

def validateCurrentSet (workload : Workload) (control : WorkloadControl)
    (revision : WorkloadRevision) (replicas : List WorkloadReplica) :
    Except ReplicaSetReconfigurationError Unit := do
  (control.validateAgainst workload).mapError invariant
  refuseIf (replicas = []) (invariant "Workload replica set is empty")
  validateIdentities X workload [] [] replicas
  let canonical ← orElse (invariant "Workload replica set is missing ordinal zero")
    (replicas.find? (fun replica => replica.ordinal = 0))
  refuseIf (revision.workloadId ≠ workload.id ∨ canonical.revisionId ≠ revision.id ∨
      canonical.revisionGeneration ≠ revision.generation)
    (invariant "Workload replica set has no canonical current revision")
  validateDesiredPrefix replicas control.desiredReplicas

/-! ### Ordinals that come or go -/

/-- A change of the first replica with an ordinal. -/
def modifyOrdinal (ordinal : ℕ) (missing : ReplicaSetReconfigurationError)
    (f : WorkloadReplica → Except ReplicaSetReconfigurationError WorkloadReplica) :
    List WorkloadReplica → Except ReplicaSetReconfigurationError (List WorkloadReplica)
  | [] => .error missing
  | replica :: replicas =>
    if replica.ordinal = ordinal then do
      let replica ← f replica
      pure (replica :: replicas)
    else do
      let replicas ← modifyOrdinal ordinal missing f replicas
      pure (replica :: replicas)

def missingOrdinal (ordinal : ℕ) : ReplicaSetReconfigurationError :=
  invariant ("desired Workload replica ordinal " ++ toString ordinal ++ " is missing")

def retireOrdinals (time : ℤ) : List ℕ → List WorkloadReplica →
    Except ReplicaSetReconfigurationError (List WorkloadReplica)
  | [], replicas => .ok replicas
  | ordinal :: ordinals, replicas => do
    let replicas ← modifyOrdinal ordinal (missingOrdinal ordinal)
      (fun replica => (replica.requestRetirement time).mapError conflict) replicas
    retireOrdinals time ordinals replicas

/-- The replica of an ordinal is desired again. -/
def reactivateReplica (revision : WorkloadRevision) (time : ℤ) (ordinal : ℕ)
    (replica : WorkloadReplica) : Except ReplicaSetReconfigurationError WorkloadReplica :=
  match replica.lifecycle with
  | .retired => (replica.reactivate revision time).mapError conflict
  | .retiring =>
    .error (conflict ("Workload replica ordinal " ++ toString replica.ordinal ++
      " is still retiring"))
  | .desired =>
    .error (invariant ("Workload replica ordinal " ++ toString ordinal ++
      " is already desired outside the current policy"))

/-- A new replica with its member. -/
def createReplica (workload : Workload) (revision : WorkloadRevision) (ordinal : ℕ) :
    Except ReplicaSetReconfigurationError (WorkloadReplica × WorkloadReplicaMember) := do
  let replica ← (forOrdinal X workload revision ordinal).mapError invariant
  let member ← (WorkloadReplicaMember.forReplica X workload replica).mapError invariant
  pure (replica, member)

def activateOrdinals (workload : Workload) (revision : WorkloadRevision) (time : ℤ) :
    List ℕ → List WorkloadReplica → List WorkloadReplicaMember →
      Except ReplicaSetReconfigurationError (List WorkloadReplica × List WorkloadReplicaMember)
  | [], replicas, members => .ok (replicas, members)
  | ordinal :: ordinals, replicas, members =>
    if replicas.any (fun replica => replica.ordinal = ordinal) then do
      let replicas ← modifyOrdinal ordinal (missingOrdinal ordinal)
        (reactivateReplica revision time ordinal) replicas
      activateOrdinals workload revision time ordinals replicas members
    else do
      let (replica, member) ← createReplica X workload revision ordinal
      activateOrdinals workload revision time ordinals (replicas ++ [replica]) (members ++ [member])

/-- The ordinals that go or come when the number of replicas changes. -/
def moveOrdinals (workload : Workload) (revision : WorkloadRevision) (time : ℤ)
    (previous desired : ℕ) (replicas : List WorkloadReplica) :
    Except ReplicaSetReconfigurationError (List WorkloadReplica × List WorkloadReplicaMember) :=
  if desired < previous then do
    let replicas ← retireOrdinals time (range' desired (previous - desired)) replicas
    pure (replicas, [])
  else activateOrdinals X workload revision time (range' previous (desired - previous))
    replicas []

end ReplicaSet

open ReplicaSet ReplicaSetReconfigurationError in
def planReplicaSetReconfiguration (workload : Workload) (control : WorkloadControl)
    (revision : WorkloadRevision) (replicas : List WorkloadReplica)
    (expectedControlVersion expectedPolicyGeneration desiredReplicas : ℕ)
    (requestedOwner : Option ManagedOwnerReference) (requestedAt : ℤ) :
    Except ReplicaSetReconfigurationError ReplicaSetReconfiguration := do
  let replicas := sortReplicas replicas
  validateCurrentSet X workload control revision replicas
  refuseIf (control.aggregateVersion ≠ expectedControlVersion)
    (conflict ("workload control changed from expected version " ++
      toString expectedControlVersion ++ " to " ++ toString control.aggregateVersion))
  let next ← (control.reconfigureReplicaSet expectedPolicyGeneration desiredReplicas requestedOwner
    requestedAt).mapError conflict
  let (replicas, members) ← moveOrdinals X workload revision requestedAt control.desiredReplicas
    desiredReplicas replicas
  let replicas := sortReplicas replicas
  validateDesiredPrefix replicas desiredReplicas
  pure { control := next, replicas := replicas, membersToCreate := sortMembers members }

namespace ReplicaSet

open ReplicaSetReconfigurationError

variable {X}

/-! ### What a plan does -/

variable {replicas replicas' : List WorkloadReplica} {replica replica' : WorkloadReplica}
  {workload : Workload} {ordinals : List ℕ} {u : Unit} {desired ordinal : ℕ} {time : ℤ}
  {revision : WorkloadRevision} {members : List WorkloadReplicaMember} {control : WorkloadControl}
  {plan : ReplicaSetReconfiguration}

theorem mem_sortReplicas :
    replica ∈ sortReplicas replicas ↔ replica ∈ replicas :=
  (perm_insertionSort _ _).mem_iff

theorem validateIdentities_ok {ids : List Uuid}
    (h : validateIdentities X workload ids ordinals replicas = .ok u) :
    (∀ replica ∈ replicas, replica.validate X = .ok () ∧
        replica.organizationId = workload.organizationId ∧ replica.workloadId = workload.id ∧
        replica.ordinal ∉ ordinals) ∧
      (replicas.map WorkloadReplica.ordinal).Nodup := by
  induction replicas generalizing ids ordinals with
  | nil => simp
  | cons replica replicas ih =>
    simp only [validateIdentities, ok_rules, not_or, ne_eq, not_not] at h
    obtain ⟨hvalid, ⟨horganization, -, -, hworkload, -, hordinal⟩, hrest⟩ := h
    obtain ⟨hmembers, hnodup⟩ := ih hrest
    simp only [mem_cons, not_or] at hmembers
    refine ⟨forall_mem_cons.2 ⟨⟨hvalid, horganization, hworkload, hordinal⟩,
      fun r hr => ?_⟩, ?_⟩
    · obtain ⟨hv, ho, hw, -, hn⟩ := hmembers r hr
      exact ⟨hv, ho, hw, hn⟩
    · rw [map_cons, nodup_cons, mem_map]
      refine ⟨?_, hnodup⟩
      rintro ⟨r, hr, heq⟩
      exact (hmembers r hr).2.2.2.1 heq

theorem validateDesiredPrefix_ok (h : validateDesiredPrefix replicas desired = .ok u) :
    (∀ ordinal < desired, ∃ replica ∈ replicas, replica.ordinal = ordinal ∧
        replica.lifecycle = .desired) ∧
      ∀ replica ∈ replicas, desired ≤ replica.ordinal → replica.lifecycle ≠ .desired := by
  simp only [validateDesiredPrefix, ok_rules, checkAll_ok_iff, not_not, mem_range,
    Option.any_eq_true, decide_eq_true_eq, any_eq_true] at h
  obtain ⟨hfront, hnone⟩ := h
  refine ⟨fun ordinal hlt => ?_,
    fun replica hmem hle hdesired => hnone ⟨replica, hmem, hle, hdesired⟩⟩
  obtain ⟨replica, hfound, hdesired⟩ := hfront ordinal hlt
  exact ⟨replica, mem_of_find?_eq_some hfound,
    by simpa using find?_some hfound, hdesired⟩

section Ordinals

variable {f : WorkloadReplica → Except ReplicaSetReconfigurationError WorkloadReplica}

variable {ordinal : ℕ} {replicas replicas' : List WorkloadReplica}

/-- In a set without repeated ordinals exactly the replica of the ordinal is changed. -/
theorem modifyOrdinal_ok {missing : ReplicaSetReconfigurationError}
    (hnodup : (replicas.map WorkloadReplica.ordinal).Nodup)
    (h : modifyOrdinal ordinal missing f replicas = .ok replicas') :
    Forall₂ (fun r r' => if r.ordinal = ordinal then f r = .ok r' else r' = r)
      replicas replicas' := by
  induction replicas generalizing replicas' with
  | nil => cases h
  | cons replica replicas ih =>
    rw [map_cons, nodup_cons] at hnodup
    rw [modifyOrdinal] at h
    split_ifs at h with hordinal
    · simp only [ok_rules] at h
      obtain ⟨replica', hreplica, rfl⟩ := h
      refine .cons (by rw [if_pos hordinal, hreplica]) ?_
      refine forall₂_same.2 fun r hr => ?_
      rw [if_neg fun heq => hnodup.1 (mem_map.2 ⟨r, hr, heq.trans hordinal.symm⟩)]
    · simp only [ok_rules] at h
      obtain ⟨rest, hrest, rfl⟩ := h
      exact .cons (by rw [if_neg hordinal]) (ih hnodup.2 hrest)

/-- Lists of replicas with the same ordinals one by one. -/
theorem map_ordinal_eq
    (h : Forall₂ (fun r r' : WorkloadReplica => r'.ordinal = r.ordinal) replicas replicas') :
    replicas'.map WorkloadReplica.ordinal = replicas.map WorkloadReplica.ordinal := by
  induction h with
  | nil => rfl
  | cons hordinal _ ih => rw [map_cons, map_cons, hordinal, ih]

/-- A change of some ordinals after a change of another one. -/
theorem forall₂_cons_ordinal {ordinals : List ℕ} (hnot : ordinal ∉ ordinals)
    (hf : ∀ r r', f r = .ok r' → r'.ordinal = r.ordinal)
    {g : WorkloadReplica → WorkloadReplica → Prop} (hg : ∀ r r', f r = .ok r' → g r r')
    {middle : List WorkloadReplica}
    (hfirst : Forall₂ (fun r r' => if r.ordinal = ordinal then f r = .ok r' else r' = r)
      replicas middle)
    (hrest : Forall₂ (fun r r' => if r.ordinal ∈ ordinals then g r r' else r' = r)
      middle replicas') :
    Forall₂ (fun r r' => if r.ordinal ∈ ordinal :: ordinals then g r r' else r' = r)
      replicas replicas' := by
  induction hfirst generalizing replicas' with
  | nil =>
    cases hrest
    exact .nil
  | @cons r m replicas middle hr _ ih =>
    obtain ⟨r', rest', hr', hrest', rfl⟩ := forall₂_cons_left_iff.1 hrest
    refine .cons ?_ (ih hrest')
    by_cases hordinal : r.ordinal = ordinal
    · rw [if_pos hordinal] at hr
      have hm := hf r m hr
      rw [if_neg (by rw [hm, hordinal]; exact hnot)] at hr'
      rw [if_pos (by rw [hordinal]; exact mem_cons_self), hr']
      exact hg r m hr
    · rw [if_neg hordinal] at hr
      subst hr
      simpa [hordinal] using hr'

end Ordinals

theorem requestRetirement_ordinal
    (h : (replica.requestRetirement time).mapError conflict = .ok replica') :
    replica'.ordinal = replica.ordinal := by
  rcases requestRetirement_ok (mapError_ok_iff.1 h) with ⟨-, rfl⟩ | ⟨-, rfl⟩ <;> rfl

theorem retireOrdinals_ok (hordinals : ordinals.Nodup)
    (hnodup : (replicas.map WorkloadReplica.ordinal).Nodup)
    (h : retireOrdinals time ordinals replicas = .ok replicas') :
    Forall₂ (fun r r' => if r.ordinal ∈ ordinals then r.requestRetirement time = .ok r'
      else r' = r) replicas replicas' := by
  induction ordinals generalizing replicas with
  | nil =>
    cases h
    exact forall₂_same.2 fun r _ => by simp
  | cons ordinal ordinals ih =>
    simp only [retireOrdinals, bind_ok_iff] at h
    obtain ⟨middle, hmiddle, hrest⟩ := h
    have hfirst := modifyOrdinal_ok hnodup hmiddle
    have hsame : middle.map WorkloadReplica.ordinal = replicas.map WorkloadReplica.ordinal :=
      map_ordinal_eq (hfirst.imp fun r r' hr => by
        split_ifs at hr
        · exact requestRetirement_ordinal hr
        · rw [hr])
    exact forall₂_cons_ordinal (nodup_cons.1 hordinals).1
      (fun _ _ => requestRetirement_ordinal) (fun _ _ hr => mapError_ok_iff.1 hr) hfirst
      (ih (nodup_cons.1 hordinals).2 (hsame ▸ hnodup) hrest)

theorem reactivateReplica_ok (h : reactivateReplica revision time ordinal replica = .ok replica') :
    replica.reactivate revision time = .ok replica' := by
  unfold reactivateReplica at h
  cases hlifecycle : replica.lifecycle <;> simp only [hlifecycle] at h
  · cases h
  · cases h
  · exact mapError_ok_iff.1 h

theorem reactivateReplica_ordinal
    (h : reactivateReplica revision time ordinal replica = .ok replica') :
    replica'.ordinal = replica.ordinal := by
  obtain ⟨-, rfl⟩ := reactivate_ok (reactivateReplica_ok h)
  rfl

/-- A replica that a plan creates, with its member. -/
structure Created (X : External) (workload : Workload) (revision : WorkloadRevision)
    (replica : WorkloadReplica) (member : WorkloadReplicaMember) : Prop where
  ofOrdinal : forOrdinal X workload revision replica.ordinal = .ok replica
  ofReplica : WorkloadReplicaMember.forReplica X workload replica = .ok member

theorem createReplica_ok {member : WorkloadReplicaMember}
    (h : createReplica X workload revision ordinal = .ok (replica, member)) :
    replica.ordinal = ordinal ∧ Created X workload revision replica member := by
  simp only [createReplica, ok_rules, Prod.mk.injEq] at h
  obtain ⟨_, hreplica, _, hmember, rfl, rfl⟩ := h
  have hordinal := (forOrdinal_ok hreplica).2.2.2.2.2.1
  exact ⟨hordinal, by rw [hordinal]; exact hreplica, hmember⟩

/-- The ordinals of a growing set: those that exist are reactivated, the others are created. -/
theorem activateOrdinals_ok (hordinals : ordinals.Nodup) {members' : List WorkloadReplicaMember}
    (hnodup : (replicas.map WorkloadReplica.ordinal).Nodup)
    (h : activateOrdinals X workload revision time ordinals replicas members =
      .ok (replicas', members')) :
    ∃ olds news added, replicas' = olds ++ news ∧ members' = members ++ added ∧
      Forall₂ (fun r r' => if r.ordinal ∈ ordinals then r.reactivate revision time = .ok r'
        else r' = r) replicas olds ∧
      Forall₂ (Created X workload revision) news added ∧
      (replicas'.map WorkloadReplica.ordinal).Nodup := by
  induction ordinals generalizing replicas members with
  | nil =>
    cases h
    exact ⟨replicas', [], [], by simp, by simp, forall₂_same.2 fun r _ => by simp, .nil,
      hnodup⟩
  | cons ordinal ordinals ih =>
    obtain ⟨hnot, hrestNodup⟩ := nodup_cons.1 hordinals
    rw [activateOrdinals] at h
    split_ifs at h with hexists
    · simp only [bind_ok_iff] at h
      obtain ⟨middle, hmiddle, hrest⟩ := h
      have hfirst := modifyOrdinal_ok hnodup hmiddle
      have hsame : middle.map WorkloadReplica.ordinal = replicas.map WorkloadReplica.ordinal :=
        map_ordinal_eq (hfirst.imp fun r r' hr => by
          split_ifs at hr
          · exact reactivateReplica_ordinal hr
          · rw [hr])
      obtain ⟨olds, news, added, hreplicas, hmembers, holds, hnews, hdistinct⟩ :=
        ih hrestNodup (hsame ▸ hnodup) hrest
      exact ⟨olds, news, added, hreplicas, hmembers,
        forall₂_cons_ordinal hnot (fun _ _ => reactivateReplica_ordinal)
          (fun _ _ => reactivateReplica_ok) hfirst holds, hnews, hdistinct⟩
    · simp only [bind_ok_iff] at h
      obtain ⟨⟨replica, member⟩, hcreate, hrest⟩ := h
      obtain ⟨hordinal, hcreated⟩ := createReplica_ok hcreate
      have habsent : ∀ r ∈ replicas, r.ordinal ≠ ordinal := by
        intro r hr heq
        exact hexists (any_eq_true.2 ⟨r, hr, decide_eq_true heq⟩)
      have hextended : ((replicas ++ [replica]).map WorkloadReplica.ordinal).Nodup := by
        rw [map_append, map_singleton, nodup_append_comm, singleton_append,
          nodup_cons, mem_map]
        refine ⟨?_, hnodup⟩
        rintro ⟨r, hr, heq⟩
        exact habsent r hr (heq.trans hordinal)
      obtain ⟨olds, news, added, rfl, rfl, holds, hnews, hdistinct⟩ := ih hrestNodup hextended hrest
      -- the new replica is the last of those that the later ordinals leave alone
      obtain ⟨front, last, rfl, hfront, hlast⟩ := forall₂_concat_left holds
      rw [if_neg (by rw [hordinal]; exact hnot)] at hlast
      subst hlast
      refine ⟨front, last :: news, member :: added, by simp, by simp, ?_, .cons hcreated hnews,
        hdistinct⟩
      refine ((forall₂_and_left replicas front).2 ⟨habsent, hfront⟩).imp ?_
      rintro r r' ⟨hne, hrr'⟩
      simpa [hne] using hrr'

/-- What a change of the number of replicas does to one of them. -/
inductive Moved (revision : WorkloadRevision) (time : ℤ) (previous desired : ℕ)
    (replica : WorkloadReplica) : WorkloadReplica → Prop
  | kept : Moved revision time previous desired replica replica
  | retired {replica' : WorkloadReplica} (hlow : desired ≤ replica.ordinal)
      (hhigh : replica.ordinal < previous) (h : replica.requestRetirement time = .ok replica') :
      Moved revision time previous desired replica replica'
  | reactivated {replica' : WorkloadReplica} (hlow : previous ≤ replica.ordinal)
      (hhigh : replica.ordinal < desired) (h : replica.reactivate revision time = .ok replica') :
      Moved revision time previous desired replica replica'

/-- What a plan has checked and what it does to the replica set. -/
structure Planned (X : External) (workload : Workload) (control : WorkloadControl)
    (revision : WorkloadRevision) (replicas : List WorkloadReplica) (desired : ℕ) (time : ℤ)
    (plan : ReplicaSetReconfiguration) : Prop where
  identity : plan.control.identity = control.identity
  desiredReplicas : plan.control.desiredReplicas = desired
  topology : plan.control.spec.placementPolicy.topology = control.spec.placementPolicy.topology
  membersFit : plan.control.spec.placementPolicy.membersFit = true
  valid : ∀ replica ∈ replicas, replica.validate X = .ok ()
  canonical : ∃ replica ∈ replicas, replica.ordinal = 0 ∧ replica.revisionId = revision.id
  current : ∀ ordinal < control.desiredReplicas, ∃ replica ∈ replicas,
    replica.ordinal = ordinal ∧ replica.lifecycle = .desired
  distinct : (plan.replicas.map WorkloadReplica.ordinal).Nodup
  moved : ∀ replica ∈ replicas, ∃ replica' ∈ plan.replicas,
    Moved revision time control.desiredReplicas desired replica replica'
  origin : ∀ replica' ∈ plan.replicas, (∃ replica ∈ replicas,
      Moved revision time control.desiredReplicas desired replica replica') ∨
    ∃ member ∈ plan.membersToCreate, Created X workload revision replica' member
  members : ∀ member ∈ plan.membersToCreate,
    ∃ replica' ∈ plan.replicas, Created X workload revision replica' member
  next : (∀ ordinal < desired, ∃ replica ∈ plan.replicas, replica.ordinal = ordinal ∧
      replica.lifecycle = .desired) ∧
    ∀ replica ∈ plan.replicas, desired ≤ replica.ordinal → replica.lifecycle ≠ .desired

theorem moveOrdinals_ok {previous : ℕ} (hnodup : (replicas.map WorkloadReplica.ordinal).Nodup)
    (h : moveOrdinals X workload revision time previous desired replicas =
      .ok (replicas', members)) :
    ∃ olds news, replicas' = olds ++ news ∧
      Forall₂ (Moved revision time previous desired) replicas olds ∧
      Forall₂ (Created X workload revision) news members ∧
      (replicas'.map WorkloadReplica.ordinal).Nodup := by
  unfold moveOrdinals at h
  split_ifs at h with hless
  · simp only [ok_rules, Prod.mk.injEq] at h
    obtain ⟨retired, hretired, rfl, rfl⟩ := h
    have hmoved := retireOrdinals_ok nodup_range' hnodup hretired
    have hsame : retired.map WorkloadReplica.ordinal = replicas.map WorkloadReplica.ordinal :=
      map_ordinal_eq (hmoved.imp fun r r' hr => by
        split_ifs at hr
        · rcases requestRetirement_ok hr with ⟨-, rfl⟩ | ⟨-, rfl⟩ <;> rfl
        · rw [hr])
    refine ⟨retired, [], by simp, hmoved.imp fun r r' hr => ?_, .nil, hsame ▸ hnodup⟩
    split_ifs at hr with hordinal
    · rw [mem_range'_1] at hordinal
      exact .retired hordinal.1 (by omega) hr
    · rw [hr]
      exact .kept
  · obtain ⟨olds, news, added, hreplicas, hmembers, holds, hnews, hdistinct⟩ :=
      activateOrdinals_ok nodup_range' hnodup h
    rw [nil_append] at hmembers
    refine ⟨olds, news, hreplicas, holds.imp fun r r' hr => ?_, hmembers ▸ hnews, hdistinct⟩
    split_ifs at hr with hordinal
    · rw [mem_range'_1] at hordinal
      exact .reactivated hordinal.1 (by omega) hr
    · rw [hr]
      exact .kept

theorem planReplicaSetReconfiguration_ok
    {expectedControlVersion expectedPolicyGeneration desiredReplicas : ℕ}
    {requestedOwner : Option ManagedOwnerReference} {requestedAt : ℤ}
    (h : planReplicaSetReconfiguration X workload control revision replicas expectedControlVersion
      expectedPolicyGeneration desiredReplicas requestedOwner requestedAt = .ok plan) :
    Planned X workload control revision replicas desiredReplicas requestedAt plan := by
  simp only [planReplicaSetReconfiguration, ok_rules] at h
  obtain ⟨hcurrent, -, next, hnext, ⟨moved, members⟩, hmoved, hfront, rfl⟩ := h
  simp only [validateCurrentSet, ok_rules, not_or, ne_eq, not_not] at hcurrent
  obtain ⟨-, -, hidentities, canonical, hcanonical, ⟨-, hrevision, -⟩, hcurrentPrefix⟩ := hcurrent
  obtain ⟨hmembers, hnodup⟩ := validateIdentities_ok hidentities
  obtain ⟨hcontrol, hdesired, htopology, -, -, hfit⟩ :=
    WorkloadControl.reconfigureReplicaSet_ok hnext
  obtain ⟨olds, news, rfl, holds, hnews, hdistinct⟩ := moveOrdinals_ok hnodup hmoved
  have hsorted : ∀ {r : WorkloadReplica}, r ∈ sortReplicas replicas ↔ r ∈ replicas :=
    mem_sortReplicas
  have hmem : ∀ {r : WorkloadReplica}, r ∈ sortReplicas (olds ++ news) ↔ r ∈ olds ∨ r ∈ news := by
    intro r
    rw [mem_sortReplicas, mem_append]
  have hmemMember : ∀ {m : WorkloadReplicaMember}, m ∈ sortMembers members ↔ m ∈ members :=
    (perm_insertionSort _ _).mem_iff
  refine ⟨hcontrol, hdesired, htopology, hfit, fun r hr => (hmembers r (hsorted.2 hr)).1,
    ⟨canonical, hsorted.1 (mem_of_find?_eq_some hcanonical),
      by simpa using find?_some hcanonical, hrevision⟩, ?_, ?_, ?_, ?_, ?_,
    validateDesiredPrefix_ok hfront⟩
  · intro ordinal hlt
    obtain ⟨r, hr, hordinal⟩ := (validateDesiredPrefix_ok hcurrentPrefix).1 ordinal hlt
    exact ⟨r, hsorted.1 hr, hordinal⟩
  · exact ((perm_insertionSort _ _).map _).nodup_iff.2 hdistinct
  · intro r hr
    obtain ⟨r', hr', hrel⟩ := exists_right_of_mem holds (hsorted.2 hr)
    exact ⟨r', hmem.2 (.inl hr'), hrel⟩
  · intro r' hr'
    rcases hmem.1 hr' with hold | hnew
    · obtain ⟨r, hr, hrel⟩ := exists_left_of_mem holds hold
      exact .inl ⟨r, hsorted.1 hr, hrel⟩
    · obtain ⟨m, hm, hcreated⟩ := exists_right_of_mem hnews hnew
      exact .inr ⟨m, hmemMember.2 hm, hcreated⟩
  · intro m hm
    obtain ⟨r', hr', hcreated⟩ := exists_left_of_mem hnews (hmemMember.1 hm)
    exact ⟨r', hmem.2 (.inr hr'), hcreated⟩

/-- A plan does not depend on the order in which the replicas are given. -/
theorem Planned.of_sorted
    (h : Planned X workload control revision (sortReplicas replicas) desired time plan) :
    Planned X workload control revision replicas desired time plan := by
  obtain ⟨hidentity, hdesired, htopology, hfit, hvalid, hcanonical, hcurrent, hdistinct, hmoved,
    horigin, hmembers, hnext⟩ := h
  simp only [mem_sortReplicas] at hvalid hcanonical hcurrent hmoved horigin
  exact ⟨hidentity, hdesired, htopology, hfit, hvalid, hcanonical, hcurrent, hdistinct, hmoved,
    horigin, hmembers, hnext⟩

end ReplicaSet

end A3SCloud
