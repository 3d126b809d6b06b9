import Mathlib.Algebra.BigOperators.Group.List.Basic
import A3SCloud.Fleet.Control
import A3SCloud.Workloads.Reservation

/-!
# The store of resource claims

The model of `modules/workloads/infrastructure/persistence/in_memory_resource_claims.rs`: the claims
of the control plane and the leases of the slots they hold.

* `ClaimStore.reserveNewClaim` takes the slots of one reservation, `ClaimStore.reserveAtomically`
  those of a batch on a copy of the store.
* `ClaimStore.mutate` is what the transitions of a claim share.
-/

namespace A3SCloud

open Checks ResourceClaim

variable (X : External)

/-- `SlotKey` of the store: a slot of a node as an organization sees it. -/
structure SlotLeaseKey where
  organizationId : Uuid
  nodeId : Uuid
  slot : SlotKey
  deriving DecidableEq

structure SlotLease where
  key : SlotLeaseKey
  generation : ℕ
  fenceToken : Uuid
  activeClaimId : Option Uuid
  deriving DecidableEq

def SlotLease.clear (lease : SlotLease) : SlotLease := { lease with activeClaimId := none }

theorem SlotLease.key_clear (lease : SlotLease) : lease.clear.key = lease.key := rfl

theorem SlotLease.clear_clear (lease : SlotLease) : lease.clear.clear = lease.clear := rfl

structure ClaimStore where
  claims : Table ResourceClaim.key
  slots : Table SlotLease.key

def ResourceClaim.leaseKey (claim : ResourceClaim) (slot : ResourceSlotBinding) : SlotLeaseKey :=
  ⟨claim.organizationId, claim.nodeId, slot.key⟩

def ResourceClaimReservation.leaseKey (reservation : ResourceClaimReservation) (slot : SlotKey) :
    SlotLeaseKey :=
  ⟨reservation.binding.organizationId, reservation.nodeId, slot⟩

def capacityUnavailable (message : String) : RepositoryError :=
  .conflict ("resource capacity unavailable: " ++ message)

def placementUnavailable (message : String) : RepositoryError :=
  .conflict ("replica placement unavailable: " ++ message)

namespace ClaimStore

def empty : ClaimStore := ⟨Table.empty, Table.empty⟩

/-! ### Reserving -/

variable (store : ClaimStore)

/-- The slots under a key that the claims of an organization hold on a node. -/
def heldSlots (key : SlotLeaseKey) : List ResourceSlotBinding :=
  (store.claims.rows.filter (fun claim =>
    claim.organizationId = key.organizationId ∧ claim.nodeId = key.nodeId ∧
      claim.state ≠ .released)).flatMap
    (fun claim => claim.slots.filter (fun slot => slot.key = key.slot))

/-- The sum of scalar allocations, which fails when one is not scalar or the sum is too large. -/
def sumAllocations : List ResourceSlotBinding → ℕ → Except RepositoryError ℕ
  | [], total => .ok total
  | slot :: slots, total => do
    let amount ← orElse (.storage "stored shared resource claim has a non-scalar allocation")
      slot.allocation.scalarAmount
    let total ← orElse (.storage "shared resource allocation total overflowed")
      (checkedAdd total amount)
    sumAllocations slots total

variable (reservation : ResourceClaimReservation)

def capacity (slot : SlotKey) : Option ℕ :=
  (reservation.inventory.slot? slot).bind (·.allocation.scalarAmount)

def validateSharedCapacity (request : ResourceSlotRequest) : Except RepositoryError Unit := do
  let capacity ← orElse (.conflict ("shared resource slot " ++ request.stableResourceId ++
    " has no scalar inventory capacity")) (capacity reservation request.key)
  let requested ← orElse (.conflict ("shared resource slot " ++ request.stableResourceId ++
    " has a non-scalar request")) request.allocation.scalarAmount
  let allocated ← sumAllocations (store.heldSlots (reservation.leaseKey request.key)) 0
  refuseIf ((checkedAdd allocated requested).all (fun required => capacity < required))
    (capacityUnavailable ("shared resource slot " ++ request.stableResourceId ++
      " has insufficient remaining capacity"))

/-- A slot of a shared kind has room, another one has no holder. -/
def validateSlot (request : ResourceSlotRequest) : Except RepositoryError Unit :=
  if request.kind.isSharedCapacity then store.validateSharedCapacity reservation request
  else refuseIf ((store.slots.get? (reservation.leaseKey request.key)).any
      (·.activeClaimId.isSome))
    (capacityUnavailable ("hard resource slot " ++ request.stableResourceId ++
      " is already claimed"))

def nextSlotGeneration : Option SlotLease → Except RepositoryError ℕ
  | none => .ok 1
  | some lease => orElse (.storage "hard resource slot generation overflowed")
    (checkedAdd lease.generation 1)

/-- The slot that a request takes; the fence token is drawn at random. -/
def reserveSlot (fenceToken : SlotKey → Uuid) (request : ResourceSlotRequest) :
    Except RepositoryError ResourceSlotBinding := do
  store.validateSlot reservation request
  let generation ← nextSlotGeneration (store.slots.get? (reservation.leaseKey request.key))
  pure (request.bindSlot generation (fenceToken request.key))

variable (claim : ResourceClaim)

def newLease (slot : ResourceSlotBinding) : SlotLease where
  key := claim.leaseKey slot
  generation := slot.slotGeneration
  fenceToken := slot.fenceToken
  activeClaimId := if slot.kind.isSharedCapacity then none else some claim.id

/-- A replica of the same Workload that is not the one of the reservation holds the node. -/
def excludesNode : Bool :=
  claim.organizationId = reservation.binding.organizationId ∧
    claim.workloadId = reservation.binding.workloadId ∧ claim.nodeId = reservation.nodeId ∧
    claim.replicaId ≠ reservation.binding.replicaId ∧ claim.state ≠ .released

def reserveNewClaim
    (fenceToken : SlotKey → Uuid) : Except RepositoryError (ResourceClaim × ClaimStore) := do
  refuseIf (store.claims.get? reservation.id).isSome .idempotencyConflict
  refuseIf (store.claims.rows.any (excludesNode reservation))
    (placementUnavailable
      "required anti-affinity excludes a node with another active Workload replica")
  let slots ← mapAll (store.reserveSlot reservation fenceToken) reservation.slots
  let claim ← (ResourceClaim.reserve X reservation slots).mapError .conflict
  pure (claim, {
    claims := store.claims.insert claim
    slots := store.slots.insertAll (slots.map (newLease claim)) })

/-- The members of a batch one after the other; the token of a slot is drawn for its claim. -/
def reserveMembers (fenceToken : Uuid → SlotKey → Uuid) :
    List ResourceClaimReservation → ClaimStore → List ResourceClaim →
      Except RepositoryError (List ResourceClaim × ClaimStore)
  | [], store, claims => .ok (claims, store)
  | member :: members, store, claims => do
    let (claim, store) ← store.reserveNewClaim X member (fenceToken member.id)
    reserveMembers fenceToken members store (claims ++ [claim])

def existingMembers (batch : AtomicResourceClaimReservation X) :
    List (ResourceClaimReservation × ResourceClaim) :=
  batch.reservations.filterMap (fun member => (store.claims.get? member.id).map (member, ·))

/-- The store is changed only when every member of the batch was reserved on the copy. -/
def reserveAtomically (batch : AtomicResourceClaimReservation X)
    (fenceToken : Uuid → SlotKey → Uuid) :
    Except RepositoryError (IdempotentWrite (List ResourceClaim)) × ClaimStore :=
  let existing := store.existingMembers X batch
  if existing ≠ [] then
    if existing.length ≠ batch.reservations.length ∨
        existing.any (fun pair => !pair.1.matchesClaim pair.2) then
      (.error .idempotencyConflict, store)
    else (.ok ⟨existing.map Prod.snd, true⟩, store)
  else
    match reserveMembers X fenceToken batch.reservations store [] with
    | .ok (claims, next) => (.ok ⟨claims, false⟩, next)
    | .error error => (.error error, store)

/-- The only claim of a batch of one. -/
def firstClaim : List ResourceClaim → Except RepositoryError ResourceClaim
  | [claim] => .ok claim
  | _ => .error (.storage "single resource reservation returned an invalid Claim count")

def reserve (fenceToken : SlotKey → Uuid) :
    Except RepositoryError (IdempotentWrite ResourceClaim) × ClaimStore :=
  match AtomicResourceClaimReservation.single X reservation with
  | .error message => (.error (.conflict message), store)
  | .ok batch =>
    match store.reserveAtomically X batch (fun _ => fenceToken) with
    | (.error error, next) => (.error error, next)
    | (.ok write, next) =>
      ((firstClaim write.value).map (fun claim => ⟨claim, write.replayed⟩), next)

/-! ### Transitions -/

def find (organizationId claimId : Uuid) : Except RepositoryError ResourceClaim :=
  orElse .notFound ((store.claims.get? claimId).filter
    (fun claim => claim.organizationId = organizationId))

def leaseMatches (slot : ResourceSlotBinding) (lease : SlotLease) : Bool :=
  if slot.kind.isSharedCapacity then
    slot.slotGeneration ≤ lease.generation ∧
      (lease.generation = slot.slotGeneration → lease.fenceToken = slot.fenceToken) ∧
      lease.activeClaimId = none
  else
    lease.activeClaimId = some claim.id ∧ lease.generation = slot.slotGeneration ∧
      lease.fenceToken = slot.fenceToken

def fencingInconsistent : RepositoryError :=
  .storage "resource claim slot lease fencing identity is inconsistent"

def validateLeaseOf (slot : ResourceSlotBinding) : Except RepositoryError Unit := do
  let lease ← orElse (.storage "resource claim references a missing slot lease")
    (store.slots.get? (claim.leaseKey slot))
  refuseIf (¬ leaseMatches claim slot lease) fencingInconsistent

/-- The keys of the slots that only their claim may hold. -/
def exclusiveKeys : List SlotLeaseKey :=
  (claim.slots.filter (fun slot => !slot.kind.isSharedCapacity)).map claim.leaseKey

def releaseSlots : Except RepositoryError ClaimStore := do
  checkAll (store.validateLeaseOf claim) claim.slots
  -- every lease was found above, so none is missing here
  pure { store with
    slots := store.slots.modifyAll (exclusiveKeys claim) SlotLease.clear SlotLease.key_clear }

def versionConflict (expected actual : ℕ) : RepositoryError :=
  .conflict ("resource claim changed from expected version " ++ toString expected ++ " to " ++
    toString actual)

/-- The slots of a claim are given up when it is released. -/
def settleSlots : Except RepositoryError ClaimStore :=
  if claim.state = .released then store.releaseSlots claim else .ok store

def mutate (organizationId claimId : Uuid) (expectedVersion : ℕ)
    (transition : ResourceClaim → Except String ResourceClaim) :
    Except RepositoryError (ResourceClaim × ClaimStore) := do
  let current ← store.find organizationId claimId
  let next ← (transition current).mapError .conflict
  if next = current then pure (current, store)
  else do
    refuseIf (current.aggregateVersion ≠ expectedVersion)
      (versionConflict expectedVersion current.aggregateVersion)
    let store ← store.settleSlots next
    pure (next, { store with claims := store.claims.insert next })

def beginPreparation (store : ClaimStore) (organizationId claimId : Uuid) (expectedVersion : ℕ)
    (commandId : Uuid) (time : ℤ) : Except RepositoryError (ResourceClaim × ClaimStore) :=
  store.mutate organizationId claimId expectedVersion (·.beginPreparation commandId time)

def recordPrepared (store : ClaimStore) (organizationId claimId : Uuid) (expectedVersion : ℕ)
    (commandId : Uuid) (bindingDigest : DigestText) (time : ℤ) :
    Except RepositoryError (ResourceClaim × ClaimStore) :=
  store.mutate organizationId claimId expectedVersion
    (·.recordPrepared commandId bindingDigest time)

def bind (store : ClaimStore) (organizationId claimId : Uuid) (expectedVersion : ℕ)
    (evidence : ResourceClaimBindingEvidence) (time : ℤ) :
    Except RepositoryError (ResourceClaim × ClaimStore) :=
  store.mutate organizationId claimId expectedVersion (·.bind evidence time)

def beginRelease (store : ClaimStore) (organizationId claimId : Uuid) (expectedVersion : ℕ)
    (commandId : Uuid) (time : ℤ) : Except RepositoryError (ResourceClaim × ClaimStore) :=
  store.mutate organizationId claimId expectedVersion (·.beginRelease X commandId time)

def recordReleased (store : ClaimStore) (organizationId claimId : Uuid) (expectedVersion : ℕ)
    (evidence : ResourceClaimReleaseEvidence) (time : ℤ) :
    Except RepositoryError (ResourceClaim × ClaimStore) :=
  store.mutate organizationId claimId expectedVersion (·.recordReleased evidence time)

def cancelDatabaseReservation (store : ClaimStore) (organizationId claimId : Uuid)
    (expectedVersion : ℕ) (time : ℤ) : Except RepositoryError (ResourceClaim × ClaimStore) :=
  store.mutate organizationId claimId expectedVersion (·.cancelDatabaseReservation time)

def orphan (store : ClaimStore) (organizationId claimId : Uuid) (expectedVersion : ℕ)
    (failure : String) (time : ℤ) : Except RepositoryError (ResourceClaim × ClaimStore) :=
  store.mutate organizationId claimId expectedVersion (·.orphan failure time)

/-! ### What the operations do -/

/-- A step of a claim: it keeps what was reserved, and a released claim does not change. -/
structure Follows (claim claim' : ResourceClaim) : Prop where
  identity : claim'.toResourceClaimIdentity = claim.toResourceClaimIdentity
  slots : claim'.slots = claim.slots
  released : claim.state = .released → claim' = claim

variable {store store' : ClaimStore} {organizationId claimId : Uuid} {claim : ResourceClaim}

theorem find_ok_iff :
    store.find organizationId claimId = .ok claim ↔
      store.claims.get? claimId = some claim ∧ claim.organizationId = organizationId := by
  simp only [find, orElse_ok_iff, Option.filter_eq_some_iff, decide_eq_true_eq]

theorem validateLeaseOf_ok_iff {slot : ResourceSlotBinding} :
    store.validateLeaseOf claim slot = .ok () ↔
      ∃ lease, store.slots.get? (claim.leaseKey slot) = some lease ∧
        leaseMatches claim slot lease = true := by
  simp only [validateLeaseOf, ok_rules, not_not]

/-- What a successful transition does to the store. -/
inductive Mutated (store : ClaimStore) (claimId : Uuid) (current next : ResourceClaim) :
    ClaimStore → Prop
  | unchanged (hsame : next = current) : Mutated store claimId current next store
  | moved (hne : next ≠ current) (hstate : next.state ≠ .released) :
      Mutated store claimId current next { store with claims := store.claims.insert next }
  | released (hne : next ≠ current) (hstate : next.state = .released)
      (hleases : ∀ slot ∈ next.slots, store.validateLeaseOf next slot = .ok ()) :
      Mutated store claimId current next {
        claims := store.claims.insert next
        slots := store.slots.modifyAll (exclusiveKeys next) SlotLease.clear SlotLease.key_clear }

theorem mutate_ok {expectedVersion : ℕ} {transition : ResourceClaim → Except String ResourceClaim}
    {next : ResourceClaim}
    (h : store.mutate organizationId claimId expectedVersion transition = .ok (next, store')) :
    ∃ current, store.claims.get? claimId = some current ∧
      current.organizationId = organizationId ∧ transition current = .ok next ∧
      (next = current ∨ current.aggregateVersion = expectedVersion) ∧
      Mutated store claimId current next store' := by
  simp only [mutate, ok_rules, find_ok_iff] at h
  obtain ⟨current, ⟨hget, horganization⟩, next', htransition, h⟩ := h
  refine ⟨current, hget, horganization, ?_⟩
  split_ifs at h with hsame
  · cases h
    exact ⟨hsame ▸ htransition, .inl rfl, .unchanged rfl⟩
  · simp only [ok_rules, ne_eq, not_not, Prod.mk.injEq] at h
    obtain ⟨hversion, base, hbase, rfl, rfl⟩ := h
    refine ⟨htransition, .inr hversion, ?_⟩
    unfold settleSlots at hbase
    split_ifs at hbase with hstate
    · simp only [releaseSlots, ok_rules, checkAll_ok_iff] at hbase
      obtain ⟨hleases, rfl⟩ := hbase
      exact .released hsame hstate hleases
    · cases hbase
      exact .moved hsame hstate

/-! ### Each transition is a step of its claim -/

namespace Follows

theorem refl (claim : ResourceClaim) : Follows claim claim := ⟨rfl, rfl, fun _ => rfl⟩

/-- A claim that is not released may move on while it keeps what was reserved. -/
theorem of_state {claim claim' : ResourceClaim} (hstate : claim.state ≠ .released)
    (hidentity : claim'.toResourceClaimIdentity = claim.toResourceClaimIdentity)
    (hslots : claim'.slots = claim.slots) : Follows claim claim' :=
  ⟨hidentity, hslots, fun h => absurd h hstate⟩

variable {claim claim' : ResourceClaim} {time : ℤ}

variable {commandId : Uuid}

theorem beginPreparation (h : claim.beginPreparation commandId time = .ok claim') :
    Follows claim claim' := by
  rcases beginPreparation_ok h with ⟨rfl, -⟩ | ⟨hstate, -, rfl⟩
  · exact refl claim'
  · exact of_state (by simp [hstate]) rfl rfl

theorem recordPrepared {bindingDigest : DigestText}
    (h : claim.recordPrepared commandId bindingDigest time = .ok claim') :
    Follows claim claim' := by
  rcases recordPrepared_ok h with ⟨rfl, -⟩ | ⟨hstate, -, rfl⟩
  · exact refl claim'
  · exact of_state (by simp [hstate]) rfl rfl

theorem bind {evidence : ResourceClaimBindingEvidence} (h : claim.bind evidence time = .ok claim') :
    Follows claim claim' := by
  rcases bind_ok h with ⟨rfl, -⟩ | ⟨hstate, rfl⟩
  · exact refl claim'
  · exact of_state (by simp [hstate]) rfl rfl

theorem beginRelease {X : External} (h : claim.beginRelease X commandId time = .ok claim') :
    Follows claim claim' := by
  rcases beginRelease_ok h with ⟨rfl, -⟩ | ⟨hstate, -, -, rfl⟩
  · exact refl claim'
  · exact of_state (by rcases hstate with h | h | h <;> simp [h]) rfl rfl

theorem recordReleased {evidence : ResourceClaimReleaseEvidence}
    (h : claim.recordReleased evidence time = .ok claim') : Follows claim claim' := by
  rcases recordReleased_ok h with ⟨rfl, -⟩ | ⟨hmatches, -, rfl⟩
  · exact refl claim'
  · refine of_state (fun hstate => ?_) rfl rfl
    cases evidence <;>
      simp [releaseMatches, ResourceClaimReleaseEvidence.canonicalize, hstate]
        at hmatches

theorem cancelDatabaseReservation (h : claim.cancelDatabaseReservation time = .ok claim') :
    Follows claim claim' :=
  recordReleased h

theorem orphan {failure : String} (h : claim.orphan failure time = .ok claim') :
    Follows claim claim' := by
  rcases orphan_ok h with ⟨rfl, -⟩ | ⟨hstate, rfl⟩
  · exact refl claim'
  · exact of_state hstate rfl rfl

end Follows

/-! ### What a reservation does -/

variable {X}

/-- A reservation was made: what was checked, and the store after it. -/
structure Reserved (X : External) (store : ClaimStore) (reservation : ResourceClaimReservation)
    (fenceToken : SlotKey → Uuid) (claim : ResourceClaim) (store' : ClaimStore) : Prop where
  fresh : store.claims.get? reservation.id = none
  alone : ∀ other ∈ store.claims.rows, excludesNode reservation other = false
  slots : List.Forall₂ (fun request slot =>
    store.reserveSlot reservation fenceToken request = .ok slot) reservation.slots claim.slots
  sealedClaim : claim = (unsealed reservation claim.slots).sealed X
  valid : reservation.validate X = .ok ()
  slotsValid : validateSlotBindings claim.slots = .ok ()
  slotsMatch : slotRequestsMatchBindings reservation.slots claim.slots = true
  store : store' = {
    claims := store.claims.insert claim
    slots := store.slots.insertAll (claim.slots.map (newLease claim)) }

theorem reserveNewClaim_ok {reservation : ResourceClaimReservation} {fenceToken : SlotKey → Uuid}
    (h : store.reserveNewClaim X reservation fenceToken = .ok (claim, store')) :
    Reserved X store reservation fenceToken claim store' := by
  simp only [reserveNewClaim, ok_rules, mapAll_ok_iff, Prod.mk.injEq, Option.not_isSome_iff_eq_none] at h
  obtain ⟨hfresh, halone, slots, hslots, claim', hreserve, rfl, rfl⟩ := h
  obtain ⟨hclaim, hvalid, hmatch, hslotsValid⟩ := reserve_ok hreserve
  have heq : claim'.slots = slots := by rw [hclaim]; rfl
  subst heq
  refine ⟨hfresh, ?_, hslots, hclaim, hvalid, hslotsValid, hmatch, rfl⟩
  simpa using halone

namespace Reserved

variable {store store' : ClaimStore} {reservation : ResourceClaimReservation}
  {fenceToken : SlotKey → Uuid} {claim : ResourceClaim}

theorem identity (h : Reserved X store reservation fenceToken claim store') :
    claim.toResourceClaimIdentity = reservation.identity := by rw [h.sealedClaim]; rfl

theorem state (h : Reserved X store reservation fenceToken claim store') :
    claim.state = .reservedInDb := by rw [h.sealedClaim]; rfl

theorem leaseKey (h : Reserved X store reservation fenceToken claim store')
    (slot : ResourceSlotBinding) : claim.leaseKey slot = reservation.leaseKey slot.key := by
  have hidentity := h.identity
  rw [ResourceClaim.leaseKey, hidentity]
  rfl

end Reserved

end ClaimStore

end A3SCloud
