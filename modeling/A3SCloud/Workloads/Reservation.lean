import Mathlib.Data.List.Sort
import A3SCloud.Workloads.Replica
import A3SCloud.Workloads.ResourceClaim

/-!
# Reservations of hard resources

The reservation part of `modules/workloads/domain/entities/resource_claim.rs`: what a scheduler asks
for (`ResourceClaimReservation`), the batch whose members are reserved together
(`AtomicResourceClaimReservation`), and the claim a reservation starts (`ResourceClaim.reserve`).

* An `AtomicResourceClaimReservation` carries the facts its constructor checks, so that every batch
  is nonempty, valid, of one organization and without repeated claims.
-/

namespace A3SCloud

open Checks List

variable (X : External)

structure ResourceSlotRequest where
  kind : ResourceKind
  stableResourceId : String
  allocation : ResourceAllocation
  deriving DecidableEq

namespace ResourceSlotRequest

def key (request : ResourceSlotRequest) : SlotKey := (request.kind, request.stableResourceId)

def validate (request : ResourceSlotRequest) : Except String Unit := do
  validateStableResourceId request.stableResourceId
  request.allocation.validateFor request.kind

/-- The slot that is bound for a request. -/
def bindSlot (request : ResourceSlotRequest) (slotGeneration : ℕ) (fenceToken : Uuid) :
    ResourceSlotBinding where
  kind := request.kind
  stableResourceId := request.stableResourceId
  allocation := request.allocation
  slotGeneration := slotGeneration
  fenceToken := fenceToken

end ResourceSlotRequest

def validateSlotRequests : List ResourceSlotRequest → Except String Unit :=
  validateSlots ResourceSlotRequest.validate ResourceSlotRequest.key
    "hard resource claim must contain a bounded non-empty slot set"
    "hard resource slot requests must be uniquely and canonically sorted"

def slotRequestMatchesBinding (request : ResourceSlotRequest) (slot : ResourceSlotBinding) : Bool :=
  request.kind = slot.kind ∧ request.stableResourceId = slot.stableResourceId ∧
    request.allocation = slot.allocation

def slotRequestsMatchBindings (requests : List ResourceSlotRequest)
    (slots : List ResourceSlotBinding) : Bool :=
  requests.length = slots.length ∧
    (requests.zip slots).all (fun pair => slotRequestMatchesBinding pair.1 pair.2)

structure ResourceClaimReservation where
  id : Uuid
  binding : DeploymentReplicaBinding
  nodeId : Uuid
  inventory : NodeResourceInventory
  topologyDigest : DigestText
  slots : List ResourceSlotRequest
  reservedAt : ℤ
  deriving DecidableEq

open ResourceClaimReservation

namespace ResourceClaimReservation

/-- A requested slot exists in the inventory and fits into it. -/
def validateRequest (inventory : NodeResourceInventory) (request : ResourceSlotRequest) :
    Except String Unit := do
  let slot ← orElse
    ("resource request " ++ request.stableResourceId ++ " is absent from the bound node inventory")
    (inventory.slot? request.key)
  refuseIf (¬ slot.allocation.contains request.allocation)
    ("resource request " ++ request.stableResourceId ++
      " exceeds the bound node inventory allocation")

def validate (reservation : ResourceClaimReservation) : Except String Unit := do
  reservation.inventory.validate X
  refuseIf (reservation.id = 0 ∨ reservation.binding.organizationId = 0 ∨
      reservation.binding.projectId = 0 ∨ reservation.binding.environmentId = 0 ∨
      reservation.binding.workloadId = 0 ∨ reservation.binding.deploymentId = 0 ∨
      reservation.binding.revisionId = 0 ∨ reservation.binding.replicaId = 0 ∨
      reservation.binding.replicaGeneration = 0 ∨ reservation.binding.memberId = 0 ∨
      reservation.binding.nodeId ≠ some reservation.nodeId ∨
      reservation.binding.placementGeneration = 0 ∨
      reservation.binding.runtimeGeneration ≠ reservation.binding.replicaGeneration ∨
      reservation.inventory.nodeId ≠ reservation.nodeId ∨
      canonicalTimestamp reservation.reservedAt <
        canonicalTimestamp reservation.binding.updatedAt)
    "resource claim reservation identity or generation is invalid"
  validateClaimSha256 reservation.topologyDigest "resource topology digest"
  validateRuntimeIdentity reservation.binding.runtimeUnitId reservation.binding.runtimeGeneration
  validateSlotRequests reservation.slots
  checkAll (validateRequest reservation.inventory) reservation.slots

variable (reservation : ResourceClaimReservation)

def identity : ResourceClaimIdentity where
  id := reservation.id
  organizationId := reservation.binding.organizationId
  projectId := reservation.binding.projectId
  environmentId := reservation.binding.environmentId
  workloadId := reservation.binding.workloadId
  deploymentId := reservation.binding.deploymentId
  replicaId := reservation.binding.replicaId
  replicaGeneration := reservation.binding.replicaGeneration
  memberId := reservation.binding.memberId
  placementGeneration := reservation.binding.placementGeneration
  nodeId := reservation.nodeId
  inventoryGeneration := reservation.inventory.generation
  inventoryDigest := reservation.inventory.digest
  runtimeUnitId := reservation.binding.runtimeUnitId
  runtimeGeneration := reservation.binding.runtimeGeneration
  topologyDigest := reservation.topologyDigest

/-- `matches`, which compares every field of the identity and the requested slots. -/
def matchesClaim (claim : ResourceClaim) : Bool :=
  reservation.identity = claim.toResourceClaimIdentity ∧
    slotRequestsMatchBindings reservation.slots claim.slots

/-- The key by which a batch is ordered. -/
def order : List ℕ :=
  [reservation.nodeId, reservation.binding.workloadId, reservation.binding.replicaId,
    reservation.binding.memberId, reservation.id]

/-- A member generation is reserved once in a batch. -/
def memberGeneration : Uuid × ℕ × Uuid :=
  (reservation.binding.replicaId, reservation.binding.replicaGeneration,
    reservation.binding.memberId)

end ResourceClaimReservation

def maxAtomicResourceClaimReservations : ℕ := 256

/-- Reservations that are made together: what the constructor of the source checks, and the order
into which it brings them. -/
structure AtomicResourceClaimReservation where
  reservations : List ResourceClaimReservation
  nonempty : reservations ≠ []
  bounded : reservations.length ≤ maxAtomicResourceClaimReservations
  valid : ∀ reservation ∈ reservations, reservation.validate X = .ok ()
  organization : ∀ a ∈ reservations, ∀ b ∈ reservations,
    a.binding.organizationId = b.binding.organizationId
  ids : (reservations.map ResourceClaimReservation.id).Nodup
  members : (reservations.map memberGeneration).Nodup
  sorted : reservations.Pairwise (fun a b => a.order ≤ b.order)

namespace AtomicResourceClaimReservation

/-- The identifiers and the member generations do not repeat; a repeated identifier is found first
at the position where either repeats. -/
def validateDistinct : List Uuid → List (Uuid × ℕ × Uuid) → List ResourceClaimReservation →
    Except String Unit
  | _, _, [] => .ok ()
  | ids, members, reservation :: reservations => do
    refuseIf (reservation.id ∈ ids) "an atomic resource claim reservation repeats a Claim ID"
    refuseIf (reservation.memberGeneration ∈ members)
      "an atomic resource claim reservation repeats one replica member generation"
    validateDistinct (reservation.id :: ids) (reservation.memberGeneration :: members) reservations

variable {reservations : List ResourceClaimReservation}

theorem validateDistinct_ok {ids : List Uuid} {members : List (Uuid × ℕ × Uuid)} {u : Unit}
    (h : validateDistinct ids members reservations = .ok u) :
    (∀ reservation ∈ reservations, reservation.id ∉ ids ∧ reservation.memberGeneration ∉ members) ∧
      (reservations.map ResourceClaimReservation.id).Nodup ∧
      (reservations.map memberGeneration).Nodup := by
  induction reservations generalizing ids members with
  | nil => simp
  | cons reservation reservations ih =>
    simp only [validateDistinct, ok_rules] at h
    obtain ⟨hid, hmember, hrest⟩ := h
    obtain ⟨hfresh, hids, hmembers⟩ := ih hrest
    simp only [mem_cons, not_or] at hfresh
    refine ⟨forall_mem_cons.2 ⟨⟨hid, hmember⟩, fun r hr => ?_⟩, ?_, ?_⟩
    · exact ⟨(hfresh r hr).1.2, (hfresh r hr).2.2⟩
    · rw [map_cons, nodup_cons, mem_map]
      refine ⟨?_, hids⟩
      rintro ⟨r, hr, heq⟩
      exact (hfresh r hr).1.1 heq
    · rw [map_cons, nodup_cons, mem_map]
      refine ⟨?_, hmembers⟩
      rintro ⟨r, hr, heq⟩
      exact (hfresh r hr).2.1 heq

def ordered (reservations : List ResourceClaimReservation) : List ResourceClaimReservation :=
  reservations.insertionSort (fun a b => a.order ≤ b.order)

/-- The checks of the constructor. -/
def validate (reservations : List ResourceClaimReservation) : Except String Unit := do
  refuseIf (reservations = [] ∨ maxAtomicResourceClaimReservations < reservations.length)
    "an atomic resource claim reservation must contain between 1 and 256 members"
  checkAll (ResourceClaimReservation.validate X) reservations
  refuseIf (reservations.any (fun reservation => reservations.head?.any
      (fun first => reservation.binding.organizationId ≠ first.binding.organizationId)))
    "an atomic resource claim reservation cannot cross organizations"
  validateDistinct [] [] reservations

variable {X}

/-- What the constructor of a batch has checked. -/
theorem of_validate (h : validate X reservations = .ok ()) :
    reservations ≠ [] ∧ reservations.length ≤ maxAtomicResourceClaimReservations ∧
      (∀ reservation ∈ reservations, reservation.validate X = .ok ()) ∧
      (∀ a ∈ reservations, ∀ b ∈ reservations,
        a.binding.organizationId = b.binding.organizationId) ∧
      (reservations.map ResourceClaimReservation.id).Nodup ∧
      (reservations.map memberGeneration).Nodup := by
  simp only [validate, ok_rules, not_or, not_lt, checkAll_ok_iff] at h
  obtain ⟨⟨hne, hbound⟩, hvalid, horganization, hdistinct⟩ := h
  obtain ⟨-, hids, hmembers⟩ := validateDistinct_ok hdistinct
  refine ⟨hne, hbound, hvalid, ?_, hids, hmembers⟩
  cases reservations with
  | nil => exact absurd rfl hne
  | cons first reservations =>
    have hfirst : ∀ r ∈ first :: reservations,
        r.binding.organizationId = first.binding.organizationId := by
      simpa [Option.any] using horganization
    exact fun a ha b hb => (hfirst a ha).trans (hfirst b hb).symm

theorem ordered_sorted (reservations : List ResourceClaimReservation) :
    (ordered reservations).Pairwise (fun a b => a.order ≤ b.order) := by
  have : Std.Total (fun a b : ResourceClaimReservation => a.order ≤ b.order) :=
    ⟨fun a b => le_total _ _⟩
  have : IsTrans ResourceClaimReservation (fun a b => a.order ≤ b.order) :=
    ⟨fun a b c => le_trans⟩
  exact pairwise_insertionSort _ _

theorem ordered_perm (reservations : List ResourceClaimReservation) :
    (ordered reservations).Perm reservations :=
  perm_insertionSort _ _

variable (X)

def new (reservations : List ResourceClaimReservation) :
    Except String (AtomicResourceClaimReservation X) :=
  match h : validate X reservations with
  | .error message => .error message
  | .ok () => .ok {
      reservations := ordered reservations
      nonempty := by
        intro hnil
        have hperm := ordered_perm reservations
        rw [hnil, nil_perm] at hperm
        exact (of_validate h).1 hperm
      bounded := by
        rw [(ordered_perm reservations).length_eq]
        exact (of_validate h).2.1
      valid := fun r hr => (of_validate h).2.2.1 r ((ordered_perm reservations).mem_iff.1 hr)
      organization := fun a ha b hb => (of_validate h).2.2.2.1 a
        ((ordered_perm reservations).mem_iff.1 ha) b ((ordered_perm reservations).mem_iff.1 hb)
      ids := ((ordered_perm reservations).map _).nodup_iff.2 (of_validate h).2.2.2.2.1
      members := ((ordered_perm reservations).map _).nodup_iff.2 (of_validate h).2.2.2.2.2
      sorted := ordered_sorted reservations }

def single (reservation : ResourceClaimReservation) :
    Except String (AtomicResourceClaimReservation X) := new X [reservation]

variable {X}

theorem new_reservations {batch : AtomicResourceClaimReservation X}
    (h : new X reservations = .ok batch) : batch.reservations = ordered reservations := by
  unfold new at h
  split at h
  · cases h
  · cases h
    rfl

theorem single_reservations {reservation : ResourceClaimReservation}
    {batch : AtomicResourceClaimReservation X} (h : single X reservation = .ok batch) :
    batch.reservations = [reservation] := new_reservations h

end AtomicResourceClaimReservation

/-! ### The claim of a reservation -/

namespace ResourceClaim

/-- The claim of a reservation before its digests are calculated. -/
def unsealed (reservation : ResourceClaimReservation) (slots : List ResourceSlotBinding) :
    ResourceClaim where
  toResourceClaimIdentity := reservation.identity
  slots := slots
  reservationDigest := .other ""
  claimGeneration := 1
  claimDigest := .other ""
  state := .reservedInDb
  prepareCommandId := none
  preparedBindingDigest := none
  releaseCommandId := none
  releaseEvidence := none
  failure := none
  aggregateVersion := 1
  createdAt := canonicalTimestamp reservation.reservedAt
  updatedAt := canonicalTimestamp reservation.reservedAt
  preparedAt := none
  boundAt := none
  releaseRequestedAt := none
  releasedAt := none
  orphanedAt := none

def sealed (claim : ResourceClaim) : ResourceClaim :=
  let claim := { claim with reservationDigest := claim.calculateReservationDigest X }
  { claim with claimDigest := claim.calculateClaimDigest X }

def reserve (reservation : ResourceClaimReservation) (slots : List ResourceSlotBinding) :
    Except String ResourceClaim := do
  reservation.validate X
  refuseIf (¬ slotRequestsMatchBindings reservation.slots slots)
    "reserved resource slots do not match the canonical request"
  validateSlotBindings slots
  let claim := (unsealed reservation slots).sealed X
  claim.validate X
  pure claim

variable {X}

theorem reserve_ok {reservation : ResourceClaimReservation} {slots : List ResourceSlotBinding}
    {claim : ResourceClaim} (h : reserve X reservation slots = .ok claim) :
    claim = (unsealed reservation slots).sealed X ∧ reservation.validate X = .ok () ∧
      slotRequestsMatchBindings reservation.slots slots = true ∧
      validateSlotBindings slots = .ok () := by
  simp only [reserve, ok_rules, not_not] at h
  obtain ⟨hvalid, hmatch, hslots, -, rfl⟩ := h
  exact ⟨rfl, hvalid, hmatch, hslots⟩

end ResourceClaim

end A3SCloud
