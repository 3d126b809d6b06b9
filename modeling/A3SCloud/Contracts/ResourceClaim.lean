import A3SCloud.Contracts.External

/-!
# Resource claim contracts

The model of `crates/contracts/src/node/resource_claim.rs` and `inventory.rs`: what makes a claim
binding well formed, when it fits a node's inventory or a Runtime specification, the evidence a
node returns for a prepared or released claim, and the claims a node writes into a Runtime
observation to tie it to its binding.

* `claimRequestValidate` and `claimEvidenceValidate` are the checks shared by prepare and release;
  each of the two keeps its own texts.
* `validateRuntimeObservation_of_bind` says that an observation that was tied to a binding passes
  the later check.
-/

namespace A3SCloud

open Checks

variable (X : External)

def runtimeResourceClaimIdKey : String := "a3s.cloud.resource-claim.id"

def runtimeResourceBindingDigestKey : String := "a3s.cloud.resource-claim.binding-digest"

/-! ### Inventories -/

def NodeResourceSlot.key (slot : NodeResourceSlot) : SlotKey := (slot.kind, slot.stableResourceId)

def NodeResourceSlot.validate (slot : NodeResourceSlot) : Except String Unit := do
  validateStableResourceId slot.stableResourceId
  slot.allocation.validateFor slot.kind

def NodeResourceInventory.validate (inventory : NodeResourceInventory) : Except String Unit := do
  validateSchema "unsupported node resource inventory schema" inventory.schema
  validateUuid "node_id" inventory.nodeId
  validateUuid "agent_instance_id" inventory.agentInstanceId
  refuseIf (inventory.generation = 0 ∨ timestampMillis inventory.observedAt ≤ 0)
    "node resource inventory generation or observation time is invalid"
  validateSlots NodeResourceSlot.validate NodeResourceSlot.key
    "node resource inventory must contain 1 to 256 slots"
    "node resource inventory slots must be uniquely and canonically sorted" inventory.slots
  validateSha256 "node inventory digest" inventory.digest
  refuseIf (inventory.digest ≠ X.digest (.inventory inventory.slots))
    "node inventory digest does not match its canonical slots"

def NodeResourceInventory.slot? (inventory : NodeResourceInventory) (key : SlotKey) :
    Option NodeResourceSlot :=
  inventory.slots.find? (fun slot => slot.key = key)

/-! ### Scalar allocations of a binding -/

def optionalScalar (slots : List ResourceSlotBinding) (kind : ResourceKind) (unit : ResourceUnit) :
    Except String (Option ℕ) :=
  match slots.filter (fun slot => slot.kind = kind) with
  | [] => .ok none
  | [slot] =>
    match slot.allocation with
    | .scalar amount actual =>
      if actual = unit then .ok (some amount)
      else .error ("resource claim " ++ kind.asStr ++ " allocation has the wrong scalar unit")
    | .range _ _ _ =>
      .error ("resource claim " ++ kind.asStr ++ " allocation has the wrong scalar unit")
  | _ => .error ("resource claim binding contains multiple " ++ kind.asStr ++ " slots")

def requiredScalar (slots : List ResourceSlotBinding) (kind : ResourceKind) (unit : ResourceUnit) :
    Except String ℕ := do
  let amount ← optionalScalar slots kind unit
  orElse ("resource claim binding omitted required " ++ kind.asStr) amount

/-! ### Claim bindings -/

namespace NodeResourceClaimBinding

variable (binding : NodeResourceClaimBinding)

def validate : Except String Unit := do
  validateSchema "unsupported node resource claim binding schema" binding.schema
  validateUuid "claim_id" binding.claimId
  validateUuid "node_id" binding.nodeId
  validateUuid "agent_instance_id" binding.agentInstanceId
  refuseIf (binding.inventoryGeneration = 0 ∨ binding.runtimeGeneration = 0)
    "resource claim inventory and Runtime generations must be positive"
  validateSha256 "resource inventory digest" binding.inventoryDigest
  validateSha256 "resource topology digest" binding.topologyDigest
  validateSingleLine "Runtime unit ID" binding.runtimeUnitId 512
  validateSlotBindings binding.slots

def digest (binding : NodeResourceClaimBinding) : Except String DigestText := do
  binding.validate
  pure (X.digest (.claimBinding binding))

/-- A requested slot exists in the inventory and fits into it. -/
def validateInventorySlot (inventory : NodeResourceInventory) (requested : ResourceSlotBinding) :
    Except String Unit := do
  let capacity ← orElse
    ("resource claim slot " ++ requested.stableResourceId ++
      " is absent from the current Agent inventory")
    (inventory.slot? requested.key)
  refuseIf (¬ capacity.allocation.contains requested.allocation)
    ("resource claim slot " ++ requested.stableResourceId ++ " exceeds the current Agent inventory")

def validateInventory (inventory : NodeResourceInventory) : Except String Unit := do
  binding.validate
  inventory.validate X
  refuseIf (inventory.nodeId ≠ binding.nodeId ∨
      inventory.agentInstanceId ≠ binding.agentInstanceId ∨
      inventory.generation ≠ binding.inventoryGeneration ∨
      inventory.digest ≠ binding.inventoryDigest)
    "resource claim binding does not reference the current Agent inventory"
  checkAll (validateInventorySlot inventory) binding.slots

def validateRuntimeSpec (spec : RuntimeUnitSpec) : Except String Unit := do
  binding.validate
  X.specValidate spec
  refuseIf (binding.runtimeUnitId ≠ spec.unitId ∨ binding.runtimeGeneration ≠ spec.generation)
    "resource claim binding does not match the Runtime unit identity"
  let cpu ← requiredScalar binding.slots .cpu .milliCpu
  let memory ← requiredScalar binding.slots .memory .byte
  let ephemeral ← optionalScalar binding.slots .ephemeralStorage .byte
  refuseIf (cpu ≠ spec.resources.cpuMillis ∨ memory ≠ spec.resources.memoryBytes ∨
      ephemeral ≠ spec.resources.ephemeralStorageBytes)
    "resource claim scalar allocations do not match the Runtime resource limits"
  refuseIf (binding.slots.any (fun slot => !slot.kind.isSharedCapacity))
    "the current Runtime binding protocol cannot enforce an exclusive resource slot"

theorem digest_ok_iff {binding : NodeResourceClaimBinding} {d : DigestText} :
    binding.digest X = .ok d ↔
      binding.validate = .ok () ∧ X.digest (.claimBinding binding) = d := by
  simp only [digest, ok_rules]

end NodeResourceClaimBinding

/-! ### Evidence written into a Runtime observation -/

/-- Adds a reserved evidence claim unless the provider already reported another value for it. -/
def insertExactClaim (claims : List (String × EvidenceText)) (key : String) (value : EvidenceText) :
    Except String (List (String × EvidenceText)) :=
  match claims.lookup key with
  | none => .ok ((key, value) :: claims)
  | some existing =>
    if existing = value then .ok claims
    else .error ("Runtime evidence reserved claim " ++ key ++ " conflicts")

variable {claims claims' : List (String × EvidenceText)} {value : EvidenceText} {u : Unit}

theorem insertExactClaim_ok_iff {key : String} :
    insertExactClaim claims key value = .ok claims' ↔
      (claims.lookup key = none ∧ claims' = (key, value) :: claims) ∨
        (claims.lookup key = some value ∧ claims' = claims) := by
  unfold insertExactClaim
  cases h : claims.lookup key with
  | none => simp [eq_comm]
  | some existing =>
    by_cases hv : existing = value
    · subst hv; simp [eq_comm]
    · simp [hv]

/-- An inserted claim reads back, and no other claim changes. -/
theorem lookup_insertExactClaim {key : String}
    (h : insertExactClaim claims key value = .ok claims') :
    claims'.lookup key = some value ∧ ∀ k, k ≠ key → claims'.lookup k = claims.lookup k := by
  rcases insertExactClaim_ok_iff.1 h with ⟨-, rfl⟩ | ⟨hl, rfl⟩
  · refine ⟨by simp, fun k hk => ?_⟩
    have hne : (k == key) = false := by simpa using hk
    simp [List.lookup_cons, hne]
  · exact ⟨hl, fun _ _ => rfl⟩

/-- The evidence of an observation, or the default the node starts from. -/
def RuntimeObservation.evidenceOrDefault (observation : RuntimeObservation) : RuntimeEvidence :=
  observation.evidence.getD
    { providerBuild := observation.providerBuild.getD "unknown"
      specDigest := observation.specDigest
      claims := []
      body := "" }

namespace NodeResourceClaimBinding

def bindRuntimeObservation (binding : NodeResourceClaimBinding) (observation : RuntimeObservation) :
    Except String RuntimeObservation := do
  binding.validate
  X.observationValidate observation
  refuseIf (observation.unitId ≠ binding.runtimeUnitId ∨
      observation.generation ≠ binding.runtimeGeneration ∨ observation.providerResourceId = none)
    "Runtime observation does not prove the prepared resource binding identity"
  let bindingDigest ← binding.digest X
  let evidence := observation.evidenceOrDefault
  let claims ← insertExactClaim evidence.claims runtimeResourceClaimIdKey (.uuid binding.claimId)
  let claims ← insertExactClaim claims runtimeResourceBindingDigestKey (.digest bindingDigest)
  let bound := { observation with evidence := some { evidence with claims := claims } }
  X.observationValidate bound
  pure bound

def validateRuntimeObservation (binding : NodeResourceClaimBinding)
    (observation : RuntimeObservation) : Except String Unit := do
  binding.validate
  X.observationValidate observation
  let evidence ← orElse "Runtime observation omitted resource allocation-binding evidence"
    observation.evidence
  let bindingDigest ← binding.digest X
  refuseIf (observation.unitId ≠ binding.runtimeUnitId ∨
      observation.generation ≠ binding.runtimeGeneration ∨
      evidence.claims.lookup runtimeResourceClaimIdKey ≠ some (.uuid binding.claimId) ∨
      evidence.claims.lookup runtimeResourceBindingDigestKey ≠ some (.digest bindingDigest))
    "Runtime observation resource allocation-binding evidence is inconsistent"

variable {X}

variable {binding : NodeResourceClaimBinding} {observation bound : RuntimeObservation}

theorem bindRuntimeObservation_ok (h : binding.bindRuntimeObservation X observation = .ok bound) :
    binding.validate = .ok () ∧ X.observationValidate bound = .ok () ∧
      observation.unitId = binding.runtimeUnitId ∧
      observation.generation = binding.runtimeGeneration ∧
      ∃ claims, bound = { observation with
          evidence := some { observation.evidenceOrDefault with claims := claims } } ∧
        claims.lookup runtimeResourceClaimIdKey = some (.uuid binding.claimId) ∧
        claims.lookup runtimeResourceBindingDigestKey =
          some (.digest (X.digest (.claimBinding binding))) := by
  simp only [bindRuntimeObservation, ok_rules, digest_ok_iff, not_or, not_not] at h
  obtain ⟨hv, -, ⟨hu, hg, -⟩, d, ⟨-, rfl⟩, c₁, h₁, c₂, h₂, hb, rfl⟩ := h
  obtain ⟨hid, -⟩ := lookup_insertExactClaim h₁
  obtain ⟨hdig, hkeep⟩ := lookup_insertExactClaim h₂
  have hne : runtimeResourceClaimIdKey ≠ runtimeResourceBindingDigestKey := by decide
  exact ⟨hv, hb, hu, hg, c₂, rfl, by rw [hkeep _ hne, hid], hdig⟩

/-- A tied observation passes the check of the journal and of the control plane. -/
theorem validateRuntimeObservation_of_bind
    (h : binding.bindRuntimeObservation X observation = .ok bound) :
    binding.validateRuntimeObservation X bound = .ok () := by
  obtain ⟨hv, hb, hu, hg, claims, rfl, hid, hdig⟩ := bindRuntimeObservation_ok h
  simp only [validateRuntimeObservation, ok_rules, digest_ok_iff]
  refine ⟨hv, hb, _, rfl, _, ⟨hv, rfl⟩, ?_⟩
  simp [hu, hg, hid, hdig]

end NodeResourceClaimBinding

/-! ### Prepare and release requests -/

/-- The check shared by prepare and release requests. -/
def claimRequestValidate (unsupported zero : String) (request : NodeResourceClaimRequest) :
    Except String Unit := do
  validateSchema unsupported request.schema
  refuseIf (request.claimGeneration = 0) zero
  validateSha256 "resource claim digest" request.claimDigest
  request.binding.validate

def NodeResourceClaimPrepare.validate : NodeResourceClaimPrepare → Except String Unit :=
  claimRequestValidate "unsupported node resource claim prepare schema"
    "resource claim generation must be positive"

def NodeResourceClaimRelease.validate : NodeResourceClaimRelease → Except String Unit :=
  claimRequestValidate "unsupported node resource claim release schema"
    "resource claim release generation must be positive"

/-! ### Evidence of a prepared or released claim -/

/-- The check shared by prepared and released evidence. -/
def claimEvidenceValidate (unsupported invalid : String) (evidence : NodeResourceClaimEvidence) :
    Except String Unit := do
  validateSchema unsupported evidence.schema
  validateUuid "claim_id" evidence.claimId
  refuseIf (evidence.claimGeneration = 0 ∨ timestampMillis evidence.observedAt ≤ 0) invalid
  validateSha256 "resource claim digest" evidence.claimDigest
  validateSha256 "resource binding digest" evidence.bindingDigest
  validateSlotEvidence evidence.slots

def NodeResourceClaimPrepared.validate : NodeResourceClaimPrepared → Except String Unit :=
  claimEvidenceValidate "unsupported node resource claim prepared schema"
    "prepared resource claim generation or time is invalid"

def NodeResourceClaimReleased.validate : NodeResourceClaimReleased → Except String Unit :=
  claimEvidenceValidate "unsupported node resource claim released schema"
    "released resource claim generation or time is invalid"

/-- The evidence answers exactly this request. -/
def claimEvidenceMatches (mismatch : String) (evidence : NodeResourceClaimEvidence)
    (request : NodeResourceClaimRequest) : Except String Unit := do
  let bindingDigest ← request.binding.digest X
  refuseIf (evidence.claimId ≠ request.binding.claimId ∨
      evidence.claimGeneration ≠ request.claimGeneration ∨
      evidence.claimDigest ≠ request.claimDigest ∨ evidence.bindingDigest ≠ bindingDigest ∨
      evidence.slots ≠ request.binding.slots.map ResourceSlotBinding.evidence) mismatch

def NodeResourceClaimPrepared.validateFor (prepared : NodeResourceClaimPrepared)
    (request : NodeResourceClaimPrepare) : Except String Unit := do
  NodeResourceClaimPrepared.validate prepared
  NodeResourceClaimPrepare.validate request
  claimEvidenceMatches X "prepared resource claim evidence does not match its exact request"
    prepared request

def NodeResourceClaimReleased.validateFor (released : NodeResourceClaimReleased)
    (request : NodeResourceClaimRelease) : Except String Unit := do
  NodeResourceClaimReleased.validate released
  NodeResourceClaimRelease.validate request
  claimEvidenceMatches X "released resource claim evidence does not match its exact request"
    released request

/-- The evidence that answers a request at the given time. -/
def claimEvidence (request : NodeResourceClaimRequest) (at_ : ℤ) : NodeResourceClaimEvidence where
  schema := .current
  claimId := request.binding.claimId
  claimGeneration := request.claimGeneration
  claimDigest := request.claimDigest
  bindingDigest := X.digest (.claimBinding request.binding)
  slots := request.binding.slots.map ResourceSlotBinding.evidence
  observedAt := at_

def NodeResourceClaimPrepared.new (request : NodeResourceClaimPrepare) (preparedAt : ℤ) :
    Except String NodeResourceClaimPrepared := do
  NodeResourceClaimPrepare.validate request
  let prepared := claimEvidence X request preparedAt
  NodeResourceClaimPrepared.validateFor X prepared request
  pure prepared

def NodeResourceClaimReleased.new (request : NodeResourceClaimRelease) (releasedAt : ℤ) :
    Except String NodeResourceClaimReleased := do
  NodeResourceClaimRelease.validate request
  let released := claimEvidence X request releasedAt
  NodeResourceClaimReleased.validateFor X released request
  pure released

variable {X}

theorem claimRequestValidate_ok {unsupported zero : String} {request : NodeResourceClaimRequest}
    (h : claimRequestValidate unsupported zero request = .ok u) :
    request.claimGeneration ≠ 0 ∧ validateSha256 "resource claim digest" request.claimDigest = .ok () ∧
      request.binding.validate = .ok () := by
  simp only [claimRequestValidate, ok_rules] at h
  exact ⟨h.2.1, h.2.2.1, h.2.2.2⟩

theorem NodeResourceClaimBinding.validate_ok {binding : NodeResourceClaimBinding}
    (h : binding.validate = .ok u) :
    binding.claimId ≠ 0 ∧ validateSlotBindings binding.slots = .ok () := by
  simp only [NodeResourceClaimBinding.validate, ok_rules, validateUuid_ok_iff] at h
  exact ⟨h.2.1, h.2.2.2.2.2.2.2.2⟩

end A3SCloud
