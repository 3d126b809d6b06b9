import A3SCloud.Contracts.ResourceClaim

/-!
# The resource claim of the control plane

The model of `modules/workloads/domain/entities/resource_claim.rs`: the record with which the control
plane follows a claim from the reservation in its database over the preparation on the node to the
release.

Each transition of the source is a function to the new record or to an error. `…_ok` lemmas say what
a successful transition does: it repeats one that was made before and changes nothing, or it moves
the record on from the states the lemma names.
-/

namespace A3SCloud

open Checks

variable (X : External)

inductive ResourceClaimState
  | reservedInDb
  | preparingOnAgent
  | preparedOnAgent
  | boundToRuntimeUnit
  | releasing
  | released
  | orphaned
  deriving DecidableEq

structure ResourceClaimBindingEvidence where
  runtimeUnitId : String
  runtimeGeneration : ℕ
  bindingDigest : DigestText
  slots : List ResourceSlotEvidence
  observedAt : ℤ
  deriving DecidableEq

inductive ResourceClaimReleaseEvidence
  | databaseReservationCancelled (reservationDigest : DigestText)
      (slots : List ResourceSlotEvidence) (observedAt : ℤ)
  | agentReleased (commandId : Uuid) (slots : List ResourceSlotEvidence)
      (evidenceDigest : DigestText) (observedAt : ℤ)
  | providerNotFound (slots : List ResourceSlotEvidence) (evidenceDigest : DigestText)
      (observedAt : ℤ)
  | computeFenced (instanceGeneration : ℕ) (slots : List ResourceSlotEvidence)
      (evidenceDigest : DigestText) (observedAt : ℤ)
  deriving DecidableEq

/-- `validate_sha256` of the entity, with its own text. -/
def validateClaimSha256 (value : DigestText) (label : String) : Except String Unit :=
  match value with
  | .sha256 _ => .ok ()
  | .other _ => .error (label ++ " is invalid")

def validateRuntimeIdentity (unitId : String) (generation : ℕ) : Except String Unit :=
  refuseIf (isBlank unitId ∨ 512 < unitId.utf8ByteSize ∨
      containsAny unitId ['\x00', '\r', '\n'] ∨ generation = 0)
    "resource claim Runtime identity is invalid"

def validateFailure (value : String) : Except String Unit :=
  refuseIf (isBlank value ∨ 16 * 1024 < value.utf8ByteSize ∨
      containsAny value ['\x00', '\r', '\n'])
    "resource claim failure is invalid"

/-! ### Evidence -/

namespace ResourceClaimBindingEvidence

def canonicalize (evidence : ResourceClaimBindingEvidence) : ResourceClaimBindingEvidence :=
  { evidence with observedAt := canonicalTimestamp evidence.observedAt }

def validate (evidence : ResourceClaimBindingEvidence) : Except String Unit := do
  validateRuntimeIdentity evidence.runtimeUnitId evidence.runtimeGeneration
  validateClaimSha256 evidence.bindingDigest "Runtime resource binding digest"
  validateSlotEvidence evidence.slots

end ResourceClaimBindingEvidence

namespace ResourceClaimReleaseEvidence

def canonicalize : ResourceClaimReleaseEvidence → ResourceClaimReleaseEvidence
  | databaseReservationCancelled digest slots observedAt =>
    databaseReservationCancelled digest slots (canonicalTimestamp observedAt)
  | agentReleased commandId slots digest observedAt =>
    agentReleased commandId slots digest (canonicalTimestamp observedAt)
  | providerNotFound slots digest observedAt =>
    providerNotFound slots digest (canonicalTimestamp observedAt)
  | computeFenced generation slots digest observedAt =>
    computeFenced generation slots digest (canonicalTimestamp observedAt)

def slots : ResourceClaimReleaseEvidence → List ResourceSlotEvidence
  | databaseReservationCancelled _ slots _ | agentReleased _ slots _ _
  | providerNotFound slots _ _ | computeFenced _ slots _ _ => slots

def observedAt : ResourceClaimReleaseEvidence → ℤ
  | databaseReservationCancelled _ _ observedAt | agentReleased _ _ _ observedAt
  | providerNotFound _ _ observedAt | computeFenced _ _ _ observedAt => observedAt

/-- The part of the check that depends on the kind of evidence, with its digest. -/
def validateKind : ResourceClaimReleaseEvidence → Except String DigestText
  | databaseReservationCancelled _ _ _ => .error "unreachable"
  | agentReleased commandId _ digest _ => do
    refuseIf (commandId = 0) "resource release command identity is invalid"
    pure digest
  | providerNotFound _ digest _ => pure digest
  | computeFenced generation _ digest _ => do
    refuseIf (generation = 0) "compute fencing generation must be positive"
    pure digest

def validate (evidence : ResourceClaimReleaseEvidence) : Except String Unit :=
  match evidence with
  | databaseReservationCancelled digest slots observedAt => do
    validateClaimSha256 digest "cancelled database reservation digest"
    validateSlotEvidence slots
    refuseIf (timestampMillis observedAt ≤ 0) "resource release evidence time is invalid"
  | evidence => do
    let digest ← evidence.validateKind
    validateSlotEvidence evidence.slots
    validateClaimSha256 digest "resource release evidence digest"
    refuseIf (timestampMillis evidence.observedAt ≤ 0) "resource release evidence time is invalid"

end ResourceClaimReleaseEvidence

/-! ### The record -/

structure ResourceClaim extends ResourceClaimIdentity where
  slots : List ResourceSlotBinding
  reservationDigest : DigestText
  claimGeneration : ℕ
  claimDigest : DigestText
  state : ResourceClaimState
  prepareCommandId : Option Uuid
  preparedBindingDigest : Option DigestText
  releaseCommandId : Option Uuid
  releaseEvidence : Option ResourceClaimReleaseEvidence
  failure : Option String
  aggregateVersion : ℕ
  createdAt : ℤ
  updatedAt : ℤ
  preparedAt : Option ℤ
  boundAt : Option ℤ
  releaseRequestedAt : Option ℤ
  releasedAt : Option ℤ
  orphanedAt : Option ℤ
  deriving DecidableEq

namespace ResourceClaim

variable (claim : ResourceClaim)

/-- The key under which a claim is stored. -/
def key : Uuid := claim.id

def slotEvidence : List ResourceSlotEvidence :=
  claim.slots.map ResourceSlotBinding.evidence

def slotEvidenceMatches (evidence : List ResourceSlotEvidence) : Bool :=
  evidence = claim.slotEvidence

def bindingEvidenceMatches (evidence : ResourceClaimBindingEvidence) : Bool :=
  evidence.runtimeUnitId = claim.runtimeUnitId ∧
    evidence.runtimeGeneration = claim.runtimeGeneration ∧
    claim.preparedBindingDigest = some evidence.bindingDigest ∧
    evidence.slots = claim.slotEvidence

def calculateReservationDigest : DigestText :=
  X.digest (.reservation claim.toResourceClaimIdentity (claim.slots.map fun slot =>
    { kind := slot.kind, stableResourceId := slot.stableResourceId, allocation := slot.allocation }))

def calculateClaimDigest : DigestText :=
  X.digest (.resourceClaim claim.reservationDigest claim.claimGeneration claim.slots)

def canonicalTime (time : ℤ) : Except String ℤ := do
  refuseIf (canonicalTimestamp time < claim.updatedAt) "resource claim update time regressed"
  pure (canonicalTimestamp time)

def bump (time : ℤ) : Except String ResourceClaim := do
  let version ← orElse "resource claim version overflowed" (checkedAdd claim.aggregateVersion 1)
  pure { claim with aggregateVersion := version, updatedAt := time }

/-- Which evidence a claim carries in each of its states. -/
def stateValid : Bool :=
  match claim.state with
  | .reservedInDb =>
    claim.prepareCommandId.isNone && claim.preparedBindingDigest.isNone &&
      claim.preparedAt.isNone && claim.boundAt.isNone && claim.releaseCommandId.isNone &&
      claim.releaseRequestedAt.isNone && claim.releaseEvidence.isNone &&
      claim.releasedAt.isNone && claim.failure.isNone && claim.orphanedAt.isNone
  | .preparingOnAgent =>
    claim.prepareCommandId.isSome && claim.preparedBindingDigest.isNone &&
      claim.preparedAt.isNone && claim.boundAt.isNone && claim.releaseCommandId.isNone &&
      claim.releaseEvidence.isNone && claim.failure.isNone
  | .preparedOnAgent =>
    claim.prepareCommandId.isSome && claim.preparedBindingDigest.isSome &&
      claim.preparedAt.isSome && claim.boundAt.isNone && claim.releaseCommandId.isNone &&
      claim.releaseEvidence.isNone && claim.failure.isNone
  | .boundToRuntimeUnit =>
    claim.prepareCommandId.isSome && claim.preparedBindingDigest.isSome &&
      claim.preparedAt.isSome && claim.boundAt.isSome && claim.releaseCommandId.isNone &&
      claim.releaseEvidence.isNone && claim.failure.isNone
  | .releasing =>
    claim.releaseCommandId.isSome && claim.releaseRequestedAt.isSome &&
      claim.releaseEvidence.isNone && claim.releasedAt.isNone
  | .released => claim.releaseEvidence.isSome && claim.releasedAt.isSome && claim.failure.isNone
  | .orphaned =>
    claim.failure.isSome && claim.orphanedAt.isSome && claim.releaseEvidence.isNone &&
      claim.releasedAt.isNone

/-- The evidence a claim stores is valid and covers its slots. -/
def validateStoredEvidence : Except String Unit :=
  match claim.releaseEvidence with
  | none => .ok ()
  | some evidence => do
    evidence.validate
    refuseIf (¬ claim.slotEvidenceMatches evidence.slots)
      "stored resource release evidence has the wrong slots"

/-- The check of an optional field. -/
def validateOptional {α : Type} (validate : α → Except String Unit) :
    Option α → Except String Unit
  | none => .ok ()
  | some value => validate value

def validate : Except String Unit := do
  refuseIf (claim.id = 0 ∨ claim.organizationId = 0 ∨ claim.projectId = 0 ∨
      claim.environmentId = 0 ∨ claim.workloadId = 0 ∨ claim.deploymentId = 0 ∨
      claim.replicaId = 0 ∨ claim.replicaGeneration = 0 ∨ claim.memberId = 0 ∨
      claim.placementGeneration = 0 ∨ claim.nodeId = 0 ∨ claim.inventoryGeneration = 0 ∨
      claim.runtimeGeneration ≠ claim.replicaGeneration ∨ claim.claimGeneration = 0 ∨
      claim.aggregateVersion = 0 ∨ claim.updatedAt < claim.createdAt)
    "resource claim identity, generation, or timestamps are invalid"
  validateClaimSha256 claim.inventoryDigest "resource inventory digest"
  validateClaimSha256 claim.topologyDigest "resource topology digest"
  validateClaimSha256 claim.reservationDigest "resource reservation digest"
  validateClaimSha256 claim.claimDigest "resource claim digest"
  validateRuntimeIdentity claim.runtimeUnitId claim.runtimeGeneration
  validateSlotBindings claim.slots
  refuseIf (claim.calculateReservationDigest X ≠ claim.reservationDigest ∨
      claim.calculateClaimDigest X ≠ claim.claimDigest)
    "resource claim digest does not match its exact binding"
  validateOptional (validateClaimSha256 · "prepared resource binding digest")
    claim.preparedBindingDigest
  validateOptional validateFailure claim.failure
  claim.validateStoredEvidence
  refuseIf (¬ claim.stateValid) "resource claim state does not match its durable evidence"

/-! ### Transitions -/

def beginPreparation (commandId : Uuid) (time : ℤ) : Except String ResourceClaim := do
  let time ← claim.canonicalTime time
  if claim.state = .preparingOnAgent then do
    refuseIf (claim.prepareCommandId ≠ some commandId)
      "resource claim preparation command cannot change"
    pure claim
  else do
    refuseIf (claim.state ≠ .reservedInDb ∨ commandId = 0)
      "resource claim cannot begin agent preparation"
    { claim with
      state := .preparingOnAgent
      prepareCommandId := some commandId : ResourceClaim }.bump time

def recordPrepared (commandId : Uuid) (bindingDigest : DigestText)
    (time : ℤ) : Except String ResourceClaim := do
  let time ← claim.canonicalTime time
  validateClaimSha256 bindingDigest "prepared resource binding digest"
  if claim.state = .preparedOnAgent then do
    refuseIf (claim.prepareCommandId ≠ some commandId ∨
        claim.preparedBindingDigest ≠ some bindingDigest)
      "prepared resource claim evidence cannot change"
    pure claim
  else do
    refuseIf (claim.state ≠ .preparingOnAgent ∨ claim.prepareCommandId ≠ some commandId)
      "resource claim preparation acknowledgement is stale"
    { claim with
      state := .preparedOnAgent
      preparedBindingDigest := some bindingDigest
      preparedAt := some time : ResourceClaim }.bump time

def bind (evidence : ResourceClaimBindingEvidence) (time : ℤ) : Except String ResourceClaim := do
  let time ← claim.canonicalTime time
  let evidence := evidence.canonicalize
  evidence.validate
  if claim.state = .boundToRuntimeUnit then do
    refuseIf (¬ claim.bindingEvidenceMatches evidence)
      "bound resource claim evidence cannot change"
    pure claim
  else do
    refuseIf (claim.state ≠ .preparedOnAgent ∨ ¬ claim.bindingEvidenceMatches evidence ∨
        time < evidence.observedAt)
      "Runtime resource binding evidence does not match the prepared claim"
    { claim with
      state := .boundToRuntimeUnit
      boundAt := some (canonicalTimestamp evidence.observedAt) : ResourceClaim }.bump time

def nextGeneration (generation : ℕ) : ResourceClaim :=
  let claim := { claim with claimGeneration := generation }
  { claim with claimDigest := claim.calculateClaimDigest X }

def beginRelease (commandId : Uuid) (time : ℤ) : Except String ResourceClaim := do
  let time ← claim.canonicalTime time
  if claim.state = .releasing then do
    refuseIf (claim.releaseCommandId ≠ some commandId)
      "resource claim release command cannot change"
    pure claim
  else do
    refuseIf ((claim.state ≠ .preparedOnAgent ∧ claim.state ≠ .boundToRuntimeUnit ∧
        claim.state ≠ .orphaned) ∨ commandId = 0)
      "resource claim cannot begin release"
    let generation ← orElse "resource claim generation overflowed"
      (checkedAdd claim.claimGeneration 1)
    { claim.nextGeneration X generation with
      state := .releasing
      releaseCommandId := some commandId
      releaseRequestedAt := some time : ResourceClaim }.bump time

/-- A release of an issued claim needs evidence from outside the database, a reservation is given up
with its own digest. -/
def releaseMatches : ResourceClaimReleaseEvidence → Bool
  | .databaseReservationCancelled digest _ _ =>
    claim.state = .reservedInDb ∧ digest = claim.reservationDigest
  | _ => claim.state = .releasing ∨ claim.state = .orphaned

/-- The evidence of an agent answers the release command of the claim. -/
def validateAgentRelease : ResourceClaimReleaseEvidence → Except String Unit
  | .agentReleased commandId _ _ _ =>
    refuseIf (claim.state ≠ .releasing ∨ claim.releaseCommandId ≠ some commandId)
      "agent release acknowledgement has the wrong command identity"
  | _ => .ok ()

def recordReleased (evidence : ResourceClaimReleaseEvidence) (time : ℤ) :
    Except String ResourceClaim := do
  let time ← claim.canonicalTime time
  let evidence := evidence.canonicalize
  evidence.validate
  if claim.state = .released then do
    refuseIf (claim.releaseEvidence ≠ some evidence)
      "released resource claim evidence cannot change"
    pure claim
  else do
    refuseIf (¬ claim.releaseMatches evidence ∨ time < evidence.observedAt ∨
        ¬ claim.slotEvidenceMatches evidence.slots)
      "resource claim release evidence is stale or incomplete"
    claim.validateAgentRelease evidence
    { claim with
      state := .released
      releasedAt := some (canonicalTimestamp evidence.observedAt)
      releaseEvidence := some evidence
      failure := none : ResourceClaim }.bump time

def cancelDatabaseReservation (time : ℤ) : Except String ResourceClaim :=
  claim.recordReleased (.databaseReservationCancelled claim.reservationDigest claim.slotEvidence
    (canonicalTimestamp time)) time

def orphan (failure : String) (time : ℤ) : Except String ResourceClaim := do
  let time ← claim.canonicalTime time
  validateFailure failure
  if claim.state = .orphaned then do
    refuseIf (claim.failure ≠ some failure) "orphaned resource claim failure cannot change"
    pure claim
  else do
    refuseIf (claim.state = .released) "released resource claim cannot become orphaned"
    { claim with
      state := .orphaned
      failure := some failure
      orphanedAt := some time : ResourceClaim }.bump time

/-! ### What a transition does -/

variable {claim claim' : ResourceClaim} {time : ℤ} {commandId : Uuid}

theorem canonicalTime_ok_iff {result : ℤ} :
    claim.canonicalTime time = .ok result ↔
      claim.updatedAt ≤ result ∧ canonicalTimestamp time = result := by
  simp only [canonicalTime, ok_rules, not_lt]
  constructor
  · rintro ⟨hle, rfl⟩
    exact ⟨hle, rfl⟩
  · rintro ⟨hle, rfl⟩
    exact ⟨hle, rfl⟩

/-- The claim after one more change. -/
def touch (claim : ResourceClaim) (time : ℤ) : ResourceClaim :=
  { claim with aggregateVersion := claim.aggregateVersion + 1, updatedAt := time }

theorem bump_ok (h : claim.bump time = .ok claim') : claim' = claim.touch time := by
  simp only [bump, ok_rules, checkedAdd_eq_some] at h
  obtain ⟨version, ⟨rfl, -⟩, rfl⟩ := h
  rfl

theorem beginPreparation_ok (h : claim.beginPreparation commandId time = .ok claim') :
    (claim' = claim ∧ claim.state = .preparingOnAgent ∧ claim.prepareCommandId = some commandId) ∨
      (claim.state = .reservedInDb ∧ commandId ≠ 0 ∧
        claim' = { claim with
          state := .preparingOnAgent
          prepareCommandId := some commandId : ResourceClaim }.touch (canonicalTimestamp time)) := by
  simp only [beginPreparation, bind_ok_iff, canonicalTime_ok_iff] at h
  obtain ⟨_, ⟨-, rfl⟩, h⟩ := h
  split_ifs at h with hstate
  · simp only [ok_rules, ne_eq, not_not] at h
    exact .inl ⟨h.2.symm, hstate, h.1⟩
  · simp only [ok_rules, not_or, ne_eq, not_not] at h
    exact .inr ⟨h.1.1, h.1.2, bump_ok h.2⟩

theorem recordPrepared_ok {bindingDigest : DigestText}
    (h : claim.recordPrepared commandId bindingDigest time = .ok claim') :
    (claim' = claim ∧ claim.state = .preparedOnAgent) ∨
      (claim.state = .preparingOnAgent ∧ claim.prepareCommandId = some commandId ∧
        claim' = { claim with
          state := .preparedOnAgent
          preparedBindingDigest := some bindingDigest
          preparedAt := some (canonicalTimestamp time) : ResourceClaim }.touch
            (canonicalTimestamp time)) := by
  simp only [recordPrepared, ok_rules, canonicalTime_ok_iff] at h
  obtain ⟨_, ⟨-, rfl⟩, -, h⟩ := h
  split_ifs at h with hstate
  · simp only [ok_rules] at h
    exact .inl ⟨h.2.symm, hstate⟩
  · simp only [ok_rules, not_or, ne_eq, not_not] at h
    exact .inr ⟨h.1.1, h.1.2, bump_ok h.2⟩

theorem bind_ok {evidence : ResourceClaimBindingEvidence}
    (h : claim.bind evidence time = .ok claim') :
    (claim' = claim ∧ claim.state = .boundToRuntimeUnit) ∨
      (claim.state = .preparedOnAgent ∧
        claim' = { claim with
          state := .boundToRuntimeUnit
          boundAt := some (canonicalTimestamp evidence.canonicalize.observedAt) :
            ResourceClaim }.touch (canonicalTimestamp time)) := by
  simp only [ResourceClaim.bind, ok_rules, canonicalTime_ok_iff] at h
  obtain ⟨_, ⟨-, rfl⟩, -, h⟩ := h
  split_ifs at h with hstate
  · simp only [ok_rules] at h
    exact .inl ⟨h.2.symm, hstate⟩
  · simp only [ok_rules, not_or, ne_eq, not_not] at h
    exact .inr ⟨h.1.1, bump_ok h.2⟩

variable {X}

theorem beginRelease_ok (h : claim.beginRelease X commandId time = .ok claim') :
    (claim' = claim ∧ claim.state = .releasing ∧ claim.releaseCommandId = some commandId) ∨
      ((claim.state = .preparedOnAgent ∨ claim.state = .boundToRuntimeUnit ∨
          claim.state = .orphaned) ∧ commandId ≠ 0 ∧
        claim.claimGeneration + 1 < 2 ^ 64 ∧
        claim' = { claim.nextGeneration X (claim.claimGeneration + 1) with
          state := .releasing
          releaseCommandId := some commandId
          releaseRequestedAt := some (canonicalTimestamp time) : ResourceClaim }.touch
            (canonicalTimestamp time)) := by
  simp only [beginRelease, bind_ok_iff, canonicalTime_ok_iff] at h
  obtain ⟨_, ⟨-, rfl⟩, h⟩ := h
  split_ifs at h with hstate
  · simp only [ok_rules, ne_eq, not_not] at h
    exact .inl ⟨h.2.symm, hstate, h.1⟩
  · simp only [ok_rules, not_or, ne_eq, checkedAdd_eq_some] at h
    obtain ⟨⟨hfrom, hid⟩, _, ⟨rfl, hbound⟩, hbump⟩ := h
    exact .inr ⟨by tauto, hid, hbound, bump_ok hbump⟩

theorem recordReleased_ok {evidence : ResourceClaimReleaseEvidence}
    (h : claim.recordReleased evidence time = .ok claim') :
    (claim' = claim ∧ claim.state = .released) ∨
      (claim.releaseMatches evidence.canonicalize = true ∧
        claim.validateAgentRelease evidence.canonicalize = .ok () ∧
        claim' = { claim with
          state := .released
          releasedAt := some (canonicalTimestamp evidence.canonicalize.observedAt)
          releaseEvidence := some evidence.canonicalize
          failure := none : ResourceClaim }.touch (canonicalTimestamp time)) := by
  simp only [recordReleased, ok_rules, canonicalTime_ok_iff] at h
  obtain ⟨_, ⟨-, rfl⟩, -, h⟩ := h
  split_ifs at h with hstate
  · simp only [ok_rules] at h
    exact .inl ⟨h.2.symm, hstate⟩
  · simp only [ok_rules, not_or, not_not] at h
    exact .inr ⟨h.1.1, h.2.1, bump_ok h.2.2⟩

theorem orphan_ok {failure : String} (h : claim.orphan failure time = .ok claim') :
    (claim' = claim ∧ claim.state = .orphaned) ∨
      (claim.state ≠ .released ∧
        claim' = { claim with
          state := .orphaned
          failure := some failure
          orphanedAt := some (canonicalTimestamp time) : ResourceClaim }.touch
            (canonicalTimestamp time)) := by
  simp only [orphan, ok_rules, canonicalTime_ok_iff] at h
  obtain ⟨_, ⟨-, rfl⟩, -, h⟩ := h
  split_ifs at h with hstate
  · simp only [ok_rules] at h
    exact .inl ⟨h.2.symm, hstate⟩
  · simp only [ok_rules] at h
    exact .inr ⟨h.1, bump_ok h.2⟩

end ResourceClaim

end A3SCloud
