import A3SCloud.Contracts.Command
import A3SCloud.Lib.Table

/-!
# The resource claims of a node journal

The model of `ResourceClaimJournalProjection` in `crates/node-agent/src/journal.rs`. A node stores no
table of resource claims: it replays its journal entries in sequence order, and each entry registers
a claim or moves one along.

* `ResourceClaimJournalProjection.apply` is one step of the replay, `projectEntries` the replay.
-/

namespace A3SCloud

open Checks

variable (X : External)

inductive CommandJournalError
  | invalid (message : String)
  | conflict (message : String)
  | storage (message : String)
  deriving DecidableEq

/-! ### Journal entries -/

structure JournalCompletion where
  completedAt : ℤ
  outcome : NodeCommandOutcome
  deriving DecidableEq

structure JournalEntry where
  envelope : NodeCommandEnvelope
  completion : Option JournalCompletion
  acknowledged : Bool
  deriving DecidableEq

namespace JournalEntry

def commandId (entry : JournalEntry) : Uuid := entry.envelope.commandId

def report (envelope : NodeCommandEnvelope) (completion : JournalCompletion) : NodeCommandAck where
  schema := .current
  commandId := envelope.commandId
  leaseId := envelope.leaseId
  nodeId := envelope.nodeId
  sequence := envelope.sequence
  payloadDigest := envelope.payloadDigest
  completedAt := completion.completedAt
  outcome := completion.outcome

def acknowledgement (entry : JournalEntry) : Except CommandJournalError (Option NodeCommandAck) :=
  match entry.completion with
  | none => .ok none
  | some completion => do
    let acknowledgement := report entry.envelope completion
    (acknowledgement.validateAgainst X entry.envelope).mapError .invalid
    pure (some acknowledgement)

def success? (entry : JournalEntry) : Option NodeCommandResult :=
  match entry.completion with
  | some ⟨_, .succeeded result⟩ => some result
  | _ => none

end JournalEntry

/-! ### Projected claims -/

structure ProjectedResourceClaim where
  binding : NodeResourceClaimBinding
  prepareGeneration : ℕ
  prepareDigest : DigestText
  latestGeneration : ℕ
  prepareTerminal : Bool
  active : Bool
  bound : Bool
  runtimeFenced : Bool
  released : Bool
  deriving DecidableEq

open ProjectedResourceClaim

namespace ProjectedResourceClaim

def claimId (claim : ProjectedResourceClaim) : Uuid := claim.binding.claimId

def new (request : NodeResourceClaimPrepare) : ProjectedResourceClaim where
  binding := request.binding
  prepareGeneration := request.claimGeneration
  prepareDigest := request.claimDigest
  latestGeneration := request.claimGeneration
  prepareTerminal := false
  active := false
  bound := false
  runtimeFenced := false
  released := false

variable (claim : ProjectedResourceClaim)

def registerPrepare (request : NodeResourceClaimPrepare) : Except CommandJournalError Unit := do
  (NodeResourceClaimPrepare.validate request).mapError .invalid
  refuseIf (claim.binding ≠ request.binding ∨ claim.prepareGeneration ≠ request.claimGeneration ∨
      claim.prepareDigest ≠ request.claimDigest)
    (.conflict "resource claim prepare binding changed across journal replay")

def registerRelease (request : NodeResourceClaimRelease) : Except CommandJournalError Unit := do
  (NodeResourceClaimRelease.validate request).mapError .invalid
  refuseIf (claim.binding ≠ request.binding ∨ request.claimGeneration ≤ claim.prepareGeneration ∨
      request.claimGeneration < claim.latestGeneration)
    (.conflict "resource claim release generation or binding regressed")

/-- Whether the claim is the active one of a Runtime unit and generation. -/
def holds (unitId : String) (generation : ℕ) : Bool :=
  claim.active && claim.binding.runtimeUnitId = unitId &&
    claim.binding.runtimeGeneration = generation

/-! The changes a replayed entry can make to a claim. -/

def terminal (completed : Bool) : ProjectedResourceClaim :=
  if completed then { claim with prepareTerminal := true } else claim

def advance (generation : ℕ) : ProjectedResourceClaim :=
  { claim with latestGeneration := generation }

def activate : ProjectedResourceClaim :=
  { claim with active := true, released := false }

def bind : ProjectedResourceClaim :=
  { claim with bound := true, runtimeFenced := false }

def fence (unitId : String) (generation : ℕ) : ProjectedResourceClaim :=
  if claim.holds unitId generation then { claim with runtimeFenced := true } else claim

def release : ProjectedResourceClaim :=
  { claim with active := false, released := true }

@[simp] theorem claimId_new (request : NodeResourceClaimPrepare) :
    (new request).claimId = request.binding.claimId := rfl

@[simp] theorem binding_terminal (completed : Bool) :
    (claim.terminal completed).binding = claim.binding := by
  unfold terminal; split_ifs <;> rfl

@[simp] theorem binding_fence (unitId : String) (generation : ℕ) :
    (claim.fence unitId generation).binding = claim.binding := by
  unfold fence; split_ifs <;> rfl

theorem claimId_terminal (completed : Bool) (claim : ProjectedResourceClaim) :
    (claim.terminal completed).claimId = claim.claimId := by
  simp [claimId]

theorem claimId_advance (generation : ℕ) (claim : ProjectedResourceClaim) :
    (claim.advance generation).claimId = claim.claimId := rfl

theorem claimId_activate : claim.activate.claimId = claim.claimId := rfl

theorem claimId_bind : claim.bind.claimId = claim.claimId := rfl

theorem claimId_release : claim.release.claimId = claim.claimId := rfl

theorem claimId_fence (unitId : String) (generation : ℕ) (claim : ProjectedResourceClaim) :
    (claim.fence unitId generation).claimId = claim.claimId := by
  simp [claimId]

end ProjectedResourceClaim

/-! ### The projection -/

def stoppedOrAbsent : RuntimeInspection → Bool
  | .notFound _ => true
  | .found observation => X.isTerminal observation.state

/-- The resource claims a journal knows, under their identifiers. -/
structure ResourceClaimJournalProjection where
  claims : Table ProjectedResourceClaim.claimId

namespace ResourceClaimJournalProjection

def empty : ResourceClaimJournalProjection := ⟨Table.empty⟩

variable (projection : ResourceClaimJournalProjection)

def update (claimId : Uuid)
    (missing : CommandJournalError) (change : ProjectedResourceClaim → ProjectedResourceClaim)
    (keeps : ∀ claim, (change claim).claimId = claim.claimId) :
    Except CommandJournalError ResourceClaimJournalProjection := do
  let _ ← orElse missing (projection.claims.get? claimId)
  pure ⟨projection.claims.modify claimId change keeps⟩

def activeBindings : List NodeResourceClaimBinding :=
  (projection.claims.rows.filter (·.active)).map (·.binding)

/-- An active claim and a binding that is to be activated do not compete. -/
def validateActivation (binding : NodeResourceClaimBinding) (candidate : ProjectedResourceClaim) :
    Except CommandJournalError Unit := do
  refuseIf (candidate.binding.claimId = binding.claimId)
    (.invalid "resource claim was prepared more than once")
  checkAll (fun requested : ResourceSlotBinding =>
      if requested.kind.isSharedCapacity then .ok ()
      else refuseIf (candidate.binding.slots.any (fun slot => slot.key = requested.key))
        (.invalid ("exclusive resource slot " ++ requested.stableResourceId ++
          " has two active Agent claims")))
    binding.slots

def activatePrepared (request : NodeResourceClaimPrepare) :
    Except CommandJournalError ResourceClaimJournalProjection := do
  let binding := request.binding
  refuseIf (projection.claims.rows.any (fun candidate =>
      candidate.binding.claimId ≠ binding.claimId &&
        candidate.holds binding.runtimeUnitId binding.runtimeGeneration))
    (.invalid "two active resource claims bind one Runtime generation")
  checkAll (validateActivation binding) (projection.claims.rows.filter (·.active))
  projection.update binding.claimId (.invalid "prepared resource claim disappeared")
    activate claimId_activate

def markRuntimeFenced (unitId : String) (generation : ℕ) : ResourceClaimJournalProjection :=
  ⟨projection.claims.mapRows (·.fence unitId generation)
    (claimId_fence unitId generation)⟩

def validateRuntimeApply (spec : RuntimeUnitSpec)
    (binding : Option NodeResourceClaimBinding) : Except CommandJournalError Unit := do
  (X.specValidate spec).mapError .invalid
  match binding, projection.claims.rows.find? (·.holds spec.unitId spec.generation) with
  | some binding, some projected =>
    if projected.binding = binding then
      (binding.validateRuntimeSpec X spec).mapError .invalid
    else .error (.conflict "Runtime apply changed its prepared resource claim binding")
  | some _, none => .error (.conflict "Runtime apply has no active prepared resource claim")
  | none, some _ =>
    .error (.conflict "unbound Runtime apply targets an active prepared resource claim")
  | none, none => .ok ()

def validateRelease (request : NodeResourceClaimRelease) : Except CommandJournalError Unit := do
  (NodeResourceClaimRelease.validate request).mapError .invalid
  let projected ← orElse
    (.conflict "resource claim release has no durable Agent preparation")
    (projection.claims.get? request.binding.claimId)
  refuseIf (projected.binding ≠ request.binding ∨ ¬ projected.prepareTerminal ∨
      request.claimGeneration ≤ projected.prepareGeneration ∨
      request.claimGeneration ≠ projected.latestGeneration ∨
      request.claimDigest = projected.prepareDigest)
    (.conflict "resource claim release does not advance its exact prepared binding")
  refuseIf projected.released (.conflict "resource claim binding is already released")
  refuseIf (projected.active ∧ projected.bound ∧ ¬ projected.runtimeFenced)
    (.conflict "bound resource claim cannot release before Runtime stop or removal evidence")

/-- The first half of `apply`: a prepare or release is registered before it has an outcome. -/
def register (entry : JournalEntry) : Except CommandJournalError ResourceClaimJournalProjection :=
  match entry.envelope.payload with
  | .resourceClaimPrepare request => do
    let claimId := request.binding.claimId
    let projected := (projection.claims.get? claimId).getD (.new request)
    projected.registerPrepare request
    pure ⟨(projection.claims.insertIfAbsent (.new request)).modify claimId
      (·.terminal entry.completion.isSome)
      (claimId_terminal entry.completion.isSome)⟩
  | .resourceClaimRelease request => do
    let projected ← orElse
      (.invalid "resource claim release has no durable prepare command")
      (projection.claims.get? request.binding.claimId)
    projected.registerRelease request
    pure ⟨projection.claims.modify request.binding.claimId (·.advance request.claimGeneration)
      (claimId_advance request.claimGeneration)⟩
  | _ => pure projection

/-- The second half of `apply`: what the success of a command does to the claims. -/
def settle (payload : NodeCommandPayload) (result : NodeCommandResult) :
    Except CommandJournalError ResourceClaimJournalProjection :=
  match payload, result with
  | .resourceClaimPrepare request, .resourceClaimPrepared prepared => do
    (NodeResourceClaimPrepared.validateFor X prepared request).mapError .invalid
    projection.activatePrepared request
  | .runtimeApply request (some binding), .runtimeApplied observation => do
    projection.validateRuntimeApply X request.spec (some binding)
    (binding.validateRuntimeObservation X observation).mapError .invalid
    projection.update binding.claimId
      (.invalid "Runtime apply references an unknown resource claim")
      bind claimId_bind
  | .runtimeApply request none, .runtimeApplied _ => do
    projection.validateRuntimeApply X request.spec none
    pure projection
  | .runtimeStop request, .runtimeStopped inspection =>
    if stoppedOrAbsent X inspection then
      pure (projection.markRuntimeFenced request.unitId request.generation)
    else pure projection
  | .runtimeRemove request, .runtimeRemoved _ =>
    pure (projection.markRuntimeFenced request.unitId request.generation)
  | .resourceClaimRelease request, .resourceClaimReleased released => do
    projection.validateRelease request
    (NodeResourceClaimReleased.validateFor X released request).mapError .invalid
    projection.update request.binding.claimId
      (.invalid "released resource claim disappeared from the journal")
      release claimId_release
  | _, _ => pure projection

def apply (entry : JournalEntry) : Except CommandJournalError ResourceClaimJournalProjection := do
  let projection ← projection.register entry
  match entry.success? with
  | none => pure projection
  | some result => projection.settle X entry.envelope.payload result

end ResourceClaimJournalProjection

/-- The replay of entries that stand in sequence order. -/
def projectEntries (entries : List JournalEntry) :
    Except CommandJournalError ResourceClaimJournalProjection :=
  entries.foldlM (ResourceClaimJournalProjection.apply X) ResourceClaimJournalProjection.empty

end A3SCloud
