import A3SCloud.NodeAgent.Projection

/-!
# Preparing a resource claim on a node

The model of `crates/node-agent/src/resource_claim.rs`. A node prepares a claim when the binding
fits its current inventory and leaves the active claims their slots: an exclusive slot is held by at
most one claim, and the amounts of a shared slot do not exceed its capacity.
-/

namespace A3SCloud

open Checks

variable (X : External)

inductive ResourceInventoryError
  | invalid (message : String)
  | detection (message : String)
  | storage (message : String)
  | controlPlane (message : String) (retryable : Bool)
  deriving DecidableEq

namespace ResourceInventoryError

def retryable : ResourceInventoryError → Bool
  | .controlPlane _ retryable => retryable
  | .invalid _ | .detection _ | .storage _ => false

def toString : ResourceInventoryError → String
  | .invalid message => "invalid resource inventory: " ++ message
  | .detection message => "resource inventory detection failed: " ++ message
  | .storage message => "resource inventory storage failed: " ++ message
  | .controlPlane message _ => message

end ResourceInventoryError

def CommandJournalError.toString : CommandJournalError → String
  | .invalid message => "invalid command journal: " ++ message
  | .conflict message => "command journal conflict: " ++ message
  | .storage message => "command journal storage failed: " ++ message

inductive ResourceClaimExecutionError
  | invalid (message : String)
  | conflict (message : String)
  | inventory (error : ResourceInventoryError)
  | journal (error : CommandJournalError)
  | authorityUnavailable
  deriving DecidableEq

namespace ResourceClaimExecutionError

def code : ResourceClaimExecutionError → String
  | .invalid _ => "invalid_resource_claim"
  | .conflict _ => "resource_claim_conflict"
  | .inventory _ => "resource_inventory_unavailable"
  | .journal _ => "resource_claim_journal"
  | .authorityUnavailable => "resource_claim_authority_unavailable"

def retryable : ResourceClaimExecutionError → Bool
  | .inventory error => error.retryable
  | .journal (.storage _) => true
  | .invalid _ | .conflict _ | .journal (.invalid _) | .journal (.conflict _)
  | .authorityUnavailable => false

def toString : ResourceClaimExecutionError → String
  | .invalid message => "invalid resource claim command: " ++ message
  | .conflict message => "resource claim command conflict: " ++ message
  | .inventory error => "resource inventory unavailable: " ++ error.toString
  | .journal error => error.toString
  | .authorityUnavailable => "resource claim authority is not configured"

end ResourceClaimExecutionError

def activeSlots (active : List NodeResourceClaimBinding) (key : SlotKey) :
    List ResourceSlotBinding :=
  (active.flatMap (·.slots)).filter (fun slot => slot.key = key)

/-- One round of the sum over the active claims. -/
def addActiveAmount (total : ℕ) (slot : ResourceSlotBinding) :
    Except ResourceClaimExecutionError ℕ := do
  let amount ← orElse (.invalid "durable shared resource claim allocation is not scalar")
    slot.allocation.scalarAmount
  orElse (.invalid "durable shared resource allocation total overflowed") (checkedAdd total amount)

def validateShared (inventory : NodeResourceInventory) (active : List NodeResourceClaimBinding)
    (requested : ResourceSlotBinding) : Except ResourceClaimExecutionError Unit := do
  let capacity ← orElse
    (.conflict ("shared resource slot " ++ requested.stableResourceId ++
      " has no current scalar Agent capacity"))
    ((inventory.slot? requested.key).bind (·.allocation.scalarAmount))
  let requestedAmount ← orElse
    (.invalid ("shared resource slot " ++ requested.stableResourceId ++ " request is not scalar"))
    requested.allocation.scalarAmount
  let activeAmount ← (activeSlots active requested.key).foldlM addActiveAmount 0
  refuseIf ((checkedAdd activeAmount requestedAmount).all (fun required => capacity < required))
    (.conflict ("shared resource slot " ++ requested.stableResourceId ++
      " has insufficient current Agent capacity"))

def validateRequested (inventory : NodeResourceInventory) (active : List NodeResourceClaimBinding)
    (requested : ResourceSlotBinding) : Except ResourceClaimExecutionError Unit :=
  if requested.kind.isSharedCapacity then validateShared inventory active requested
  else
    refuseIf (active.any (fun binding => binding.slots.any (fun slot => slot.key = requested.key)))
      (.conflict ("exclusive resource slot " ++ requested.stableResourceId ++
        " is already prepared on the Agent"))

def validatePrepare (request : NodeResourceClaimPrepare) (inventory : NodeResourceInventory)
    (active : List NodeResourceClaimBinding) : Except ResourceClaimExecutionError Unit := do
  (NodeResourceClaimPrepare.validate request).mapError .invalid
  (request.binding.validateInventory X inventory).mapError .conflict
  refuseIf (active.any (fun candidate =>
      candidate.claimId = request.binding.claimId ∨
        (candidate.runtimeUnitId = request.binding.runtimeUnitId ∧
          candidate.runtimeGeneration = request.binding.runtimeGeneration)))
    (.conflict "resource claim or Runtime generation is already prepared")
  checkAll (validateRequested inventory active) request.binding.slots

end A3SCloud
