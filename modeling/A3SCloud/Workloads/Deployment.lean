import A3SCloud.Contracts.External

/-!
# Deployments

The model of `modules/workloads/domain/entities/deployment.rs`: the record of one deployment and its
transitions. The `…_ok` lemmas say what a successful transition changes.
-/

namespace A3SCloud

open Checks

inductive DeploymentStatus
  | queued
  | resolving
  | scheduled
  | applying
  | verifying
  | retiring
  | cancelling
  | cleanupPending
  | active
  | failed
  | orphaned
  | cancelled
  deriving DecidableEq

namespace DeploymentStatus

def asStr : DeploymentStatus → String
  | queued => "queued"
  | resolving => "resolving"
  | scheduled => "scheduled"
  | applying => "applying"
  | verifying => "verifying"
  | retiring => "retiring"
  | cancelling => "cancelling"
  | cleanupPending => "cleanup_pending"
  | active => "active"
  | failed => "failed"
  | orphaned => "orphaned"
  | cancelled => "cancelled"

def isTerminal : DeploymentStatus → Bool
  | active | failed | orphaned | cancelled => true
  | _ => false

end DeploymentStatus

structure Deployment where
  id : Uuid
  organizationId : Uuid
  workloadId : Uuid
  revisionId : Uuid
  operationId : Uuid
  nodeId : Option Uuid
  commandId : Option Uuid
  cleanupCommandId : Option Uuid
  retirementCommandId : Option Uuid
  status : DeploymentStatus
  failure : Option String
  aggregateVersion : ℕ
  requestedAt : ℤ
  updatedAt : ℤ
  activatedAt : Option ℤ
  cancellationRequestedAt : Option ℤ
  cancelledAt : Option ℤ
  deriving DecidableEq

namespace Deployment

def create (id organizationId workloadId revisionId operationId : Uuid) (requestedAt : ℤ) :
    Deployment where
  id := id
  organizationId := organizationId
  workloadId := workloadId
  revisionId := revisionId
  operationId := operationId
  nodeId := none
  commandId := none
  cleanupCommandId := none
  retirementCommandId := none
  status := .queued
  failure := none
  aggregateVersion := 1
  requestedAt := canonicalTimestamp requestedAt
  updatedAt := canonicalTimestamp requestedAt
  activatedAt := none
  cancellationRequestedAt := none
  cancelledAt := none

variable (deployment : Deployment) (time : ℤ)

def canonicalTime : Except String ℤ := do
  refuseIf (canonicalTimestamp time < deployment.updatedAt) "deployment update time regressed"
  pure (canonicalTimestamp time)

/-- `aggregate_version += 1` and the time of the change. -/
def touch : Deployment :=
  { deployment with
    aggregateVersion := deployment.aggregateVersion + 1
    updatedAt := time }

def transition (expected next : DeploymentStatus) (time : ℤ) : Except String Deployment := do
  let time ← deployment.canonicalTime time
  if deployment.status = next then pure deployment
  else do
    refuseIf (deployment.status ≠ expected)
      ("deployment cannot transition from " ++ deployment.status.asStr ++ " to " ++ next.asStr)
    pure ({ deployment with status := next : Deployment }.touch time)

def resolve : Except String Deployment :=
  deployment.transition .queued .resolving time

def schedule (nodeId : Uuid) (time : ℤ) : Except String Deployment :=
  if deployment.status = .scheduled then
    if deployment.nodeId = some nodeId then do
      let _ ← deployment.canonicalTime time
      pure deployment
    else .error "scheduled deployment cannot change node"
  else do
    let deployment ← deployment.transition .resolving .scheduled time
    pure { deployment with nodeId := some nodeId }

def dispatch (commandId : Uuid) (time : ℤ) : Except String Deployment :=
  if deployment.status = .applying then
    if deployment.commandId = some commandId then do
      let _ ← deployment.canonicalTime time
      pure deployment
    else .error "dispatched deployment cannot change command"
  else do
    refuseIf (deployment.nodeId = none) "deployment cannot dispatch before scheduling"
    let deployment ← deployment.transition .scheduled .applying time
    pure { deployment with commandId := some commandId }

def verify : Except String Deployment :=
  deployment.transition .applying .verifying time

def activatedStatus (retirementRequired : Bool) : DeploymentStatus :=
  if retirementRequired then .retiring else .active

def activate (retirementRequired : Bool) (time : ℤ) : Except String Deployment := do
  let time ← deployment.canonicalTime time
  if deployment.status = .retiring ∨ deployment.status = .active then do
    refuseIf (¬ (if deployment.status = .retiring then retirementRequired = true
        else retirementRequired = deployment.retirementCommandId.isSome))
      "deployment activation changed its retirement requirement"
    pure deployment
  else do
    let deployment ← deployment.transition .verifying (activatedStatus retirementRequired) time
    pure { deployment with activatedAt := some time }

def dispatchRetirement (commandId : Uuid) (time : ℤ) : Except String Deployment := do
  let time ← deployment.canonicalTime time
  refuseIf (deployment.status ≠ .retiring) "deployment retirement requires an activated update"
  if deployment.retirementCommandId = some commandId then
    pure { deployment with updatedAt := time }
  else
    pure ({ deployment with retirementCommandId := some commandId : Deployment }.touch time)

def completeRetirement : Except String Deployment :=
  if deployment.status = .active then do
    let _ ← deployment.canonicalTime time
    pure deployment
  else do
    refuseIf (deployment.retirementCommandId = none)
      "deployment cannot complete retirement before Runtime cleanup"
    deployment.transition .retiring .active time

/-- The status in which a failure leaves a deployment: one whose Runtime may be running without a
record of what became of it is orphaned. -/
def failedStatus : DeploymentStatus :=
  if deployment.activatedAt.isSome ∨ deployment.retirementCommandId.isSome ∨
      deployment.cleanupCommandId.isSome ∨ (deployment.commandId.isSome ∧
        (deployment.status = .cancelling ∨ deployment.status = .cleanupPending))
  then .orphaned else .failed

def fail (reason : String) (time : ℤ) : Except String Deployment := do
  refuseIf (deployment.status = .active ∨ deployment.status = .cancelled)
    "terminal deployment cannot fail"
  refuseIf (isBlank reason ∨ 16 * 1024 < reason.utf8ByteSize ∨
      containsAny reason ['\x00', '\r', '\n'])
    "deployment failure is invalid"
  let time ← deployment.canonicalTime time
  if deployment.status = .failed ∨ deployment.status = .orphaned then do
    refuseIf (deployment.failure ≠ some reason)
      "failed deployment cannot change its failure reason"
    pure deployment
  else
    pure ({ deployment with
      status := deployment.failedStatus
      failure := some reason : Deployment }.touch time)

def requestCancellation : Except String Deployment := do
  let time ← deployment.canonicalTime time
  if deployment.status = .cancelling ∨ deployment.status = .cleanupPending then pure deployment
  else do
    refuseIf deployment.status.isTerminal "terminal deployment cannot request cancellation"
    refuseIf (deployment.status = .verifying)
      "health-verified deployment cannot request cancellation"
    refuseIf deployment.activatedAt.isSome "activated deployment cannot request cancellation"
    pure ({ deployment with
      status := .cancelling
      cancellationRequestedAt := some time : Deployment }.touch time)

/-- The deployment whose cancellation was requested, by the caller if not before. -/
def ensureCancelling : Except String Deployment :=
  if deployment.status = .cancelling ∨ deployment.status = .cleanupPending then pure deployment
  else deployment.requestCancellation time

def cancel : Except String Deployment := do
  let time ← deployment.canonicalTime time
  if deployment.status = .cancelled then pure deployment
  else do
    let deployment ← deployment.ensureCancelling time
    pure ({ deployment with
      status := .cancelled
      cancelledAt := some time : Deployment }.touch time)

def beginCleanup (commandId : Uuid) (time : ℤ) : Except String Deployment := do
  let time ← deployment.canonicalTime time
  if deployment.status = .cleanupPending then do
    refuseIf (deployment.cleanupCommandId ≠ some commandId)
      "cleanup command cannot change without an explicit retry"
    pure deployment
  else do
    refuseIf (deployment.status ≠ .cancelling)
      "deployment cleanup requires a cancellation request"
    refuseIf (deployment.nodeId = none ∨ deployment.commandId = none)
      "deployment cleanup requires a dispatched Runtime child"
    pure ({ deployment with
      status := .cleanupPending
      cleanupCommandId := some commandId : Deployment }.touch time)

def retryCleanup (commandId : Uuid) (time : ℤ) : Except String Deployment := do
  let time ← deployment.canonicalTime time
  refuseIf (deployment.status ≠ .cleanupPending ∨ deployment.cleanupCommandId = none)
    "deployment has no pending cleanup to retry"
  if deployment.cleanupCommandId = some commandId then
    pure { deployment with updatedAt := time }
  else
    pure ({ deployment with cleanupCommandId := some commandId : Deployment }.touch time)

end Deployment

end A3SCloud
