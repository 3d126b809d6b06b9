import Mathlib.Data.List.Sort
import A3SCloud.Contracts.Lease
import A3SCloud.Fleet.NodeCommand
import A3SCloud.Lib.Table

/-!
# The command queue of the control plane

The model of the command part of `modules/fleet/infrastructure/persistence/in_memory_control.rs`: a
command is enqueued under a sequence of its node, leased to the node's agent and acknowledged once.

`acknowledgeCommand_ok_iff` says which first acknowledgement is accepted.
-/

namespace A3SCloud

open Checks List NodeCommand

variable (X : External)

inductive RepositoryError
  | notFound
  | conflict (message : String)
  | forbidden (message : String)
  | idempotencyConflict
  | storage (message : String)
  deriving DecidableEq

structure IdempotentWrite (α : Type) where
  value : α
  replayed : Bool
  deriving DecidableEq

inductive NodeState
  | pending
  | ready
  | draining
  | revoked
  deriving DecidableEq

/-- `matches!(outcome, NodeCommandOutcome::Succeeded { .. })`. -/
def NodeCommandOutcome.isSucceeded : NodeCommandOutcome → Bool
  | .succeeded _ => true
  | .rejected _ | .failed _ => false

/-- The part of a node that its command queue reads. -/
structure Node where
  id : Uuid
  state : NodeState
  agentInstanceId : Uuid
  lastSequence : ℕ
  deriving DecidableEq

structure CommandLease where
  leaseId : Uuid
  agentInstanceId : Uuid
  leasedUntil : ℤ
  deriving DecidableEq

structure StoredNodeCommand where
  command : NodeCommand
  lease : Option CommandLease
  acknowledgement : Option NodeCommandAck
  deriving DecidableEq

open StoredNodeCommand

namespace StoredNodeCommand

def id (stored : StoredNodeCommand) : Uuid := stored.command.id

def withLease (lease : CommandLease) (stored : StoredNodeCommand) : StoredNodeCommand :=
  { stored with lease := some lease }

def withAcknowledgement (acknowledgement : NodeCommandAck) (stored : StoredNodeCommand) :
    StoredNodeCommand :=
  { stored with acknowledgement := some acknowledgement }

theorem id_withLease (lease : CommandLease) (stored : StoredNodeCommand) :
    (stored.withLease lease).id = stored.id := rfl

theorem id_withAcknowledgement (acknowledgement : NodeCommandAck) (stored : StoredNodeCommand) :
    (stored.withAcknowledgement acknowledgement).id = stored.id := rfl

end StoredNodeCommand

def Node.withSequence (sequence : ℕ) (node : Node) : Node := { node with lastSequence := sequence }

theorem Node.id_withSequence (sequence : ℕ) (node : Node) :
    (node.withSequence sequence).id = node.id := rfl

structure NodeControl where
  nodes : Table Node.id
  commands : Table StoredNodeCommand.id

namespace NodeControl

/-! ### Enqueueing -/

variable (control : NodeControl) (draft : NodeCommandDraft)

/-- The earlier Runtime applies for the aggregate of a draft, by generation. -/
def priorApplies : List StoredNodeCommand :=
  (control.commands.rows.filter (fun stored =>
    stored.command.nodeId = draft.nodeId ∧ stored.command.aggregateId = draft.aggregateId ∧
      stored.command.kind = "runtime_apply")).insertionSort
    (fun a b => a.command.generation ≤ b.command.generation)

/-- The specification of a new apply is that of an earlier one of its generation. -/
def validateGeneration (requestedDigest : DigestText) :
    Option StoredNodeCommand → Except RepositoryError Unit
  | none => .ok ()
  | some existing => match existing.command.payload with
  | .runtimeApply existingRequest _ => do
    let existingDigest ← (X.specDigest existingRequest.spec).mapError .storage
    refuseIf (existingDigest ≠ requestedDigest)
      (.conflict "Runtime apply generation was reused with a different specification")
  | _ => .error (.storage "stored Runtime apply command has the wrong payload kind")

def validateApply (request : RuntimeApplyRequest) : Except RepositoryError Unit := do
  let requestedGeneration := draft.payload.generation
  refuseIf (control.commands.rows.any (fun stored =>
      stored.command.nodeId = draft.nodeId ∧ stored.command.aggregateId = draft.aggregateId ∧
        stored.command.kind = "runtime_remove" ∧ stored.command.generation = requestedGeneration))
    (.conflict "Runtime apply generation is fenced by a removal command")
  let requestedDigest ← (X.specDigest request.spec).mapError .conflict
  validateGeneration X requestedDigest ((control.priorApplies draft).find?
    (fun stored => stored.command.generation = requestedGeneration))
  refuseIf ((control.priorApplies draft).getLast?.any
      (fun stored => requestedGeneration < stored.command.generation))
    (.conflict "Runtime apply generation regressed")

/-- The checks on a draft that depend on its payload. -/
def validatePayload : Except RepositoryError Unit :=
  match draft.payload with
  | .runtimeApply request _ => control.validateApply X draft request
  | _ => .ok ()

/-- The branch for an identifier that is already in use. -/
def replayCommand (existing : StoredNodeCommand) :
    Except RepositoryError (IdempotentWrite NodeCommand × NodeControl) := do
  let retry ← (issue X draft existing.command.sequence).mapError .conflict
  refuseIf (retry ≠ existing.command) (.conflict "node command ID was reused with different input")
  pure (⟨existing.command, true⟩, control)

def enqueueCommand : Except RepositoryError (IdempotentWrite NodeCommand × NodeControl) := do
  match control.commands.get? draft.proposedCommandId with
  | some existing => replayCommand X control draft existing
  | none => do
    let node ← orElse .notFound (control.nodes.get? draft.nodeId)
    refuseIf (node.state = .revoked) .notFound
    control.validatePayload X draft
    let sequence ← orElse (.conflict "node command sequence exhausted")
      (checkedAdd node.lastSequence 1)
    let command ← (issue X draft sequence).mapError .conflict
    pure (⟨command, false⟩, {
      nodes := control.nodes.modify draft.nodeId (Node.withSequence sequence)
        (Node.id_withSequence sequence)
      commands := control.commands.insert
        { command := command, lease := none, acknowledgement := none } })

/-! ### Leasing -/

/-- The commands of a node after a sequence that are not acknowledged, by sequence. -/
def openCommands (nodeId : Uuid) (afterSequence : ℕ) : List StoredNodeCommand :=
  (control.commands.rows.filter (fun stored =>
    stored.command.nodeId = nodeId ∧ afterSequence < stored.command.sequence ∧
      stored.acknowledgement = none)).insertionSort
    (fun a b => a.command.sequence ≤ b.command.sequence)

/-- The commands a lease takes: those before the first one under a lease, up to the limit, which is
positive. -/
def selectCommands (now : ℤ) (maxCommands : ℕ) (ordered : List StoredNodeCommand) :
    List StoredNodeCommand :=
  (ordered.takeWhile (fun stored => !stored.lease.any (fun lease => now < lease.leasedUntil))).take
    maxCommands

/-- The loop that assigns a lease; a command without a valid envelope ends it. -/
def assignLeases (lease : CommandLease) :
    List StoredNodeCommand → Table StoredNodeCommand.id → List NodeCommandEnvelope →
      Except RepositoryError (List NodeCommandEnvelope) × Table StoredNodeCommand.id
  | [], commands, envelopes => (.ok envelopes, commands)
  | stored :: selected, commands, envelopes =>
    let commands := commands.modify stored.id (withLease lease)
      (id_withLease lease)
    match stored.command.envelope X lease.leaseId with
    | .ok envelope => assignLeases lease selected commands (envelopes ++ [envelope])
    | .error message => (.error (.storage message), commands)

/-- The checks before a lease is assigned. -/
def validateLease (request : NodeCommandLeaseRequest) (leaseId : Uuid)
    (now leasedUntil : ℤ) : Except RepositoryError Unit := do
  request.validate.mapError .conflict
  refuseIf (leaseId = 0 ∨ leasedUntil ≤ now)
    (.conflict "command lease identity or expiry is invalid")
  let node ← orElse .notFound (control.nodes.get? request.nodeId)
  refuseIf (node.state = .revoked ∨ node.agentInstanceId ≠ request.agentInstanceId) .notFound

/-- The answer to a lease request, with the queue after it; an error may leave leases assigned. -/
def leaseCommands (request : NodeCommandLeaseRequest) (leaseId : Uuid) (now leasedUntil : ℤ) :
    Except RepositoryError NodeCommandLeaseResponse × NodeControl :=
  let now := canonicalTimestamp now
  let leasedUntil := canonicalTimestamp leasedUntil
  match control.validateLease request leaseId now leasedUntil with
  | .error error => (.error error, control)
  | .ok () =>
    let lease : CommandLease := {
      leaseId := leaseId
      agentInstanceId := request.agentInstanceId
      leasedUntil := leasedUntil }
    let selected := selectCommands now request.maxCommands
      (control.openCommands request.nodeId request.afterSequence)
    let (envelopes, commands) := assignLeases X lease selected control.commands []
    let control := { control with commands := commands }
    (do
      let envelopes ← envelopes
      let response : NodeCommandLeaseResponse := {
        schema := .current
        leaseId := leaseId
        nodeId := request.nodeId
        agentInstanceId := request.agentInstanceId
        leasedUntil := leasedUntil
        commands := envelopes }
      (response.validate X now).mapError .storage
      pure response, control)

/-! ### Acknowledging -/

/-- The checks on the first acknowledgement of a command. -/
def validateAcknowledgement (stored : StoredNodeCommand) (acknowledgement : NodeCommandAck) :
    Except RepositoryError Unit := do
  let lease ← orElse (.conflict "command has not been leased") stored.lease
  refuseIf (lease.agentInstanceId = 0) (.storage "stored command lease has no agent identity")
  let envelope ← (stored.command.envelope X lease.leaseId).mapError .storage
  (acknowledgement.validateAgainst X envelope).mapError .conflict
  refuseIf (lease.leasedUntil < acknowledgement.completedAt)
    (.conflict "command acknowledgement completed after its lease expired")
  refuseIf (acknowledgement.outcome.isSucceeded ∧
      stored.command.notAfter < acknowledgement.completedAt)
    (.conflict "successful command acknowledgement completed after command expiry")

def acknowledgeCommand (acknowledgement : NodeCommandAck) :
    Except RepositoryError (IdempotentWrite NodeCommandAck × NodeControl) := do
  let acknowledgement := canonicalizeAcknowledgement acknowledgement
  let stored ← orElse .notFound (control.commands.get? acknowledgement.commandId)
  match stored.acknowledgement with
  | some existing => do
    refuseIf (existing ≠ acknowledgement)
      (.conflict "command acknowledgement was replayed with different content")
    pure (⟨existing, true⟩, control)
  | none => do
    validateAcknowledgement X stored acknowledgement
    pure (⟨acknowledgement, false⟩, { control with
      commands := control.commands.modify acknowledgement.commandId
        (withAcknowledgement acknowledgement)
        (id_withAcknowledgement acknowledgement) })

def commandAcknowledgement (nodeId commandId : Uuid) : Option NodeCommandAck :=
  ((control.commands.get? commandId).filter (fun stored => stored.command.nodeId = nodeId)).bind
    (·.acknowledgement)

/-! ### What the operations do -/

/-- The two ways in which a draft is accepted. -/
inductive Enqueued (control : NodeControl) (draft : NodeCommandDraft) :
    IdempotentWrite NodeCommand → NodeControl → Prop
  | replayed (existing : StoredNodeCommand)
      (hget : control.commands.get? draft.proposedCommandId = some existing)
      (hissue : issue X draft existing.command.sequence = .ok existing.command) :
      Enqueued control draft ⟨existing.command, true⟩ control
  | fresh (node : Node) (command : NodeCommand)
      (hget : control.commands.get? draft.proposedCommandId = none)
      (hnode : control.nodes.get? draft.nodeId = some node) (hstate : node.state ≠ .revoked)
      (hpayload : control.validatePayload X draft = .ok ())
      (hbound : node.lastSequence + 1 < 2 ^ 64)
      (hissue : issue X draft (node.lastSequence + 1) = .ok command) :
      Enqueued control draft ⟨command, false⟩ {
        nodes := control.nodes.modify draft.nodeId (Node.withSequence (node.lastSequence + 1))
          (Node.id_withSequence (node.lastSequence + 1))
        commands := control.commands.insert
          { command := command, lease := none, acknowledgement := none } }

/-- The two ways in which an acknowledgement is accepted. -/
inductive Acknowledged (control : NodeControl) (acknowledgement : NodeCommandAck) :
    IdempotentWrite NodeCommandAck → NodeControl → Prop
  | replayed (stored : StoredNodeCommand)
      (hget : control.commands.get? acknowledgement.commandId = some stored)
      (hacknowledgement : stored.acknowledgement =
        some (canonicalizeAcknowledgement acknowledgement)) :
      Acknowledged control acknowledgement
        ⟨canonicalizeAcknowledgement acknowledgement, true⟩ control
  | recorded (stored : StoredNodeCommand)
      (hget : control.commands.get? acknowledgement.commandId = some stored)
      (hnone : stored.acknowledgement = none)
      (hvalid : validateAcknowledgement X stored
        (canonicalizeAcknowledgement acknowledgement) = .ok ()) :
      Acknowledged control acknowledgement
        ⟨canonicalizeAcknowledgement acknowledgement, false⟩
        { control with
          commands := control.commands.modify acknowledgement.commandId
            (withAcknowledgement
              (canonicalizeAcknowledgement acknowledgement))
            (id_withAcknowledgement
              (canonicalizeAcknowledgement acknowledgement)) }

variable {X}

variable {control control' : NodeControl} {draft : NodeCommandDraft} {stored : StoredNodeCommand}
  {acknowledgement : NodeCommandAck}

/-- The last of the earlier applies has the greatest generation. -/
theorem generation_le_getLast (h : stored ∈ control.priorApplies draft) :
    ∃ last, (control.priorApplies draft).getLast? = some last ∧
      stored.command.generation ≤ last.command.generation := by
  have hsorted : (control.priorApplies draft).Pairwise
      (fun a b => a.command.generation ≤ b.command.generation) := by
    have : Std.Total (fun a b : StoredNodeCommand =>
      a.command.generation ≤ b.command.generation) := ⟨fun a b => le_total _ _⟩
    have : IsTrans StoredNodeCommand (fun a b => a.command.generation ≤ b.command.generation) :=
      ⟨fun a b c => le_trans⟩
    exact pairwise_insertionSort _ _
  obtain ⟨init, last, hsplit⟩ :=
    (eq_nil_or_concat' (control.priorApplies draft)).resolve_left (ne_nil_of_mem h)
  rw [hsplit] at h hsorted ⊢
  refine ⟨last, getLast?_concat, ?_⟩
  rcases mem_append.1 h with hinit | hlast
  · exact (pairwise_append.1 hsorted).2.2 stored hinit last (mem_singleton_self last)
  · rw [mem_singleton.1 hlast]

/-- An accepted apply does not fall behind the earlier ones of its aggregate, and it has the
specification of an earlier one of its generation. -/
theorem validateApply_ok {request : RuntimeApplyRequest}
    (h : control.validateApply X draft request = .ok ()) :
    ∃ digest, X.specDigest request.spec = .ok digest ∧ ∀ stored ∈ control.commands.rows,
      stored.command.nodeId = draft.nodeId → stored.command.aggregateId = draft.aggregateId →
      stored.command.kind = "runtime_apply" →
        stored.command.generation ≤ draft.payload.generation ∧
        (stored.command.generation = draft.payload.generation →
          ∃ first ∈ control.commands.rows, first.command.nodeId = draft.nodeId ∧
            first.command.aggregateId = draft.aggregateId ∧
            first.command.generation = draft.payload.generation ∧
            ∃ firstRequest binding, first.command.payload = .runtimeApply firstRequest binding ∧
              X.specDigest firstRequest.spec = .ok digest) := by
  simp only [validateApply, ok_rules] at h
  obtain ⟨-, digest, hdigest, hgeneration, hregressed⟩ := h
  refine ⟨digest, hdigest, fun stored hstored hnode haggregate hkind => ?_⟩
  have hprior : stored ∈ control.priorApplies draft := by
    rw [priorApplies, mem_insertionSort, mem_filter]
    exact ⟨hstored, by simp [hnode, haggregate, hkind]⟩
  constructor
  · obtain ⟨last, hlast, hle⟩ := generation_le_getLast hprior
    simp only [hlast, Option.any_some, decide_eq_true_eq, not_lt] at hregressed
    exact hle.trans hregressed
  · intro hsame
    cases hfirst : (control.priorApplies draft).find?
        (fun stored => stored.command.generation = draft.payload.generation) with
    | none =>
      exact absurd (find?_eq_none.1 hfirst stored hprior) (by simp [hsame])
    | some first =>
      have hmem := mem_of_find?_eq_some hfirst
      rw [priorApplies, mem_insertionSort, mem_filter] at hmem
      obtain ⟨hrow, hmatches⟩ := hmem
      simp only [decide_eq_true_eq] at hmatches
      have hgenerationFirst := find?_some hfirst
      simp only [decide_eq_true_eq] at hgenerationFirst
      refine ⟨first, hrow, hmatches.1, hmatches.2.1, hgenerationFirst, ?_⟩
      rw [hfirst, validateGeneration] at hgeneration
      split at hgeneration
      next firstRequest binding hpayload =>
        simp only [ok_rules, ne_eq, not_not] at hgeneration
        obtain ⟨firstDigest, hfirstDigest, rfl⟩ := hgeneration
        exact ⟨firstRequest, binding, hpayload, hfirstDigest⟩
      next => cases hgeneration

theorem enqueueCommand_ok {write : IdempotentWrite NodeCommand}
    (h : control.enqueueCommand X draft = .ok (write, control')) :
    Enqueued X control draft write control' := by
  unfold enqueueCommand at h
  cases hget : control.commands.get? draft.proposedCommandId with
  | some existing =>
    simp only [hget, replayCommand, ok_rules, ne_eq, not_not, Prod.mk.injEq] at h
    obtain ⟨retry, hissue, rfl, rfl, rfl⟩ := h
    exact .replayed existing hget hissue
  | none =>
    simp only [hget, ok_rules, Prod.mk.injEq] at h
    obtain ⟨node, hnode, hstate, hpayload, sequence, hsequence, command, hissue, rfl, rfl⟩ := h
    obtain ⟨rfl, hbound⟩ := checkedAdd_eq_some.1 hsequence
    exact .fresh node command hget hnode hstate hpayload hbound hissue

theorem acknowledgeCommand_ok {write : IdempotentWrite NodeCommandAck}
    (h : control.acknowledgeCommand X acknowledgement = .ok (write, control')) :
    Acknowledged X control acknowledgement write control' := by
  simp only [acknowledgeCommand, ok_rules] at h
  obtain ⟨stored, hget, h⟩ := h
  change control.commands.get? acknowledgement.commandId = some stored at hget
  cases hack : stored.acknowledgement with
  | some =>
    simp only [hack, ok_rules, ne_eq, not_not, Prod.mk.injEq] at h
    obtain ⟨rfl, rfl, rfl⟩ := h
    exact .replayed stored hget hack
  | none =>
    simp only [hack, ok_rules, Prod.mk.injEq] at h
    obtain ⟨hvalid, rfl, rfl⟩ := h
    exact .recorded stored hget hack hvalid

/-- An acknowledgement passes when it is valid for the command under its lease and in time. -/
theorem validateAcknowledgement_ok_iff {u : Unit} :
    validateAcknowledgement X stored acknowledgement = .ok u ↔ ∃ lease, stored.lease = some lease ∧
      lease.agentInstanceId ≠ 0 ∧
      acknowledgement.validateAgainst X (stored.command.toEnvelope X lease.leaseId) = .ok () ∧
      acknowledgement.completedAt ≤ lease.leasedUntil ∧
      (acknowledgement.outcome.isSucceeded = true →
        acknowledgement.completedAt ≤ stored.command.notAfter) := by
  simp only [validateAcknowledgement, ok_rules, envelope_ok_iff, not_and, not_lt]
  constructor
  · rintro ⟨lease, hlease, hagent, envelope, ⟨-, rfl⟩, hagainst, huntil, hexpiry⟩
    exact ⟨lease, hlease, hagent, hagainst, huntil, hexpiry⟩
  · rintro ⟨lease, hlease, hagent, hagainst, huntil, hexpiry⟩
    have hvalid := (NodeCommandAck.validateAgainst_ok_iff.1 hagainst).1
    exact ⟨lease, hlease, hagent, _, ⟨hvalid, rfl⟩, hagainst, huntil, hexpiry⟩

/-- The first acknowledgement of a command is accepted exactly when it passes its checks. -/
theorem acknowledgeCommand_ok_iff
    (hget : control.commands.get? acknowledgement.commandId = some stored)
    (hnone : stored.acknowledgement = none) :
    (∃ accepted, control.acknowledgeCommand X acknowledgement = .ok accepted) ↔
      validateAcknowledgement X stored
        (canonicalizeAcknowledgement acknowledgement) = .ok () := by
  have hget' : control.commands.get?
      (canonicalizeAcknowledgement acknowledgement).commandId = some stored := hget
  simp only [acknowledgeCommand, hget', orElse, hnone, ok_rules, Except.ok.injEq, exists_eq_left']
  constructor
  · rintro ⟨accepted, hvalid, -⟩
    exact hvalid
  · intro hvalid
    exact ⟨_, hvalid, rfl⟩

end NodeControl

end A3SCloud
