import A3SCloud.Contracts.Command

/-!
# Command leases

The model of `crates/contracts/src/node/command_lease.rs`: the request with which a node asks for
commands after a sequence, and the batch it is answered with.
-/

namespace A3SCloud

open Checks

variable (X : External)

structure NodeCommandLeaseRequest where
  schema : SchemaText
  nodeId : Uuid
  agentInstanceId : Uuid
  afterSequence : ℕ
  maxCommands : ℕ
  waitMs : ℕ
  deriving DecidableEq

def NodeCommandLeaseRequest.validate (request : NodeCommandLeaseRequest) : Except String Unit := do
  validateSchema "unsupported command lease request schema" request.schema
  validateUuid "node_id" request.nodeId
  validateUuid "agent_instance_id" request.agentInstanceId
  refuseIf (request.maxCommands = 0 ∨ 64 < request.maxCommands ∨ 60000 < request.waitMs)
    "command lease bounds are invalid"

structure NodeCommandLeaseResponse where
  schema : SchemaText
  leaseId : Uuid
  nodeId : Uuid
  agentInstanceId : Uuid
  leasedUntil : ℤ
  commands : List NodeCommandEnvelope
  deriving DecidableEq

namespace NodeCommandLeaseResponse

/-- The loop over the commands of a batch. -/
def validateCommands (leaseId nodeId : Uuid) :
    Option ℕ → List NodeCommandEnvelope → Except String Unit
  | _, [] => .ok ()
  | previous, command :: commands => do
    command.validate X
    refuseIf (command.leaseId ≠ leaseId ∨ command.nodeId ≠ nodeId)
      "leased command identity does not match its lease"
    refuseIf (previous.any (fun sequence => command.sequence ≤ sequence))
      "leased commands are not ordered by sequence"
    validateCommands leaseId nodeId (some command.sequence) commands

def validate (response : NodeCommandLeaseResponse) (now : ℤ) : Except String Unit := do
  validateSchema "unsupported command lease response schema" response.schema
  validateUuid "lease_id" response.leaseId
  validateUuid "node_id" response.nodeId
  validateUuid "agent_instance_id" response.agentInstanceId
  refuseIf (response.leasedUntil ≤ now ∨ 64 < response.commands.length)
    "command lease expiry or batch size is invalid"
  validateCommands X response.leaseId response.nodeId none response.commands

variable {X}

/-- The commands of a valid batch are valid and their sequences increase. -/
theorem validateCommands_ok {leaseId nodeId : Uuid} {previous : Option ℕ}
    {commands : List NodeCommandEnvelope} {u : Unit}
    (h : validateCommands X leaseId nodeId previous commands = .ok u) :
    (∀ command ∈ commands, command.Valid X ∧ command.leaseId = leaseId ∧ command.nodeId = nodeId) ∧
      (∀ sequence ∈ previous, ∀ command ∈ commands, sequence < command.sequence) ∧
      commands.Pairwise (fun a b => a.sequence < b.sequence) := by
  induction commands generalizing previous with
  | nil => simp
  | cons command commands ih =>
    simp only [validateCommands, ok_rules, NodeCommandEnvelope.validate_ok_iff, not_or, ne_eq,
      not_not] at h
    obtain ⟨hvalid, hidentity, hprevious, hrest⟩ := h
    obtain ⟨hall, hnext, hsorted⟩ := ih hrest
    have hfirst : ∀ sequence ∈ previous, sequence < command.sequence := by
      rintro sequence rfl
      simpa using hprevious
    refine ⟨List.forall_mem_cons.2 ⟨⟨hvalid, hidentity⟩, hall⟩, ?_,
      List.pairwise_cons.2 ⟨hnext _ rfl, hsorted⟩⟩
    intro sequence hsequence
    refine List.forall_mem_cons.2 ⟨hfirst sequence hsequence, fun next hmem => ?_⟩
    exact lt_trans (hfirst sequence hsequence) (hnext _ rfl next hmem)

theorem validate_ok {response : NodeCommandLeaseResponse} {now : ℤ} {u : Unit}
    (h : response.validate X now = .ok u) :
    (∀ command ∈ response.commands, command.Valid X ∧ command.leaseId = response.leaseId ∧
      command.nodeId = response.nodeId) ∧
      response.commands.Pairwise (fun a b => a.sequence < b.sequence) := by
  simp only [validate, ok_rules] at h
  obtain ⟨hall, -, hsorted⟩ := validateCommands_ok h.2.2.2.2.2
  exact ⟨hall, hsorted⟩

end NodeCommandLeaseResponse

end A3SCloud
