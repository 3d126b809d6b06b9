import A3SCloud.NodeAgent.ClaimReplay
import Mathlib.Data.List.Sort
import Mathlib.Data.List.Range

/-!
# The command journal of a node

The model of `CommandJournal` and `FileCommandJournal` in `crates/node-agent/src/journal.rs` with
`journal/code_run_journal.rs` and `journal/provider_run_journal.rs`. The journal file holds one
`CommandJournal`; an operation reads it, checks it, changes it, checks the result and writes it
atomically, so an operation is a function from the journal to the new journal or to an error that
leaves the file as it was. A missing file reads as `CommandJournal.empty`.

`CommandJournal.validate` is the check; `beginSync`, `completeSync` and `markAcknowledgedSync` are the
operations that write.
-/

namespace A3SCloud

open Checks

variable (X : External)

inductive JournalDecision
  | execute
  | replay (acknowledgement : NodeCommandAck)
  deriving DecidableEq

structure AggregateGeneration where
  aggregateId : Uuid
  generation : ℕ
  stateDigest : DigestText
  deriving DecidableEq

structure CommandJournal where
  schema : SchemaText
  nodeId : Uuid
  lastReceivedSequence : ℕ
  lastAcknowledgedSequence : ℕ
  aggregateGenerations : Table AggregateGeneration.aggregateId
  entries : Table JournalEntry.commandId

/-- The sequence of the command of an entry. -/
def JournalEntry.sequence (entry : JournalEntry) : ℕ := entry.envelope.sequence

def bySequence (entries : List JournalEntry) : List JournalEntry :=
  entries.insertionSort (fun a b => a.sequence ≤ b.sequence)

/-- `while by_sequence.get(&(sequence + 1)) == Some(&true) { sequence += 1 }`, for as many rounds as
there are entries. -/
def contiguousFrom (acknowledged : ℕ → Bool) : ℕ → ℕ → ℕ
  | 0, sequence => sequence
  | rounds + 1, sequence =>
    if acknowledged (sequence + 1) then contiguousFrom acknowledged rounds (sequence + 1)
    else sequence

/-! ### Bindings of Agent runs -/

/-- `NodeAgentProviderRuntimeBindingV1::code_binding`. -/
def NodeAgentProviderRuntimeBinding.codeBinding (binding : NodeAgentProviderRuntimeBinding) :
    Except String NodeCodeAgentRuntimeBinding := do
  let profile ← X.providerProfile binding
  refuseIf (profile.kind ≠ "a3s.code" ∨ profile.nativeProtocol ≠ X.agentProtocolV1)
    "Agent provider Runtime binding is not the native Code adapter"
  pure {
    schema := .current
    executionId := binding.executionId
    workloadId := binding.workloadId
    workloadRevisionId := binding.workloadRevisionId
    deploymentId := binding.deploymentId
    replicaId := binding.replicaId
    runtimeUnitId := binding.runtimeUnitId
    runtimeGeneration := binding.runtimeGeneration
    runtimeSpecDigest := binding.runtimeSpecDigest
    servicePortName := binding.servicePortName
    codeRunIdentity := binding.providerRunIdentity }

/-- One step of `code_run_bindings_projection`. -/
def applyCodeRun (bindings : Table NodeCodeAgentRuntimeBinding.executionId) (entry : JournalEntry) :
    Except CommandJournalError (Table NodeCodeAgentRuntimeBinding.executionId) :=
  match entry.envelope.payload, entry.success? with
  | .adapter request@(.agentProviderCommand binding _),
      some (.adapter result@(.agentProviderCommandAccepted _)) => do
    (X.adapterResultValidateFor request result).mapError .invalid
    match binding.codeBinding X with
    | .ok codeBinding => pure (bindings.insert codeBinding)
    | .error _ => pure bindings
  | .adapter request@(.codeAgentCommand binding _),
      some (.adapter result@(.codeAgentCommandAccepted _)) => do
    (X.adapterResultValidateFor request result).mapError .invalid
    pure (bindings.insert binding)
  | .runtimeRemove request, some (.runtimeRemoved removal) =>
    if removal.unitId = request.unitId ∧ removal.generation = request.generation then
      pure (bindings.filter (fun binding =>
        binding.runtimeUnitId ≠ request.unitId ∨ binding.runtimeGeneration ≠ request.generation))
    else pure bindings
  | _, _ => pure bindings

/-- One step of `provider_run_bindings_projection`. -/
def applyProviderRun (bindings : Table NodeAgentProviderRuntimeBinding.executionId)
    (entry : JournalEntry) :
    Except CommandJournalError (Table NodeAgentProviderRuntimeBinding.executionId) :=
  match entry.envelope.payload, entry.success? with
  | .adapter request@(.agentProviderCommand binding _),
      some (.adapter result@(.agentProviderCommandAccepted _)) => do
    (X.adapterResultValidateFor request result).mapError .invalid
    let profile ← (X.providerProfile binding).mapError .invalid
    if profile.kind ≠ "a3s.code" then do
      refuseIf ((bindings.get? binding.executionId).any (fun existing => existing ≠ binding))
        (.conflict "one Agent execution changed its provider Runtime binding")
      pure (bindings.insert binding)
    else pure bindings
  | .runtimeRemove request, some (.runtimeRemoved removal) =>
    if removal.unitId = request.unitId ∧ removal.generation = request.generation then
      pure (bindings.filter (fun binding =>
        binding.runtimeUnitId ≠ request.unitId ∨ binding.runtimeGeneration ≠ request.generation))
    else pure bindings
  | _, _ => pure bindings

/-! ### The check of a journal -/

def isSha256 : DigestText → Bool
  | .sha256 _ => true
  | .other _ => false

/-- The loop over the entries; it returns the sequences it has met. -/
def validateEntries (nodeId : Uuid) :
    List ℕ → List JournalEntry → Except CommandJournalError (List ℕ)
  | sequences, [] => .ok sequences
  | sequences, entry :: entries => do
    (entry.envelope.validate X).mapError .invalid
    refuseIf (entry.envelope.nodeId ≠ nodeId ∨ entry.sequence ∈ sequences ∨
        (entry.acknowledged ∧ entry.completion = none))
      (.invalid "command journal entry identity is invalid")
    let _ ← entry.acknowledgement X
    validateEntries nodeId (entry.sequence :: sequences) entries

/-- The sequences of the entries are exactly those received. -/
def validateSequences (lastReceived : ℕ) (sequences : List ℕ) : Except CommandJournalError Unit :=
  if lastReceived = 0 then
    refuseIf (sequences ≠ []) (.invalid "empty command sequence contains journal entries")
  else
    refuseIf (sequences.length ≠ lastReceived ∨ sequences.min? ≠ some 1 ∨
        sequences.max? ≠ some lastReceived)
      (.invalid "command journal sequence contains a gap")

namespace CommandJournal

def empty (nodeId : Uuid) : CommandJournal where
  schema := .current
  nodeId := nodeId
  lastReceivedSequence := 0
  lastAcknowledgedSequence := 0
  aggregateGenerations := Table.empty
  entries := Table.empty

variable (journal : CommandJournal)

def contiguousAcknowledgedSequence : ℕ :=
  contiguousFrom
    (fun sequence => journal.entries.rows.any (fun entry =>
      entry.sequence = sequence && entry.acknowledged))
    journal.entries.rows.length 0

def resourceClaimProjection : Except CommandJournalError ResourceClaimJournalProjection :=
  projectEntries X (bySequence journal.entries.rows)

def codeRunBindingsProjection :
    Except CommandJournalError (Table NodeCodeAgentRuntimeBinding.executionId) :=
  (bySequence journal.entries.rows).foldlM (applyCodeRun X) Table.empty

def providerRunBindingsProjection :
    Except CommandJournalError (Table NodeAgentProviderRuntimeBinding.executionId) :=
  (bySequence journal.entries.rows).foldlM (applyProviderRun X) Table.empty

def validate : Except CommandJournalError Unit := do
  refuseIf (journal.schema ≠ .current ∨ journal.nodeId = 0)
    (.invalid "command journal schema or node identity is invalid")
  refuseIf (journal.lastReceivedSequence < journal.lastAcknowledgedSequence)
    (.invalid "acknowledged command sequence exceeds received sequence")
  let sequences ← validateEntries X journal.nodeId [] journal.entries.rows
  validateSequences journal.lastReceivedSequence sequences
  refuseIf (journal.contiguousAcknowledgedSequence ≠ journal.lastAcknowledgedSequence)
    (.invalid "command journal acknowledgement projection is inconsistent")
  checkAll (fun current : AggregateGeneration =>
      refuseIf (current.generation = 0 ∨ ¬ isSha256 current.stateDigest)
        (.invalid "command journal aggregate generation is invalid"))
    journal.aggregateGenerations.rows
  let _ ← journal.resourceClaimProjection X
  let _ ← journal.codeRunBindingsProjection X
  let _ ← journal.providerRunBindingsProjection X
  pure ()

end CommandJournal

/-! ### Operations -/

/-- The digest that two state-changing commands of one generation must share. -/
def stateMutationDigest : NodeCommandPayload → Except CommandJournalError (Option DigestText)
  | .resourceClaimPrepare request => do
    (NodeResourceClaimPrepare.validate request).mapError .invalid
    pure (some request.claimDigest)
  | .runtimeApply request (some binding) => do
    let digest ← ((NodeCommandPayload.runtimeApply request (some binding)).digest X).mapError .invalid
    pure (some digest)
  | .runtimeApply request none => do
    let digest ← (X.specDigest request.spec).mapError .invalid
    pure (some digest)
  | .gatewaySnapshotInstall snapshot => do
    (snapshot.validate X).mapError .invalid
    pure (some snapshot.snapshotDigest)
  | .gatewaySnapshotObserve request => do
    request.validate.mapError .invalid
    pure none
  | .adapter (.boxBuildStart request) => do
    let digest ← (X.boxBuildBindingDigest request).mapError .invalid
    pure (some digest)
  | .adapter _ => pure none
  | .runtimeInspect _ _ | .runtimeStop _ | .runtimeRemove _ => pure none
  | .resourceClaimRelease request => do
    (NodeResourceClaimRelease.validate request).mapError .invalid
    pure (some request.claimDigest)

namespace JournalEntry

def received (envelope : NodeCommandEnvelope) : JournalEntry where
  envelope := envelope
  completion := none
  acknowledged := false

/-- The entry under the lease of a redelivery. -/
def rebind (leaseId : Uuid) (entry : JournalEntry) : JournalEntry :=
  { entry with envelope := entry.envelope.withLease leaseId }

def complete (completion : JournalCompletion) (entry : JournalEntry) : JournalEntry :=
  { entry with completion := some completion }

def acknowledge (entry : JournalEntry) : JournalEntry := { entry with acknowledged := true }

theorem commandId_rebind (leaseId : Uuid) (entry : JournalEntry) :
    (entry.rebind leaseId).commandId = entry.commandId := rfl

theorem commandId_complete (completion : JournalCompletion) (entry : JournalEntry) :
    (entry.complete completion).commandId = entry.commandId := rfl

theorem commandId_acknowledge (entry : JournalEntry) :
    entry.acknowledge.commandId = entry.commandId := rfl

end JournalEntry

namespace CommandJournal

variable (journal : CommandJournal) (envelope : NodeCommandEnvelope)

/-- The generation fence: an aggregate's generation neither regresses nor changes its content. -/
def checkGeneration (stateDigest : DigestText) : Except CommandJournalError Unit :=
  match journal.aggregateGenerations.get? envelope.aggregateId with
  | none => .ok ()
  | some current => do
    refuseIf (envelope.generation < current.generation)
      (.conflict ("command generation " ++ toString envelope.generation ++
        " regresses durable generation " ++ toString current.generation))
    refuseIf (current.generation = envelope.generation ∧ current.stateDigest ≠ stateDigest)
      (.conflict "state-changing command generation has conflicting content")

def fenceGeneration (stateDigest : DigestText) : CommandJournal :=
  { journal with aggregateGenerations := journal.aggregateGenerations.insert {
      aggregateId := envelope.aggregateId
      generation := envelope.generation
      stateDigest := stateDigest } }

/-- The fence of a new command, if it changes state. -/
def applyFence : Except CommandJournalError CommandJournal := do
  let digest? ← stateMutationDigest X envelope.payload
  match digest? with
  | none => pure journal
  | some digest => do
    journal.checkGeneration envelope digest
    pure (journal.fenceGeneration envelope digest)

/-- The journal with a new entry. -/
def receive : CommandJournal :=
  { journal with
    lastReceivedSequence := envelope.sequence
    entries := journal.entries.insert (.received envelope) }

def rebind (journal : CommandJournal) (commandId leaseId : Uuid) : CommandJournal :=
  { journal with
    entries := journal.entries.modify commandId (JournalEntry.rebind leaseId)
      (JournalEntry.commandId_rebind leaseId) }

def complete (journal : CommandJournal) (commandId : Uuid) (completion : JournalCompletion) :
    CommandJournal :=
  { journal with
    entries := journal.entries.modify commandId (JournalEntry.complete completion)
      (JournalEntry.commandId_complete completion) }

def acknowledge (journal : CommandJournal) (commandId : Uuid) : CommandJournal :=
  { journal with
    entries := journal.entries.modify commandId JournalEntry.acknowledge
      JournalEntry.commandId_acknowledge }

end CommandJournal

variable (nodeId : Uuid) (journal : CommandJournal)

def readJournal : Except CommandJournalError Unit := do
  refuseIf (journal.nodeId ≠ nodeId) (.conflict "command journal belongs to a different node")
  journal.validate X

/-- The branch of `begin_sync` for a command that has an entry. -/
def redeliver (existing : JournalEntry) (envelope : NodeCommandEnvelope) :
    Except CommandJournalError (JournalDecision × CommandJournal) := do
  refuseIf (existing.envelope.withLease envelope.leaseId ≠ envelope)
    (.conflict "command ID was redelivered with different immutable content")
  let acknowledgement ← (existing.rebind envelope.leaseId).acknowledgement X
  let decision := acknowledgement.elim .execute .replay
  if existing.envelope.leaseId ≠ envelope.leaseId then do
    let journal := journal.rebind envelope.commandId envelope.leaseId
    journal.validate X
    pure (decision, journal)
  else pure (decision, journal)

/-- The branch of `begin_sync` for a command without an entry. -/
def receiveNew (envelope : NodeCommandEnvelope) :
    Except CommandJournalError (JournalDecision × CommandJournal) := do
  let expected ← orElse (.invalid "command sequence overflowed")
    (checkedAdd journal.lastReceivedSequence 1)
  refuseIf (envelope.sequence ≠ expected)
    (.conflict ("command sequence " ++ toString envelope.sequence ++
      " does not follow durable sequence " ++ toString journal.lastReceivedSequence))
  let fenced ← journal.applyFence X envelope
  let journal := fenced.receive envelope
  journal.validate X
  pure (.execute, journal)

def beginSync (envelope : NodeCommandEnvelope) :
    Except CommandJournalError (JournalDecision × CommandJournal) := do
  (envelope.validate X).mapError .invalid
  refuseIf (envelope.nodeId ≠ nodeId) (.conflict "command belongs to a different node")
  readJournal X nodeId journal
  match journal.entries.get? envelope.commandId with
  | some existing => redeliver X journal existing envelope
  | none => receiveNew X journal envelope

def completeSync (commandId : Uuid) (completedAt : ℤ) (outcome : NodeCommandOutcome) :
    Except CommandJournalError (NodeCommandAck × CommandJournal) := do
  readJournal X nodeId journal
  let entry ← orElse (.conflict "command was not journaled") (journal.entries.get? commandId)
  match entry.completion with
  | some existing => do
    refuseIf (existing.outcome ≠ outcome)
      (.conflict "completed command outcome changed across replay")
    let acknowledgement ← entry.acknowledgement X
    let acknowledgement ← orElse (.invalid "completed command has no acknowledgement")
      acknowledgement
    pure (acknowledgement, journal)
  | none => do
    let completion := { completedAt := completedAt, outcome := outcome }
    let acknowledgement ← (entry.complete completion).acknowledgement X
    let acknowledgement ← orElse (.invalid "completed command has no acknowledgement")
      acknowledgement
    let journal := journal.complete commandId completion
    journal.validate X
    pure (acknowledgement, journal)

/-- The acknowledgements the control plane has not confirmed, in sequence order. -/
def pendingAcknowledgementsSync : Except CommandJournalError (List NodeCommandAck) := do
  readJournal X nodeId journal
  let pending := bySequence (journal.entries.rows.filter
    (fun entry => !entry.acknowledged && entry.completion.isSome))
  mapAll (fun entry => do
    let acknowledgement ← entry.acknowledgement X
    orElse (.invalid "pending acknowledgement has no completion") acknowledgement) pending

def markAcknowledgedSync
    (receipt : NodeCommandAckReceipt) : Except CommandJournalError CommandJournal := do
  receipt.validate.mapError .invalid
  refuseIf (receipt.nodeId ≠ nodeId)
    (.conflict "acknowledgement receipt belongs to a different node")
  readJournal X nodeId journal
  let entry ← orElse (.conflict "acknowledgement receipt command is unknown")
    (journal.entries.get? receipt.commandId)
  refuseIf (entry.completion = none)
    (.conflict "command was acknowledged before durable completion")
  let journal := journal.acknowledge receipt.commandId
  let journal :=
    { journal with lastAcknowledgedSequence := journal.contiguousAcknowledgedSequence }
  journal.validate X
  pure journal

def activeResourceClaimBindingsSync :
    Except CommandJournalError (List NodeResourceClaimBinding) := do
  readJournal X nodeId journal
  let projection ← journal.resourceClaimProjection X
  pure projection.activeBindings

def validateRuntimeResourceBindingSync
    (spec : RuntimeUnitSpec) (binding : Option NodeResourceClaimBinding) :
    Except CommandJournalError Unit := do
  readJournal X nodeId journal
  let projection ← journal.resourceClaimProjection X
  projection.validateRuntimeApply X spec binding

def validateResourceClaimReleaseSync
    (request : NodeResourceClaimRelease) : Except CommandJournalError Unit := do
  readJournal X nodeId journal
  let projection ← journal.resourceClaimProjection X
  projection.validateRelease request

end A3SCloud
