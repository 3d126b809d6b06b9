import A3SCloud.Contracts.Sample
import A3SCloud.Lib.Runs
import A3SCloud.NodeAgent.Executor
import A3SCloud.NodeAgent.JournalSpec

/-!
# A node as a state machine

The command loop of `crates/node-agent/src/agent.rs` runs one command at a time. A command is begun,
dispatched and completed, and the process may crash between any two of these; what survives is the
journal. `AgentState` is the journal with the place at which the process stands, and `AgentState.step`
performs one action of the process.

`AgentState.history` is a ghost: it records in order which commands were dispatched, for which of them
`runtime.apply` returned an observation, and which completions were journaled.

* `NodeInv` holds in every reachable state (`nodeInv_run`): the journal is valid and ordered, and a
  command in execution is the one journaled without a completion.
-/

namespace A3SCloud

open Checks Runs

variable (X : External)

/-- Where the process of a node stands. -/
inductive Phase
  | idle
  /-- The command was begun and is to be executed. -/
  | begun (envelope : NodeCommandEnvelope)
  /-- The command was dispatched; `applied` says whether `runtime.apply` returned an observation. -/
  | dispatched (envelope : NodeCommandEnvelope) (completion : JournalCompletion) (applied : Bool)
  deriving DecidableEq

inductive NodeEvent
  | dispatched (envelope : NodeCommandEnvelope)
  | runtimeApplied (envelope : NodeCommandEnvelope)
  | completed (envelope : NodeCommandEnvelope) (completion : JournalCompletion)
  deriving DecidableEq

structure AgentState where
  nodeId : Uuid
  journal : CommandJournal
  phase : Phase
  history : List NodeEvent

open AgentState

inductive NodeAction
  | begin (envelope : NodeCommandEnvelope)
  | dispatch (io : ExecutionIo)
  | complete
  | crash
  | markAcknowledged (receipt : NodeCommandAckReceipt)

/-- Whether `runtime.apply` is called and returns an observation. -/
def applyReturned (nodeId : Uuid) (journal : CommandJournal) (envelope : NodeCommandEnvelope)
    (io : ExecutionIo) : Bool :=
  match envelope.payload with
  | .runtimeApply request resourceClaim =>
    !envelope.isExpiredAt io.startedAt &&
      (admitApply X nodeId journal io request resourceClaim).isOk && io.runtimeApply.isOk
  | _ => false

def dispatchEvents (envelope : NodeCommandEnvelope) (applied : Bool) : List NodeEvent :=
  .dispatched envelope :: if applied then [.runtimeApplied envelope] else []

namespace AgentState

/-- A node before its first command. -/
def init (nodeId : Uuid) : AgentState where
  nodeId := nodeId
  journal := CommandJournal.empty nodeId
  phase := .idle
  history := []

def begin (s : AgentState) (envelope : NodeCommandEnvelope) : AgentState :=
  match s.phase, beginSync X s.nodeId s.journal envelope with
  | .idle, .ok (.execute, journal) => { s with journal := journal, phase := .begun envelope }
  | .idle, .ok (.replay _, journal) => { s with journal := journal }
  | _, _ => s

def dispatch (s : AgentState) (io : ExecutionIo) : AgentState :=
  match s.phase with
  | .begun envelope =>
    let applied := applyReturned X s.nodeId s.journal envelope io
    { s with
      phase := .dispatched envelope (executionCompletion X s.nodeId s.journal envelope io) applied
      history := s.history ++ dispatchEvents envelope applied }
  | _ => s

def complete (s : AgentState) : AgentState :=
  match s.phase with
  | .dispatched envelope completion _ =>
    match completeSync X s.nodeId s.journal envelope.commandId completion.completedAt
        completion.outcome with
    | .ok (_, journal) =>
      { s with
        journal := journal
        phase := .idle
        history := s.history ++ [.completed envelope completion] }
    | .error _ => { s with phase := .idle }
  | _ => s

def markAcknowledged (s : AgentState) (receipt : NodeCommandAckReceipt) : AgentState :=
  match s.phase, markAcknowledgedSync X s.nodeId s.journal receipt with
  | .idle, .ok journal => { s with journal := journal }
  | _, _ => s

def step (s : AgentState) : NodeAction → AgentState
  | .begin envelope => s.begin X envelope
  | .dispatch io => s.dispatch X io
  | .complete => s.complete X
  | .crash => { s with phase := .idle }
  | .markAcknowledged receipt => s.markAcknowledged X receipt

end AgentState

def Phase.command? : Phase → Option NodeCommandEnvelope
  | .idle => none
  | .begun envelope => some envelope
  | .dispatched envelope _ _ => some envelope

/-! ### What a step can do -/

/-- The changes an action can make. -/
inductive NodeStep (s : AgentState) : NodeAction → AgentState → Prop
  | stay (action : NodeAction) : NodeStep s action s
  | begun (envelope : NodeCommandEnvelope) (journal : CommandJournal) (hphase : s.phase = .idle)
      (hbegin : beginSync X s.nodeId s.journal envelope = .ok (.execute, journal)) :
      NodeStep s (.begin envelope) { s with journal := journal, phase := .begun envelope }
  | replayed (envelope : NodeCommandEnvelope) (acknowledgement : NodeCommandAck)
      (journal : CommandJournal) (hphase : s.phase = .idle)
      (hbegin : beginSync X s.nodeId s.journal envelope = .ok (.replay acknowledgement, journal)) :
      NodeStep s (.begin envelope) { s with journal := journal }
  | dispatched (envelope : NodeCommandEnvelope) (io : ExecutionIo)
      (hphase : s.phase = .begun envelope) :
      NodeStep s (.dispatch io)
        { s with
          phase := .dispatched envelope (executionCompletion X s.nodeId s.journal envelope io)
            (applyReturned X s.nodeId s.journal envelope io)
          history := s.history ++
            dispatchEvents envelope (applyReturned X s.nodeId s.journal envelope io) }
  | completed (envelope : NodeCommandEnvelope) (completion : JournalCompletion) (applied : Bool)
      (acknowledgement : NodeCommandAck) (journal : CommandJournal)
      (hphase : s.phase = .dispatched envelope completion applied)
      (hcomplete : completeSync X s.nodeId s.journal envelope.commandId completion.completedAt
        completion.outcome = .ok (acknowledgement, journal)) :
      NodeStep s .complete
        { s with
          journal := journal
          phase := .idle
          history := s.history ++ [.completed envelope completion] }
  | refused (envelope : NodeCommandEnvelope) (completion : JournalCompletion) (applied : Bool)
      (error : CommandJournalError) (hphase : s.phase = .dispatched envelope completion applied)
      (hcomplete : completeSync X s.nodeId s.journal envelope.commandId completion.completedAt
        completion.outcome = .error error) :
      NodeStep s .complete { s with phase := .idle }
  | crashed : NodeStep s .crash { s with phase := .idle }
  | acknowledged (receipt : NodeCommandAckReceipt) (journal : CommandJournal)
      (hphase : s.phase = .idle)
      (hmark : markAcknowledgedSync X s.nodeId s.journal receipt = .ok journal) :
      NodeStep s (.markAcknowledged receipt) { s with journal := journal }

variable {X}

theorem nodeStep_step (s : AgentState) (action : NodeAction) :
    NodeStep X s action (s.step X action) := by
  cases action with
  | begin envelope =>
    simp only [step, begin]
    split
    · rename_i journal hphase hbegin
      exact .begun envelope journal hphase hbegin
    · rename_i acknowledgement journal hphase hbegin
      exact .replayed envelope acknowledgement journal hphase hbegin
    · exact .stay _
  | dispatch io =>
    simp only [step, AgentState.dispatch]
    split
    · rename_i envelope hphase
      exact .dispatched envelope io hphase
    · exact .stay _
  | complete =>
    simp only [step, AgentState.complete]
    split
    · rename_i envelope completion applied hphase
      split
      · rename_i acknowledgement journal hcomplete
        exact .completed envelope completion applied acknowledgement journal hphase hcomplete
      · rename_i error hcomplete
        exact .refused envelope completion applied error hphase hcomplete
    · exact .stay _
  | crash => exact .crashed
  | markAcknowledged receipt =>
    simp only [step, markAcknowledged]
    split
    · rename_i journal hphase hmark
      exact .acknowledged receipt journal hphase hmark
    · exact .stay _

/-! ### The invariant of a node -/

variable (X)

/-- What holds of a node in every reachable state. -/
structure NodeInv (s : AgentState) : Prop where
  journalNode : s.journal.nodeId = s.nodeId
  valid : s.journal.Valid X
  ordered : s.journal.Ordered
  /-- A command in execution is journaled without a completion. -/
  running : ∀ envelope, s.phase.command? = some envelope →
    ∃ entry, s.journal.entries.get? envelope.commandId = some entry ∧ entry.envelope = envelope ∧
      entry.completion = none

variable {X}

theorem nodeInv_init {nodeId : Uuid} (h : nodeId ≠ 0) : NodeInv X (init nodeId) where
  journalNode := rfl
  valid := CommandJournal.valid_empty h
  ordered := CommandJournal.ordered_empty nodeId
  running := by intro envelope hphase; cases hphase

variable {s s' : AgentState} {action : NodeAction}

theorem nodeInv_step (hstep : NodeStep X s action s') (h : NodeInv X s) : NodeInv X s' := by
  cases hstep with
  | stay => exact h
  | begun envelope journal hphase hbegin =>
    obtain ⟨-, -, -, -, hvalid, hbegun⟩ := beginSync_ok hbegin
    refine ⟨hbegun.nodeId.trans h.journalNode, hvalid, hbegun.ordered h.valid h.ordered, ?_⟩
    intro envelope' hcommand
    cases hcommand
    obtain ⟨entry, hget, henvelope, hdecision⟩ := hbegun.entry
    exact ⟨entry, hget, henvelope, decisionFor_eq_execute hdecision⟩
  | replayed envelope acknowledgement journal hphase hbegin =>
    obtain ⟨-, -, -, -, hvalid, hbegun⟩ := beginSync_ok hbegin
    refine ⟨hbegun.nodeId.trans h.journalNode, hvalid, hbegun.ordered h.valid h.ordered, ?_⟩
    intro envelope' hcommand
    rw [show ({ s with journal := journal } : AgentState).phase = .idle from hphase] at hcommand
    cases hcommand
  | dispatched envelope io hphase =>
    refine ⟨h.journalNode, h.valid, h.ordered, fun envelope' hcommand => ?_⟩
    cases hcommand
    exact h.running envelope (by rw [hphase]; rfl)
  | completed envelope completion applied acknowledgement journal hphase hcomplete =>
    obtain ⟨-, -, hvalid, hcompleted⟩ := completeSync_ok hcomplete
    refine ⟨hcompleted.nodeId.trans h.journalNode, hvalid, hcompleted.ordered h.ordered, ?_⟩
    intro envelope' hcommand
    cases hcommand
  | refused | crashed =>
    refine ⟨h.journalNode, h.valid, h.ordered, fun envelope' hcommand => ?_⟩
    cases hcommand
  | acknowledged receipt journal hphase hmark =>
    obtain ⟨-, -, hvalid, entry, -, -, rfl⟩ := markAcknowledgedSync_ok hmark
    refine ⟨h.journalNode, hvalid, h.ordered.acknowledge _, fun envelope' hcommand => ?_⟩
    simp only [hphase] at hcommand
    cases hcommand

/-- A command in execution is completed by recording its completion. -/
theorem NodeInv.completeSync_ok (h : NodeInv X s) {envelope : NodeCommandEnvelope}
    (hcommand : s.phase.command? = some envelope) {completion : JournalCompletion}
    {acknowledgement : NodeCommandAck} {journal : CommandJournal}
    (hcomplete : completeSync X s.nodeId s.journal envelope.commandId completion.completedAt
      completion.outcome = .ok (acknowledgement, journal)) :
    ∃ entry, s.journal.entries.get? entry.commandId = some entry ∧ entry.envelope = envelope ∧
      entry.completion = none ∧ journal = s.journal.complete entry.commandId completion := by
  obtain ⟨entry, hget, rfl, hnone⟩ := h.running envelope hcommand
  refine ⟨entry, hget, rfl, hnone, ?_⟩
  obtain ⟨-, -, -, hcompleted⟩ := A3SCloud.completeSync_ok hcomplete
  cases hcompleted with
  | replayed entry' existing hget' hcompletion =>
    rw [hget, Option.some.injEq] at hget'
    subst hget'
    rw [hnone] at hcompletion
    cases hcompletion
  | recorded => rfl

theorem keeps_step (hstep : NodeStep X s action s') : KeepsEntries s.journal s'.journal := by
  cases hstep with
  | stay => exact KeepsEntries.refl _
  | begun envelope journal hphase hbegin => exact (beginSync_ok hbegin).2.2.2.2.2.keeps
  | replayed envelope acknowledgement journal hphase hbegin =>
    exact (beginSync_ok hbegin).2.2.2.2.2.keeps
  | dispatched => exact KeepsEntries.refl _
  | completed envelope completion applied acknowledgement journal hphase hcomplete =>
    exact (completeSync_ok hcomplete).2.2.2.keeps
  | refused | crashed => exact KeepsEntries.refl _
  | acknowledged receipt journal hphase hmark =>
    obtain ⟨-, -, -, entry, -, -, rfl⟩ := markAcknowledgedSync_ok hmark
    exact s.journal.keeps_acknowledge receipt.commandId

theorem nodeInv_run {nodeId : Uuid} (h : nodeId ≠ 0) (actions : List NodeAction) :
    NodeInv X (run (step X) (init nodeId) actions) :=
  invariant_all (fun s action hs => nodeInv_step (nodeStep_step s action) hs) (nodeInv_init h)
    actions

/-! ### Sample attempts -/

namespace Sample

/-- An execution at one time, with a Runtime that applies the sample unit and finds it absent when it
is stopped. -/
def io (time : ℤ) : ExecutionIo where
  startedAt := time
  dispatchedAt := time
  checkedAt := time
  completedAt := time
  readFile := .ok ()
  resourceInventory := some (.ok inventory)
  prepareCommand := .ok ()
  publishCommandOutputs observation := .ok observation
  runtimeApply := .ok observation
  runtimeInspect := .ok (.found observation)
  runtimeStop := .ok (.notFound "u")
  runtimeRemove := .error ⟨.protocol, ""⟩
  gatewayInstall := .error (.protocol "")
  gatewayObserve := .error (.protocol "")
  freshId := 9
  adapter := .error ⟨.rejected, "", "", false⟩

/-- One command from its delivery to its journaled completion. -/
def attempt (envelope : NodeCommandEnvelope) (io : ExecutionIo) : List NodeAction :=
  [.begin envelope, .dispatch io, .complete]

end Sample

end A3SCloud
