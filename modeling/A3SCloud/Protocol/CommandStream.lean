import A3SCloud.Fleet.Queue
import A3SCloud.NodeAgent.InOrder

/-!
# The command stream of one node

The queue of the control plane and the command loop of a node, joined by a channel on which requests
and responses may be lost, delayed and repeated. The loop (`synchronize_once` in
`crates/node-agent/src/agent.rs`) leases a batch after the last acknowledged sequence, executes it in
order and gives the batch up at the first error.

`CommandStream.step` performs one action of either side. Every acknowledgement the node has ever
produced may reach the control plane at any time and any number of times, and so may every receipt
reach the node; a request that is lost is an action that is not taken.

* `StreamInv` holds in every reachable state (`streamInv_run`): the journal holds commands of the
  queue, the rest of the batch is the next part of the queue, and what the control plane has
  acknowledged the node has completed.
-/

namespace A3SCloud

open Checks Runs List NodeControl Option Table

variable (X : External)

/-- The queue of the control plane, a node and the messages between them. -/
structure CommandStream where
  control : NodeControl
  agent : AgentState
  /-- The rest of the leased batch. -/
  inbox : List NodeCommandEnvelope
  /-- The acknowledgements the node has produced. -/
  acknowledgements : List NodeCommandAck
  /-- The receipts the control plane has answered with. -/
  receipts : List NodeCommandAckReceipt

open CommandStream

inductive StreamAction
  | enqueue (draft : NodeCommandDraft)
  /-- A lease request is served; its response may reach the node that waits for it. -/
  | lease (request : NodeCommandLeaseRequest) (leaseId : Uuid) (now leasedUntil : ℤ)
      (delivered : Bool)
  /-- The next command of the batch is begun. -/
  | execute
  | dispatch (io : ExecutionIo)
  | complete
  /-- The batch is given up: its last acknowledgement was not answered. -/
  | abandon
  | crash
  /-- A pending acknowledgement is sent. -/
  | report (commandId : Uuid)
  /-- An acknowledgement reaches the control plane. -/
  | acknowledge (acknowledgement : NodeCommandAck)
  /-- A receipt reaches the node. -/
  | markAcknowledged (receipt : NodeCommandAckReceipt)

namespace CommandStream

variable (s : CommandStream)

/-- The node waits for a batch with the given request. -/
def awaits (request : NodeCommandLeaseRequest) : Bool :=
  s.agent.phase = .idle ∧ s.inbox = [] ∧ request.nodeId = s.agent.nodeId ∧
    request.afterSequence = s.agent.journal.lastAcknowledgedSequence

def lease (request : NodeCommandLeaseRequest) (leaseId : Uuid)
    (now leasedUntil : ℤ) (delivered : Bool) : CommandStream :=
  let (answer, control) := s.control.leaseCommands X request leaseId now leasedUntil
  match answer with
  | .ok response =>
    if delivered && s.awaits request then { s with control := control, inbox := response.commands }
    else { s with control := control }
  | .error _ => { s with control := control }

def execute (s : CommandStream) : CommandStream :=
  match s.agent.phase, s.inbox with
  | .idle, envelope :: rest =>
    match beginSync X s.agent.nodeId s.agent.journal envelope with
    | .ok (.execute, _) => { s with agent := s.agent.begin X envelope, inbox := rest }
    | .ok (.replay acknowledgement, _) =>
      { s with
        agent := s.agent.begin X envelope
        inbox := rest
        acknowledgements := s.acknowledgements ++ [acknowledgement] }
    | .error _ => { s with inbox := [] }
  | _, _ => s

def complete (s : CommandStream) : CommandStream :=
  match s.agent.phase with
  | .dispatched envelope completion _ =>
    match completeSync X s.agent.nodeId s.agent.journal envelope.commandId completion.completedAt
        completion.outcome with
    | .ok (acknowledgement, _) =>
      { s with
        agent := s.agent.complete X
        acknowledgements := s.acknowledgements ++ [acknowledgement] }
    | .error _ => { s with agent := s.agent.complete X, inbox := [] }
  | _ => s

/-- One of the acknowledgements with which `synchronize_once` starts. -/
def report (commandId : Uuid) : CommandStream :=
  match s.agent.journal.entries.get? commandId with
  | none => s
  | some entry =>
    match entry.acknowledgement X with
    | .ok (some acknowledgement) =>
      { s with acknowledgements := s.acknowledgements ++ [acknowledgement] }
    | _ => s

/-- `acknowledge_command` of the node control API, with the receipt it answers. -/
def acknowledge (acknowledgement : NodeCommandAck) : CommandStream :=
  if acknowledgement ∈ s.acknowledgements then
    match s.control.acknowledgeCommand X acknowledgement with
    | .ok (write, control) =>
      { s with
        control := control
        receipts := s.receipts ++ [{
          schema := .current
          commandId := write.value.commandId
          nodeId := write.value.nodeId
          replayed := write.replayed }] }
    | .error _ => s
  else s

def step (s : CommandStream) : StreamAction → CommandStream
  | .enqueue draft =>
    match s.control.enqueueCommand X draft with
    | .ok (_, control) => { s with control := control }
    | .error _ => s
  | .lease request leaseId now leasedUntil delivered =>
    s.lease X request leaseId now leasedUntil delivered
  | .execute => s.execute X
  | .dispatch io => { s with agent := s.agent.dispatch X io }
  | .complete => s.complete X
  | .abandon => if s.agent.phase = .idle then { s with inbox := [] } else s
  | .crash => { s with agent := s.agent.step X .crash, inbox := [] }
  | .report commandId => s.report X commandId
  | .acknowledge acknowledgement => s.acknowledge X acknowledgement
  | .markAcknowledged receipt =>
    if receipt ∈ s.receipts then { s with agent := s.agent.markAcknowledged X receipt } else s

/-- A node before its first command. -/
def init (control : NodeControl) (nodeId : Uuid) : CommandStream where
  control := control
  agent := AgentState.init nodeId
  inbox := []
  acknowledgements := []
  receipts := []

/-- The command in execution and the rest of the batch. -/
def pending : List NodeCommandEnvelope :=
  s.agent.phase.command?.toList ++ s.inbox

end CommandStream

/-! ### What a step can do -/

/-- The changes an action can make. -/
inductive StreamStep (s : CommandStream) : StreamAction → CommandStream → Prop
  | stay (action : StreamAction) : StreamStep s action s
  | enqueued (draft : NodeCommandDraft) (write : IdempotentWrite NodeCommand)
      (control : NodeControl) (henqueue : s.control.enqueueCommand X draft = .ok (write, control)) :
      StreamStep s (.enqueue draft) { s with control := control }
  | leased (request : NodeCommandLeaseRequest) (leaseId : Uuid) (now leasedUntil : ℤ)
      (delivered : Bool) :
      StreamStep s (.lease request leaseId now leasedUntil delivered)
        { s with control := (s.control.leaseCommands X request leaseId now leasedUntil).2 }
  | received (request : NodeCommandLeaseRequest) (leaseId : Uuid) (now leasedUntil : ℤ)
      (delivered : Bool) (response : NodeCommandLeaseResponse)
      (hlease : (s.control.leaseCommands X request leaseId now leasedUntil).1 = .ok response)
      (hphase : s.agent.phase = .idle) (hnode : request.nodeId = s.agent.nodeId)
      (hafter : request.afterSequence = s.agent.journal.lastAcknowledgedSequence) :
      StreamStep s (.lease request leaseId now leasedUntil delivered)
        { s with
          control := (s.control.leaseCommands X request leaseId now leasedUntil).2
          inbox := response.commands }
  | begun (envelope : NodeCommandEnvelope) (rest : List NodeCommandEnvelope)
      (journal : CommandJournal) (hphase : s.agent.phase = .idle) (hinbox : s.inbox = envelope :: rest)
      (hbegin : beginSync X s.agent.nodeId s.agent.journal envelope = .ok (.execute, journal)) :
      StreamStep s .execute
        { s with
          agent := { s.agent with journal := journal, phase := .begun envelope }
          inbox := rest }
  | replayed (envelope : NodeCommandEnvelope) (rest : List NodeCommandEnvelope)
      (acknowledgement : NodeCommandAck) (journal : CommandJournal)
      (hphase : s.agent.phase = .idle) (hinbox : s.inbox = envelope :: rest)
      (hbegin : beginSync X s.agent.nodeId s.agent.journal envelope =
        .ok (.replay acknowledgement, journal)) :
      StreamStep s .execute
        { s with
          agent := { s.agent with journal := journal }
          inbox := rest
          acknowledgements := s.acknowledgements ++ [acknowledgement] }
  | dispatched (envelope : NodeCommandEnvelope) (io : ExecutionIo)
      (hphase : s.agent.phase = .begun envelope) :
      StreamStep s (.dispatch io)
        { s with
          agent := { s.agent with
            phase := .dispatched envelope
              (executionCompletion X s.agent.nodeId s.agent.journal envelope io)
              (applyReturned X s.agent.nodeId s.agent.journal envelope io)
            history := s.agent.history ++ dispatchEvents envelope
              (applyReturned X s.agent.nodeId s.agent.journal envelope io) } }
  | completed (envelope : NodeCommandEnvelope) (completion : JournalCompletion) (applied : Bool)
      (acknowledgement : NodeCommandAck) (journal : CommandJournal)
      (hphase : s.agent.phase = .dispatched envelope completion applied)
      (hcomplete : completeSync X s.agent.nodeId s.agent.journal envelope.commandId
        completion.completedAt completion.outcome = .ok (acknowledgement, journal)) :
      StreamStep s .complete
        { s with
          agent := { s.agent with
            journal := journal
            phase := .idle
            history := s.agent.history ++ [.completed envelope completion] }
          acknowledgements := s.acknowledgements ++ [acknowledgement] }
  | stopped (action : StreamAction) (agent : AgentState)
      (hagent : agent = { s.agent with phase := .idle }) :
      StreamStep s action { s with agent := agent, inbox := [] }
  | reported (commandId : Uuid) (entry : JournalEntry) (acknowledgement : NodeCommandAck)
      (hget : s.agent.journal.entries.get? commandId = some entry)
      (hacknowledgement : entry.acknowledgement X = .ok (some acknowledgement)) :
      StreamStep s (.report commandId)
        { s with acknowledgements := s.acknowledgements ++ [acknowledgement] }
  | acknowledged (acknowledgement : NodeCommandAck) (write : IdempotentWrite NodeCommandAck)
      (control : NodeControl) (receipts : List NodeCommandAckReceipt)
      (hsent : acknowledgement ∈ s.acknowledgements)
      (hacknowledge : s.control.acknowledgeCommand X acknowledgement = .ok (write, control)) :
      StreamStep s (.acknowledge acknowledgement)
        { s with control := control, receipts := receipts }
  | marked (receipt : NodeCommandAckReceipt) (journal : CommandJournal)
      (hphase : s.agent.phase = .idle)
      (hmark : markAcknowledgedSync X s.agent.nodeId s.agent.journal receipt = .ok journal) :
      StreamStep s (.markAcknowledged receipt)
        { s with agent := { s.agent with journal := journal } }

variable {X}

theorem streamStep_step (s : CommandStream) (action : StreamAction) :
    StreamStep X s action (s.step X action) := by
  cases action with
  | enqueue draft =>
    simp only [step]
    split
    · rename_i write control henqueue
      exact .enqueued draft write control henqueue
    · exact .stay _
  | lease request leaseId now leasedUntil delivered =>
    simp only [step, CommandStream.lease]
    split
    · rename_i response hlease
      split_ifs with hawaits
      · simp only [awaits, Bool.and_eq_true, decide_eq_true_eq] at hawaits
        obtain ⟨-, hphase, -, hnode, hafter⟩ := hawaits
        exact .received request leaseId now leasedUntil delivered response hlease hphase hnode hafter
      · exact .leased request leaseId now leasedUntil delivered
    · exact .leased request leaseId now leasedUntil delivered
  | execute =>
    simp only [step, CommandStream.execute]
    split
    · rename_i envelope rest hphase hinbox
      split
      · rename_i journal hbegin
        have hagent : s.agent.begin X envelope =
            { s.agent with journal := journal, phase := .begun envelope } := by
          simp only [AgentState.begin, hphase, hbegin]
        rw [hagent]
        exact .begun envelope rest journal hphase hinbox hbegin
      · rename_i acknowledgement journal hbegin
        have hagent : s.agent.begin X envelope = { s.agent with journal := journal } := by
          simp only [AgentState.begin, hphase, hbegin]
        rw [hagent]
        exact .replayed envelope rest acknowledgement journal hphase hinbox hbegin
      · exact .stopped _ s.agent (by rw [← hphase])
    · exact .stay _
  | dispatch io =>
    simp only [step, AgentState.dispatch]
    split
    · rename_i envelope hphase
      exact .dispatched envelope io hphase
    · exact .stay _
  | complete =>
    simp only [step, CommandStream.complete]
    split
    · rename_i envelope completion applied hphase
      split
      · rename_i acknowledgement journal hcomplete
        have hagent : s.agent.complete X = { s.agent with
            journal := journal
            phase := .idle
            history := s.agent.history ++ [.completed envelope completion] } := by
          simp only [AgentState.complete, hphase, hcomplete]
        rw [hagent]
        exact .completed envelope completion applied acknowledgement journal hphase hcomplete
      · rename_i error hcomplete
        refine .stopped _ _ ?_
        simp only [AgentState.complete, hphase, hcomplete]
    · exact .stay _
  | abandon =>
    simp only [step]
    split_ifs with hphase
    · exact .stopped _ s.agent (by rw [← hphase])
    · exact .stay _
  | crash => exact .stopped _ _ rfl
  | report commandId =>
    simp only [step, CommandStream.report]
    split
    · exact .stay _
    · rename_i entry hget
      split
      · rename_i acknowledgement hacknowledgement
        exact .reported commandId entry acknowledgement hget hacknowledgement
      · exact .stay _
  | acknowledge acknowledgement =>
    simp only [step, acknowledge]
    split_ifs with hsent
    · split
      · rename_i write control hacknowledge
        exact .acknowledged acknowledgement write control _ hsent hacknowledge
      · exact .stay _
    · exact .stay _
  | markAcknowledged receipt =>
    simp only [step, AgentState.markAcknowledged]
    split_ifs with hreceipt
    · split
      · rename_i journal hphase hmark
        exact .marked receipt journal hphase hmark
      · exact .stay _
    · exact .stay _

/-! ### Journals that grow -/

variable {journal journal' : CommandJournal} {envelope : NodeCommandEnvelope} {entry : JournalEntry}
  {commandId nodeId : Uuid} {completion : JournalCompletion} {acknowledgement : NodeCommandAck}
  {sequence : ℕ} {rest : List NodeCommandEnvelope} {control control' : NodeControl}
  {s s' : CommandStream} {action : StreamAction}

/-- The entries of a begun journal are those before and the one of the command. -/
theorem Begun.mem_rows {decision : JournalDecision}
    (h : Begun (X := X) journal envelope decision journal')
    (hentry : entry ∈ journal'.entries.rows) :
    entry.envelope = envelope ∨ entry ∈ journal.entries.rows := by
  cases h with
  | redelivered existing hget hsame =>
    obtain ⟨before, hbefore, rfl⟩ := List.mem_map.1 hentry
    split_ifs with hid
    · left
      have heq : journal.entries.get? envelope.commandId = some before :=
        get?_eq_some_iff.2 ⟨hbefore, hid⟩
      rw [hget, some.injEq] at heq
      subst heq
      exact hsame
    · exact .inr hbefore
  | received fenced hget hsequence hfence =>
    rw [CommandJournal.rows_receive hfence hget, mem_append, mem_singleton] at hentry
    rcases hentry with hentry | rfl
    · exact .inr hentry
    · exact .inl rfl

theorem Completed.mem_rows (h : Completed journal commandId completion acknowledgement journal')
    (hentry : entry ∈ journal'.entries.rows) :
    ∃ before ∈ journal.entries.rows, before.envelope = entry.envelope := by
  cases h with
  | replayed => exact ⟨entry, hentry, rfl⟩
  | recorded _ =>
    obtain ⟨before, hbefore, rfl⟩ := List.mem_map.1 hentry
    refine ⟨before, hbefore, ?_⟩
    split_ifs <;> rfl

/-- The command of a sequence is completed. -/
def CompletedAt (journal : CommandJournal) (sequence : ℕ) : Prop :=
  ∃ entry ∈ journal.entries.rows, entry.sequence = sequence ∧ entry.completion ≠ none

theorem CompletedAt.keeps (h : CompletedAt journal sequence)
    (hkeeps : KeepsEntries journal journal') : CompletedAt journal' sequence := by
  obtain ⟨entry, hentry, hsequence, hcompletion⟩ := h
  obtain ⟨entry', hget, hkept⟩ := hkeeps entry.commandId entry
    (get?_eq_some_iff.2 ⟨hentry, rfl⟩)
  obtain ⟨completion, hsome⟩ := ne_none_iff_exists'.1 hcompletion
  obtain ⟨leaseId, henvelope⟩ := hkept.envelope
  refine ⟨entry', (get?_eq_some_iff.1 hget).1, ?_, ?_⟩
  · rw [← hsequence, JournalEntry.sequence, henvelope]
    rfl
  · rw [hkept.completion completion hsome]
    exact some_ne_none completion

theorem Completed.completedAt (h : Completed journal commandId completion acknowledgement journal')
    (hentry : journal.entries.get? commandId = some entry) :
    CompletedAt journal' entry.sequence := by
  cases h with
  | replayed _ existing hget hcompletion =>
    cases hentry.symm.trans hget
    exact ⟨entry, (get?_eq_some_iff.1 hget).1, rfl,
      by rw [hcompletion]; exact some_ne_none existing⟩
  | recorded _ hget =>
    cases hentry.symm.trans hget
    have hget' : (journal.complete commandId completion).entries.get? commandId =
        some (entry.complete completion) := by
      rw [CommandJournal.complete, get?_modify, if_pos rfl, hget, map_some]
    exact ⟨_, (get?_eq_some_iff.1 hget').1, rfl, some_ne_none completion⟩

/-- An acknowledgement reports a journaled completion, under some lease. -/
def Reported (journal : CommandJournal) (acknowledgement : NodeCommandAck) : Prop :=
  ∃ entry completion leaseId,
    journal.entries.get? acknowledgement.commandId = some entry ∧
      entry.completion = some completion ∧
      acknowledgement = JournalEntry.report (entry.envelope.withLease leaseId) completion

theorem Reported.keeps (h : Reported journal acknowledgement)
    (hkeeps : KeepsEntries journal journal') : Reported journal' acknowledgement := by
  obtain ⟨entry, completion, leaseId, hget, hcompletion, hreport⟩ := h
  obtain ⟨entry', hget', hkept⟩ := hkeeps _ _ hget
  obtain ⟨leaseId', henvelope⟩ := hkept.envelope
  refine ⟨entry', completion, leaseId, hget', hkept.completion completion hcompletion, ?_⟩
  rw [hreport, henvelope]
  rfl

theorem reported_acknowledgement (hget : journal.entries.get? entry.commandId = some entry)
    (h : entry.acknowledgement X = .ok (some acknowledgement)) :
    Reported journal acknowledgement := by
  obtain ⟨hreport, -⟩ := acknowledgement_ok_iff.1 h
  rw [eq_comm, map_eq_some_iff] at hreport
  obtain ⟨completion, hcompletion, rfl⟩ := hreport
  exact ⟨entry, completion, entry.envelope.leaseId, hget, hcompletion, rfl⟩

theorem Completed.reported (h : Completed journal commandId completion acknowledgement journal') :
    Reported journal' acknowledgement := by
  cases h with
  | replayed entry existing hget hcompletion =>
    have hid := (get?_eq_some_iff.1 hget).2
    refine ⟨entry, existing, entry.envelope.leaseId, ?_, hcompletion, rfl⟩
    rw [show (JournalEntry.report entry.envelope existing).commandId = entry.commandId from rfl, hid]
    exact hget
  | recorded entry hget =>
    have hid := (get?_eq_some_iff.1 hget).2
    refine ⟨entry.complete completion, completion, entry.envelope.leaseId, ?_, rfl, rfl⟩
    rw [show (JournalEntry.report entry.envelope completion).commandId = entry.commandId from rfl,
      hid, CommandJournal.complete, get?_modify, if_pos rfl, hget, map_some]

theorem Begun.reported (h : Begun (X := X) journal envelope (.replay acknowledgement) journal') :
    Reported journal' acknowledgement ∧ CompletedAt journal' envelope.sequence := by
  obtain ⟨entry, hget, rfl, hdecision⟩ := h.entry
  cases hcompletion : entry.completion with
  | none =>
    rw [hcompletion] at hdecision
    cases hdecision
  | some completion =>
    rw [hcompletion] at hdecision
    cases hdecision
    refine ⟨⟨entry, completion, entry.envelope.leaseId, hget, hcompletion, rfl⟩,
      entry, (get?_eq_some_iff.1 hget).1, rfl, ?_⟩
    rw [hcompletion]
    exact some_ne_none completion

/-! ### Batches that follow the journal -/

/-- The pending commands stand in order, and what is before one of them is completed or pending. -/
structure Follows (journal : CommandJournal) (pending : List NodeCommandEnvelope) : Prop where
  sorted : pending.Pairwise (fun a b => a.sequence < b.sequence)
  covered : ∀ envelope ∈ pending, ∀ sequence, 1 ≤ sequence → sequence < envelope.sequence →
    CompletedAt journal sequence ∨ ∃ earlier ∈ pending, earlier.sequence = sequence

theorem follows_nil (journal : CommandJournal) : Follows journal [] :=
  ⟨Pairwise.nil, by simp⟩

theorem Follows.keeps {pending : List NodeCommandEnvelope} (h : Follows journal pending)
    (hkeeps : KeepsEntries journal journal') : Follows journal' pending := by
  refine ⟨h.sorted, fun envelope henvelope sequence hone hlt => ?_⟩
  rcases h.covered envelope henvelope sequence hone hlt with hcompleted | hearlier
  · exact .inl (hcompleted.keeps hkeeps)
  · exact .inr hearlier

/-- The first pending command is completed. -/
theorem Follows.tail (h : Follows journal (envelope :: rest))
    (hcompleted : CompletedAt journal envelope.sequence) : Follows journal rest := by
  refine ⟨(pairwise_cons.1 h.sorted).2, fun later hlater sequence hone hlt => ?_⟩
  rcases h.covered later (mem_cons_of_mem envelope hlater) sequence hone hlt with
    hdone | ⟨earlier, hearlier, hsequence⟩
  · exact .inl hdone
  · rcases mem_cons.1 hearlier with rfl | hearlier
    · exact .inl (hsequence ▸ hcompleted)
    · exact .inr ⟨earlier, hearlier, hsequence⟩

/-- Everything before the first pending command is completed. -/
theorem Follows.completedAt (h : Follows journal (envelope :: rest)) (hone : 1 ≤ sequence)
    (hlt : sequence < envelope.sequence) : CompletedAt journal sequence := by
  rcases h.covered envelope mem_cons_self sequence hone hlt with
    hdone | ⟨earlier, hearlier, hsequence⟩
  · exact hdone
  · rcases mem_cons.1 hearlier with rfl | hearlier
    · omega
    · have hlater := (pairwise_cons.1 h.sorted).1 earlier hearlier
      omega

theorem acknowledged_of_le_contiguousFrom {acknowledged : ℕ → Bool} {rounds start : ℕ}
    (hlt : start < sequence) (hle : sequence ≤ contiguousFrom acknowledged rounds start) :
    acknowledged sequence = true := by
  induction rounds generalizing start with
  | zero =>
    simp only [contiguousFrom] at hle
    omega
  | succ rounds ih =>
    rw [contiguousFrom] at hle
    split_ifs at hle with hnext
    · by_cases heq : sequence = start + 1
      · rw [heq]
        exact hnext
      · exact ih (by omega) hle
    · omega

theorem CommandJournal.Valid.completedAt (h : journal.Valid X) (hone : 1 ≤ sequence)
    (hle : sequence ≤ journal.lastAcknowledgedSequence) : CompletedAt journal sequence := by
  rw [← h.contiguous] at hle
  have hany := acknowledged_of_le_contiguousFrom hone hle
  simp only [List.any_eq_true, Bool.and_eq_true, decide_eq_true_eq] at hany
  obtain ⟨entry, hentry, hsequence, hacknowledged⟩ := hany
  exact ⟨entry, hentry, hsequence, (h.entries entry hentry).acknowledged hacknowledged⟩

/-! ### The invariant of a stream -/

variable (X) in
/-- An envelope is that of a command of the queue, under some lease. -/
def Queued (control : NodeControl) (envelope : NodeCommandEnvelope) : Prop :=
  ∃ stored, control.commands.get? envelope.commandId = some stored ∧
    envelope = stored.command.toEnvelope X envelope.leaseId

theorem Queued.keeps (h : Queued X control envelope) (hkeeps : KeepsCommands control control') :
    Queued X control' envelope := by
  obtain ⟨stored, hget, henvelope⟩ := h
  obtain ⟨stored', hget', hkept⟩ := hkeeps _ _ hget
  exact ⟨stored', hget', by rw [hkept.command]; exact henvelope⟩

variable (X) in
/-- What holds of a stream in every reachable state. -/
structure StreamInv (nodeId : Uuid) (s : CommandStream) : Prop where
  node : NodeInv X s.agent
  identity : s.agent.nodeId = nodeId
  queue : QueueInv X s.control nodeId
  /-- The node has received nothing but commands of the queue. -/
  journaled : ∀ entry ∈ s.agent.journal.entries.rows, Queued X s.control entry.envelope
  inbox : ∀ envelope ∈ s.inbox, Queued X s.control envelope
  follows : Follows s.agent.journal s.pending
  /-- The node has reported nothing but journaled completions. -/
  sent : ∀ acknowledgement ∈ s.acknowledgements, Reported s.agent.journal acknowledgement
  /-- What the control plane has stored is a report of the node. -/
  stored : ∀ stored ∈ s.control.commands.rows, stored.command.nodeId = nodeId →
    ∀ acknowledgement, stored.acknowledgement = some acknowledgement →
      ∃ report, Reported s.agent.journal report ∧ report.commandId = stored.id ∧
        acknowledgement = NodeCommand.canonicalizeAcknowledgement report

theorem streamInv_init (hnode : nodeId ≠ 0) (hfresh : control.Fresh nodeId) :
    StreamInv X nodeId (init control nodeId) where
  node := nodeInv_init hnode
  identity := rfl
  queue := hfresh.queueInv
  journaled := by simp [init, AgentState.init, CommandJournal.empty]
  inbox := by simp [init]
  follows := follows_nil _
  sent := by simp [init]
  stored := fun stored hstored h => absurd h (hfresh.commands stored hstored)

theorem keepsCommands_step (hstep : StreamStep X s action s') :
    KeepsCommands s.control s'.control := by
  cases hstep with
  | enqueued draft write control henqueue => exact (enqueueCommand_ok henqueue).keeps
  | leased request leaseId now leasedUntil | received request leaseId now leasedUntil =>
    exact (leaseCommands_same s.control request leaseId now leasedUntil).keeps
  | acknowledged acknowledgement write control receipts hsent hacknowledge =>
    exact (acknowledgeCommand_ok hacknowledge).keeps
  | _ => exact KeepsCommands.refl s.control

/-- The node of a stream takes a step of its own, or none. -/
theorem nodeStep_of_streamStep (hstep : StreamStep X s action s') :
    ∃ action', NodeStep X s.agent action' s'.agent := by
  cases hstep with
  | begun envelope rest journal hphase hinbox hbegin =>
    exact ⟨_, .begun envelope journal hphase hbegin⟩
  | replayed envelope rest acknowledgement journal hphase hinbox hbegin =>
    exact ⟨_, .replayed envelope acknowledgement journal hphase hbegin⟩
  | dispatched envelope io hphase => exact ⟨_, .dispatched envelope io hphase⟩
  | completed envelope completion applied acknowledgement journal hphase hcomplete =>
    exact ⟨_, .completed envelope completion applied acknowledgement journal hphase hcomplete⟩
  | stopped action agent hagent =>
    subst hagent
    exact ⟨_, .crashed⟩
  | marked receipt journal hphase hmark => exact ⟨_, .acknowledged receipt journal hphase hmark⟩
  | _ => exact ⟨.crash, .stay _⟩

/-- The queue invariant along a step. -/
theorem queueInv_step (hstep : StreamStep X s action s') (h : QueueInv X s.control nodeId) :
    QueueInv X s'.control nodeId := by
  cases hstep with
  | enqueued draft write control henqueue =>
    exact h.enqueued (enqueueCommand_ok henqueue)
  | leased => exact h.leased _ _ _ _
  | received =>
    exact h.leased _ _ _ _
  | acknowledged acknowledgement write control receipts hsent hacknowledge =>
    exact h.acknowledged (acknowledgeCommand_ok hacknowledge)
  | _ => exact h

theorem follows_received (h : StreamInv X nodeId s) {request : NodeCommandLeaseRequest}
    (hnode : request.nodeId = nodeId)
    (hafter : request.afterSequence = s.agent.journal.lastAcknowledgedSequence) {leaseId : Uuid}
    {now leasedUntil : ℤ} {response : NodeCommandLeaseResponse}
    (hlease : (s.control.leaseCommands X request leaseId now leasedUntil).1 = .ok response) :
    Follows s.agent.journal response.commands := by
  have hinOrder := leaseCommands_inOrder (hnode ▸ h.queue) hlease
  obtain ⟨-, hcommands, -, -⟩ := leaseCommands_ok hlease
  refine ⟨hinOrder.increasing, fun envelope henvelope sequence hone hlt => ?_⟩
  rw [hcommands, List.mem_map] at henvelope
  obtain ⟨last, hlast, rfl⟩ := henvelope
  obtain ⟨hrow, hlastNode, -, -⟩ := mem_openCommands_iff.1 (mem_openCommands_of_selected hlast)
  rw [hnode] at hlastNode
  obtain ⟨node, hget, hle⟩ := h.queue.last last hrow hlastNode
  have hlt' : sequence < last.command.sequence := hlt
  obtain ⟨stored, hstored, hstoredNode, hsequence⟩ :=
    h.queue.gapless node hget sequence hone (by omega)
  by_cases hacknowledged : sequence ≤ request.afterSequence
  · exact .inl (h.node.valid.completedAt hone (hafter ▸ hacknowledged))
  · cases hstoredAck : stored.acknowledgement with
    | some acknowledgement =>
      -- what the control plane has acknowledged is completed
      left
      obtain ⟨report, ⟨entry, completion, lease, hentry, hcompletion, -⟩, hid, -⟩ :=
        h.stored stored hstored hstoredNode acknowledgement hstoredAck
      obtain ⟨hentryRow, hentryId⟩ := get?_eq_some_iff.1 hentry
      obtain ⟨stored', hget', henvelope⟩ := h.journaled entry hentryRow
      rw [show entry.envelope.commandId = stored.id from hentryId.trans hid,
        get?_eq_some_iff.2 ⟨hstored, rfl⟩, some.injEq] at hget'
      subst hget'
      refine ⟨entry, hentryRow, ?_, by rw [hcompletion]; exact some_ne_none _⟩
      rw [JournalEntry.sequence, henvelope, ← hsequence]
      rfl
    | none =>
      right
      have hopen : stored ∈ s.control.openCommands request.nodeId request.afterSequence :=
        mem_openCommands_iff.2 ⟨hstored, hstoredNode.trans hnode.symm, by omega, hstoredAck⟩
      refine ⟨stored.command.toEnvelope X leaseId, ?_, hsequence⟩
      rw [hcommands]
      exact List.mem_map_of_mem (mem_selectedCommands_of_lt hlast hopen (by omega))

/-- The part of the invariant about the queue, the journal and what was reported, for a later
state. -/
theorem StreamInv.stored_keeps (h : StreamInv X nodeId s) (hsame : ∀ stored ∈ control.commands.rows,
      ∀ acknowledgement, stored.acknowledgement = some acknowledgement →
        ∃ before ∈ s.control.commands.rows, before.command = stored.command ∧
          before.acknowledgement = some acknowledgement)
    (hkeeps : KeepsEntries s.agent.journal journal) :
    ∀ stored ∈ control.commands.rows, stored.command.nodeId = nodeId →
      ∀ acknowledgement, stored.acknowledgement = some acknowledgement →
        ∃ report, Reported journal report ∧ report.commandId = stored.id ∧
          acknowledgement = NodeCommand.canonicalizeAcknowledgement report := by
  intro stored hstored hnode acknowledgement hsome
  obtain ⟨before, hbefore, hcommand, hack⟩ := hsame stored hstored acknowledgement hsome
  obtain ⟨report, hreported, hid, heq⟩ :=
    h.stored before hbefore (by rw [hcommand]; exact hnode) acknowledgement hack
  refine ⟨report, hreported.keeps hkeeps, hid.trans ?_, heq⟩
  rw [StoredNodeCommand.id, hcommand]
  rfl

theorem acknowledged_before_of_same (h : SameCommands control control') :
    ∀ stored ∈ control'.commands.rows, ∀ acknowledgement,
      stored.acknowledgement = some acknowledgement →
        ∃ before ∈ control.commands.rows, before.command = stored.command ∧
          before.acknowledgement = some acknowledgement := by
  intro stored hstored acknowledgement hsome
  obtain ⟨before, hget, hcommand, hack⟩ := h.symm.get? (get?_eq_some_iff.2 ⟨hstored, rfl⟩)
  exact ⟨before, (get?_eq_some_iff.1 hget).1, hcommand, hack.trans hsome⟩

theorem acknowledged_before_of_enqueued {draft : NodeCommandDraft}
    {write : IdempotentWrite NodeCommand} (h : Enqueued X control draft write control') :
    ∀ stored ∈ control'.commands.rows, ∀ acknowledgement,
      stored.acknowledgement = some acknowledgement →
        ∃ before ∈ control.commands.rows, before.command = stored.command ∧
          before.acknowledgement = some acknowledgement := by
  intro stored hstored acknowledgement hsome
  cases h with
  | replayed => exact ⟨stored, hstored, rfl, hsome⟩
  | fresh =>
    rcases mem_insert.1 hstored with rfl | ⟨hstored, -⟩
    · cases hsome
    · exact ⟨stored, hstored, rfl, hsome⟩

/-- The state after an acknowledgement has reached the control plane. -/
theorem StreamInv.stored_acknowledged (h : StreamInv X nodeId s)
    (hsent : acknowledgement ∈ s.acknowledgements) {write : IdempotentWrite NodeCommandAck}
    (hacknowledged : Acknowledged X s.control acknowledgement write control) :
    ∀ stored ∈ control.commands.rows, stored.command.nodeId = nodeId →
      ∀ acknowledgement', stored.acknowledgement = some acknowledgement' →
        ∃ report, Reported s.agent.journal report ∧ report.commandId = stored.id ∧
          acknowledgement' = NodeCommand.canonicalizeAcknowledgement report := by
  cases hacknowledged with
  | replayed => exact h.stored
  | recorded =>
    intro stored hstored hnode acknowledgement' hsome
    obtain ⟨before, hbefore, rfl⟩ := List.mem_map.1 hstored
    split_ifs at hnode hsome with hid
    · refine ⟨acknowledgement, h.sent acknowledgement hsent, ?_, (some.inj hsome).symm⟩
      rw [if_pos hid]
      exact hid.symm
    · rw [if_neg hid]
      exact h.stored before hbefore hnode acknowledgement' hsome

/-- The parts of the invariant that a begun command changes. -/
theorem StreamInv.begun (h : StreamInv X nodeId s) {rest : List NodeCommandEnvelope}
    {decision : JournalDecision} (hphase : s.agent.phase = .idle) (hinbox : s.inbox = envelope :: rest)
    (hbegun : Begun (X := X) s.agent.journal envelope decision journal) :
    (∀ entry ∈ journal.entries.rows, Queued X s.control entry.envelope) ∧
      (∀ envelope ∈ rest, Queued X s.control envelope) ∧ Follows journal (envelope :: rest) := by
  have hqueued := forall_mem_cons.1 (hinbox ▸ h.inbox)
  refine ⟨fun entry hentry => ?_, hqueued.2, ?_⟩
  · rcases hbegun.mem_rows hentry with heq | hentry
    · rw [heq]
      exact hqueued.1
    · exact h.journaled entry hentry
  · have hfollows := h.follows.keeps hbegun.keeps
    simpa only [CommandStream.pending, hphase, hinbox, Phase.command?, toList_none,
      nil_append] using hfollows

theorem streamInv_step (hstep : StreamStep X s action s') (h : StreamInv X nodeId s) :
    StreamInv X nodeId s' := by
  have hcontrol := keepsCommands_step hstep
  have hqueue := queueInv_step hstep h.queue
  obtain ⟨action', hnodeStep⟩ := nodeStep_of_streamStep hstep
  have hkeeps := keeps_step hnodeStep
  have hnodeInv := nodeInv_step hnodeStep h.node
  have hjournaled : ∀ entry ∈ s.agent.journal.entries.rows, Queued X s'.control entry.envelope :=
    fun entry hentry => (h.journaled entry hentry).keeps hcontrol
  have hinboxed : ∀ envelope ∈ s.inbox, Queued X s'.control envelope :=
    fun envelope henvelope => (h.inbox envelope henvelope).keeps hcontrol
  have hsents : ∀ acknowledgement ∈ s.acknowledgements, Reported s'.agent.journal acknowledgement :=
    fun acknowledgement hack => (h.sent acknowledgement hack).keeps hkeeps
  have hreports : ∀ new, Reported s'.agent.journal new →
      ∀ acknowledgement ∈ s.acknowledgements ++ [new], Reported s'.agent.journal acknowledgement :=
    fun new hnew => forall_mem_append.2 ⟨hsents, forall_mem_singleton.2 hnew⟩
  cases hstep with
  | stay => exact h
  | enqueued draft write control henqueue =>
    exact ⟨hnodeInv, h.identity, hqueue, hjournaled, hinboxed, h.follows, h.sent,
      h.stored_keeps (acknowledged_before_of_enqueued (enqueueCommand_ok henqueue))
        hkeeps⟩
  | leased =>
    exact ⟨hnodeInv, h.identity, hqueue, hjournaled, hinboxed, h.follows, h.sent,
      h.stored_keeps (acknowledged_before_of_same (leaseCommands_same _ _ _ _ _)) hkeeps⟩
  | received request leaseId now leasedUntil delivered response hlease hphase hnode hafter =>
    refine ⟨hnodeInv, h.identity, hqueue, hjournaled, ?_, ?_, h.sent,
      h.stored_keeps (acknowledged_before_of_same (leaseCommands_same _ _ _ _ _)) hkeeps⟩
    · intro envelope henvelope
      obtain ⟨stored, hget, -, heq⟩ :=
        (leaseCommands_inOrder (hnode.trans h.identity ▸ h.queue) hlease).opened envelope henvelope
      exact Queued.keeps ⟨stored, hget, heq⟩ hcontrol
    · have hfollows := follows_received h (hnode.trans h.identity) hafter hlease
      simpa only [CommandStream.pending, hphase, Phase.command?, toList_none,
        nil_append] using hfollows
  | begun envelope rest journal hphase hinbox hbegin =>
    obtain ⟨hentries, hrest, hfollows⟩ := h.begun hphase hinbox (beginSync_ok hbegin).2.2.2.2.2
    exact ⟨hnodeInv, h.identity, hqueue, hentries, hrest, hfollows, hsents,
      h.stored_keeps (acknowledged_before_of_same (SameCommands.refl _)) hkeeps⟩
  | replayed envelope rest acknowledgement journal hphase hinbox hbegin =>
    have hbegun := (beginSync_ok hbegin).2.2.2.2.2
    obtain ⟨hreported, hcompleted⟩ := hbegun.reported
    obtain ⟨hentries, hrest, hfollows⟩ := h.begun hphase hinbox hbegun
    refine ⟨hnodeInv, h.identity, hqueue, hentries, hrest, ?_, hreports _ hreported,
      h.stored_keeps (acknowledged_before_of_same (SameCommands.refl _)) hkeeps⟩
    have htail := hfollows.tail hcompleted
    simpa only [CommandStream.pending, hphase, Phase.command?, toList_none,
      nil_append] using htail
  | dispatched envelope io hphase =>
    refine ⟨hnodeInv, h.identity, hqueue, h.journaled, h.inbox, ?_, h.sent, h.stored⟩
    have hfollows := h.follows
    rw [CommandStream.pending, hphase] at hfollows
    exact hfollows
  | completed envelope completion applied acknowledgement journal hphase hcomplete =>
    have hcompleted := (completeSync_ok hcomplete).2.2.2
    refine ⟨hnodeInv, h.identity, hqueue, ?_, h.inbox, ?_, hreports _ hcompleted.reported,
      h.stored_keeps (acknowledged_before_of_same (SameCommands.refl _)) hkeeps⟩
    · intro entry hentry
      obtain ⟨before, hbefore, heq⟩ := hcompleted.mem_rows hentry
      rw [← heq]
      exact h.journaled before hbefore
    · have hfollows := h.follows.keeps hkeeps
      rw [CommandStream.pending, hphase] at hfollows
      obtain ⟨entry, hget, rfl, -⟩ := h.node.running envelope (by rw [hphase]; rfl)
      exact hfollows.tail (hcompleted.completedAt hget)
  | stopped action agent hagent =>
    subst hagent
    exact ⟨hnodeInv, h.identity, hqueue, h.journaled, by simp, follows_nil _, h.sent, h.stored⟩
  | reported commandId entry acknowledgement hget hacknowledgement =>
    refine ⟨hnodeInv, h.identity, hqueue, h.journaled, h.inbox, h.follows, hreports _ ?_, h.stored⟩
    obtain ⟨hrow, hid⟩ := get?_eq_some_iff.1 hget
    exact reported_acknowledgement (get?_eq_some_iff.2 ⟨hrow, rfl⟩) hacknowledgement
  | acknowledged acknowledgement write control receipts hsent hacknowledge =>
    exact ⟨hnodeInv, h.identity, hqueue, hjournaled, hinboxed, h.follows, h.sent,
      h.stored_acknowledged hsent (acknowledgeCommand_ok hacknowledge)⟩
  | marked receipt journal hphase hmark =>
    obtain ⟨-, -, -, entry', -, -, rfl⟩ := markAcknowledgedSync_ok hmark
    refine ⟨hnodeInv, h.identity, hqueue, ?_, h.inbox, h.follows.keeps hkeeps, hsents,
      h.stored_keeps (acknowledged_before_of_same (SameCommands.refl _)) hkeeps⟩
    intro entry hentry
    obtain ⟨before, hbefore, rfl⟩ := List.mem_map.1 hentry
    have hqueued := h.journaled before hbefore
    split_ifs <;> exact hqueued

theorem streamInv_run (hnode : nodeId ≠ 0) (hfresh : control.Fresh nodeId)
    (actions : List StreamAction) :
    StreamInv X nodeId (run (step X) (init control nodeId) actions) :=
  invariant_all (fun s action hs => streamInv_step (streamStep_step s action) hs)
    (streamInv_init hnode hfresh) actions

end A3SCloud
