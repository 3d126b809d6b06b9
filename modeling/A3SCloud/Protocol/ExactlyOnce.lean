import A3SCloud.Protocol.CommandStream

/-!
# Exactly-once outcomes

Over every run of a command stream, with lost and repeated messages and crashes anywhere:

* `DispatchInv`: commands are first dispatched in the order of their sequences, and none is
  dispatched after its completion was journaled.
* `exactlyOnce_run` joins this with what the queue and the journal keep: an outcome that was journaled
  or acknowledged stays as it is, and both sides agree on it.
* `reports_kept`: the node reports an outcome until the control plane has it.
-/

namespace A3SCloud

open Checks Runs List CommandJournal CommandStream Sample

variable {X : External}

/-! ### Dispatches -/

/-- The commands before a dispatched one were dispatched before it. -/
def DispatchedInOrder (history : List NodeEvent) : Prop :=
  ∀ before envelope after, history = before ++ .dispatched envelope :: after →
    ∀ sequence, 1 ≤ sequence → sequence < envelope.sequence →
      ∃ earlier, .dispatched earlier ∈ before ∧ earlier.sequence = sequence

/-- No command is dispatched after its completion. -/
def DispatchedOnce (history : List NodeEvent) : Prop :=
  ∀ before envelope after, history = before ++ .dispatched envelope :: after →
    ∀ earlier completion, .completed earlier completion ∈ before →
      earlier.commandId ≠ envelope.commandId

/-- What the history of a node says about its journal. -/
structure DispatchInv (s : AgentState) : Prop where
  /-- A completed command was dispatched. -/
  dispatched : ∀ entry ∈ s.journal.entries.rows, entry.completion ≠ none →
    ∃ envelope, .dispatched envelope ∈ s.history ∧ envelope.sequence = entry.sequence
  running : ∀ envelope completion applied, s.phase = .dispatched envelope completion applied →
    .dispatched envelope ∈ s.history
  completed : ∀ envelope completion, .completed envelope completion ∈ s.history →
    ∃ entry, s.journal.entries.get? envelope.commandId = some entry ∧
      entry.completion = some completion
  inOrder : DispatchedInOrder s.history
  once : DispatchedOnce s.history

variable {history : List NodeEvent} {event : NodeEvent} {envelope : NodeCommandEnvelope}
  {journal journal' : CommandJournal} {entry : JournalEntry} {completion : JournalCompletion}
  {s : AgentState}

/-- Events other than dispatches may follow at any time. -/
theorem DispatchedInOrder.concat (h : DispatchedInOrder history)
    (hevent : ∀ envelope, event ≠ .dispatched envelope) :
    DispatchedInOrder (history ++ [event]) := by
  intro before envelope after hsplit
  rcases concat_eq_split hsplit with ⟨-, heq, -⟩ | ⟨after', -, hsplit'⟩
  · exact absurd heq.symm (hevent envelope)
  · exact h before envelope after' hsplit'

theorem DispatchedOnce.concat (h : DispatchedOnce history)
    (hevent : ∀ envelope, event ≠ .dispatched envelope) : DispatchedOnce (history ++ [event]) := by
  intro before envelope after hsplit
  rcases concat_eq_split hsplit with ⟨-, heq, -⟩ | ⟨after', -, hsplit'⟩
  · exact absurd heq.symm (hevent envelope)
  · exact h before envelope after' hsplit'

theorem DispatchedInOrder.dispatch (h : DispatchedInOrder history)
    (hearlier : ∀ sequence, 1 ≤ sequence →
      sequence < envelope.sequence →
        ∃ earlier, .dispatched earlier ∈ history ∧ earlier.sequence = sequence) :
    DispatchedInOrder (history ++ [.dispatched envelope]) := by
  intro before envelope' after hsplit
  rcases concat_eq_split hsplit with ⟨rfl, heq, -⟩ | ⟨after', -, hsplit'⟩
  · cases heq
    exact hearlier
  · exact h before envelope' after' hsplit'

theorem DispatchedOnce.dispatch (h : DispatchedOnce history) (hopen : ∀ earlier completion,
      .completed earlier completion ∈ history → earlier.commandId ≠ envelope.commandId) :
    DispatchedOnce (history ++ [.dispatched envelope]) := by
  intro before envelope' after hsplit
  rcases concat_eq_split hsplit with ⟨rfl, heq, -⟩ | ⟨after', -, hsplit'⟩
  · cases heq
    exact hopen
  · exact h before envelope' after' hsplit'

theorem dispatchInv_init (nodeId : Uuid) : DispatchInv (AgentState.init nodeId) where
  dispatched := by simp [AgentState.init, empty]
  running := by simp [AgentState.init]
  completed := by simp [AgentState.init]
  inOrder := by
    intro before envelope after hsplit
    cases before <;> cases hsplit
  once := by
    intro before envelope after hsplit
    cases before <;> cases hsplit

theorem Begun.completed_before {decision : JournalDecision}
    (h : Begun (X := X) journal envelope decision journal') (hentry : entry ∈ journal'.entries.rows)
    (hcompletion : entry.completion ≠ none) : CompletedAt journal entry.sequence := by
  cases h with
  | redelivered =>
    obtain ⟨before, hbefore, rfl⟩ := mem_map.1 hentry
    refine ⟨before, hbefore, ?_, ?_⟩
    · split_ifs <;> rfl
    · split_ifs at hcompletion <;> exact hcompletion
  | received fenced hget hsequence hfence =>
    rw [rows_receive hfence hget, mem_append, mem_singleton] at hentry
    rcases hentry with hentry | rfl
    · exact ⟨entry, hentry, rfl, hcompletion⟩
    · exact absurd rfl hcompletion

theorem Completed.completed_before {commandId : Uuid} {acknowledgement : NodeCommandAck}
    (h : Completed journal commandId completion acknowledgement journal')
    (hentry : entry ∈ journal'.entries.rows) (hcompletion : entry.completion ≠ none) :
    CompletedAt journal entry.sequence ∨ ∃ before, journal.entries.get? commandId = some before ∧
      before.sequence = entry.sequence := by
  cases h with
  | replayed =>
    exact .inl ⟨entry, hentry, rfl, hcompletion⟩
  | recorded _ =>
    obtain ⟨before, hbefore, rfl⟩ := mem_map.1 hentry
    by_cases hid : before.commandId = commandId
    · right
      refine ⟨before, Table.get?_eq_some_iff.2 ⟨hbefore, hid⟩, ?_⟩
      rw [if_pos hid]
      rfl
    · left
      rw [if_neg hid] at hcompletion ⊢
      exact ⟨before, hbefore, rfl, hcompletion⟩

theorem DispatchInv.dispatched_of_completedAt (h : DispatchInv s) {sequence : ℕ}
    (hcompleted : CompletedAt s.journal sequence) :
    ∃ envelope, .dispatched envelope ∈ s.history ∧ envelope.sequence = sequence := by
  obtain ⟨entry, hentry, rfl, hcompletion⟩ := hcompleted
  exact h.dispatched entry hentry hcompletion

theorem DispatchInv.completed_keeps (h : DispatchInv s) (hkeeps : KeepsEntries s.journal journal)
    (hevent : .completed envelope completion ∈ s.history) :
    ∃ entry, journal.entries.get? envelope.commandId = some entry ∧
      entry.completion = some completion := by
  obtain ⟨entry, hget, hcompletion⟩ := h.completed envelope completion hevent
  obtain ⟨entry', hget', hkept⟩ := hkeeps _ _ hget
  exact ⟨entry', hget', hkept.completion completion hcompletion⟩

/-- The events of a dispatch keep the order of the dispatches. -/
theorem DispatchInv.dispatch_events (h : DispatchInv s) (hearlier : ∀ sequence, 1 ≤ sequence →
      sequence < envelope.sequence →
        ∃ earlier, .dispatched earlier ∈ s.history ∧ earlier.sequence = sequence)
    (hrunning : ∃ entry, s.journal.entries.get? envelope.commandId = some entry ∧
      entry.envelope = envelope ∧ entry.completion = none) (applied : Bool) :
    DispatchedInOrder (s.history ++ dispatchEvents envelope applied) ∧
      DispatchedOnce (s.history ++ dispatchEvents envelope applied) := by
  have hopen : ∀ earlier completion, .completed earlier completion ∈ s.history →
      earlier.commandId ≠ envelope.commandId := by
    intro earlier completion hevent heq
    obtain ⟨entry, hget, -, hnone⟩ := hrunning
    obtain ⟨entry', hget', hcompletion⟩ := h.completed earlier completion hevent
    rw [heq, hget, Option.some.injEq] at hget'
    subst hget'
    rw [hnone] at hcompletion
    cases hcompletion
  have hinOrder := h.inOrder.dispatch hearlier
  have honce := h.once.dispatch hopen
  cases applied with
  | false => exact ⟨hinOrder, honce⟩
  | true =>
    have hsplit : s.history ++ dispatchEvents envelope true =
        s.history ++ [.dispatched envelope] ++ [.runtimeApplied envelope] := by
      simp [dispatchEvents]
    have hnot : ∀ envelope', NodeEvent.runtimeApplied envelope ≠ .dispatched envelope' := by
      intro envelope' heq
      cases heq
    rw [hsplit]
    exact ⟨hinOrder.concat hnot, honce.concat hnot⟩

theorem dispatchInv_step {s s' : CommandStream} {action : StreamAction} {nodeId : Uuid}
    (hstep : StreamStep X s action s') (hs : StreamInv X nodeId s) (h : DispatchInv s.agent) :
    DispatchInv s'.agent := by
  obtain ⟨action', hnodeStep⟩ := nodeStep_of_streamStep hstep
  have hkeeps := keeps_step hnodeStep
  cases hstep with
  | begun envelope rest journal hphase hinbox hbegin =>
    have hbegun := (beginSync_ok hbegin).2.2.2.2.2
    refine ⟨fun entry hentry hcompletion => ?_, fun _ _ _ hphase' => ?_,
      fun _ _ hevent => h.completed_keeps hkeeps hevent, h.inOrder, h.once⟩
    · exact h.dispatched_of_completedAt (hbegun.completed_before hentry hcompletion)
    · cases hphase'
  | replayed envelope rest acknowledgement journal hphase hinbox hbegin =>
    have hbegun := (beginSync_ok hbegin).2.2.2.2.2
    refine ⟨fun entry hentry hcompletion => ?_, h.running,
      fun _ _ hevent => h.completed_keeps hkeeps hevent, h.inOrder, h.once⟩
    exact h.dispatched_of_completedAt (hbegun.completed_before hentry hcompletion)
  | dispatched envelope io hphase =>
    have hfollows := hs.follows
    rw [CommandStream.pending, hphase] at hfollows
    obtain ⟨hinOrder, honce⟩ := h.dispatch_events
      (fun sequence hone hlt => h.dispatched_of_completedAt (hfollows.completedAt hone hlt))
      (hs.node.running envelope (by rw [hphase]; rfl))
      (applyReturned X s.agent.nodeId s.agent.journal envelope io)
    refine ⟨fun entry hentry hcompletion => ?_, fun envelope' completion applied hphase' => ?_,
      fun envelope' completion hevent => ?_, hinOrder, honce⟩
    · obtain ⟨envelope', hevent, hsequence⟩ := h.dispatched entry hentry hcompletion
      exact ⟨envelope', mem_append_left _ hevent, hsequence⟩
    · cases hphase'
      exact mem_append_right _ mem_cons_self
    · rcases mem_append.1 hevent with hevent | hevent
      · exact h.completed envelope' completion hevent
      · simp only [dispatchEvents, mem_cons, reduceCtorEq, false_or] at hevent
        split_ifs at hevent
        · cases mem_singleton.1 hevent
        · cases hevent
  | completed envelope completion applied acknowledgement journal hphase hcomplete =>
    have hcompleted := (completeSync_ok hcomplete).2.2.2
    obtain ⟨running, hget, henvelope, -⟩ := hs.node.running envelope (by rw [hphase]; rfl)
    have hnot : ∀ envelope', NodeEvent.completed envelope completion ≠ .dispatched envelope' := by
      intro envelope' heq
      cases heq
    refine ⟨fun entry hentry hcompletion => ?_, fun _ _ _ hphase' => ?_,
      fun envelope' completion' hevent => ?_, h.inOrder.concat hnot, h.once.concat hnot⟩
    · rcases hcompleted.completed_before hentry hcompletion with hdone | ⟨before, hbefore, hsequence⟩
      · obtain ⟨envelope', hevent, hsequence⟩ := h.dispatched_of_completedAt hdone
        exact ⟨envelope', mem_append_left _ hevent, hsequence⟩
      · cases hget.symm.trans hbefore
        refine ⟨envelope, mem_append_left _ (h.running _ _ _ hphase), ?_⟩
        rw [← hsequence, JournalEntry.sequence, henvelope]
    · cases hphase'
    · rcases mem_append.1 hevent with hevent | hevent
      · exact h.completed_keeps hkeeps hevent
      · cases mem_singleton.1 hevent
        obtain ⟨entry, hget', henvelope', -, rfl⟩ :=
          hs.node.completeSync_ok (by rw [hphase]; rfl) hcomplete
        subst henvelope'
        refine ⟨entry.complete completion, ?_, rfl⟩
        rw [CommandJournal.complete, Table.get?_modify]
        exact (if_pos rfl).trans (congrArg (Option.map (JournalEntry.complete completion)) hget')
  | stopped action agent hagent =>
    subst hagent
    refine ⟨h.dispatched, fun _ _ _ hphase => ?_, h.completed, h.inOrder, h.once⟩
    cases hphase
  | marked receipt journal hphase hmark =>
    obtain ⟨-, -, -, entry', -, -, rfl⟩ := markAcknowledgedSync_ok hmark
    refine ⟨fun entry hentry hcompletion => ?_, h.running,
      fun _ _ hevent => h.completed_keeps hkeeps hevent, h.inOrder, h.once⟩
    obtain ⟨before, hbefore, rfl⟩ := mem_map.1 hentry
    refine h.dispatched_of_completedAt ⟨before, hbefore, ?_, ?_⟩
    · split_ifs <;> rfl
    · split_ifs at hcompletion <;> exact hcompletion
  | _ => exact h

/-! ### The outcome of a command -/

theorem keepsEntries_run (s : CommandStream) (actions : List StreamAction) :
    KeepsEntries s.agent.journal (run (step X) s actions).agent.journal ∧
      KeepsCommands s.control (run (step X) s actions).control := by
  induction actions generalizing s with
  | nil => exact ⟨KeepsEntries.refl _, KeepsCommands.refl _⟩
  | cons action actions ih =>
    have hstep := streamStep_step (X := X) s action
    obtain ⟨action', hnodeStep⟩ := nodeStep_of_streamStep hstep
    obtain ⟨hjournal, hcontrol⟩ := ih (s.step X action)
    exact ⟨(keeps_step hnodeStep).trans hjournal, (keepsCommands_step hstep).trans hcontrol⟩

variable (X) in
/-- A state of a stream, and a later one: what each side knows about its commands. -/
structure ExactlyOnce (nodeId : Uuid) (s s' : CommandStream) : Prop where
  /-- The sequences of the journal are `1, …, n`. -/
  sequences : s.agent.journal.entries.rows.map JournalEntry.sequence =
    range' 1 s.agent.journal.lastReceivedSequence
  inOrder : DispatchedInOrder s.agent.history
  once : DispatchedOnce s.agent.history
  /-- A journaled outcome stays. -/
  journaled : ∀ commandId entry completion,
    s.agent.journal.entries.get? commandId = some entry → entry.completion = some completion →
      ∃ entry', s'.agent.journal.entries.get? commandId = some entry' ∧
        entry'.completion = some completion
  /-- An acknowledgement that the control plane has stored stays. -/
  stored : ∀ commandId stored acknowledgement,
    s.control.commands.get? commandId = some stored →
      stored.acknowledgement = some acknowledgement →
        ∃ stored', s'.control.commands.get? commandId = some stored' ∧
          stored'.acknowledgement = some acknowledgement
  /-- It is the report of the outcome in the journal, up to the precision of its times. -/
  agrees : ∀ commandId stored acknowledgement,
    s.control.commands.get? commandId = some stored → stored.command.nodeId = nodeId →
      stored.acknowledgement = some acknowledgement →
        ∃ entry completion leaseId, s.agent.journal.entries.get? commandId = some entry ∧
          entry.completion = some completion ∧
          acknowledgement = NodeCommand.canonicalizeAcknowledgement
            (JournalEntry.report (entry.envelope.withLease leaseId) completion)
  leases : ∀ request leaseId now leasedUntil response, request.nodeId = nodeId →
    (s.control.leaseCommands X request leaseId now leasedUntil).1 = .ok response →
      LeasedInOrder X s.control request response.commands

/-- **Exactly-once outcomes**: in every reachable state of a stream, whatever happens later. -/
theorem exactlyOnce_run {control : NodeControl} {nodeId : Uuid} (hnode : nodeId ≠ 0)
    (hfresh : control.Fresh nodeId) (actions later : List StreamAction) :
    ExactlyOnce X nodeId (run (step X) (init control nodeId) actions)
      (run (step X) (init control nodeId) (actions ++ later)) := by
  have hstream := streamInv_run (X := X) hnode hfresh actions
  have hdispatch : DispatchInv
      (run (step X) (init control nodeId) actions).agent := by
    have hboth := invariant_all (I := fun s => StreamInv X nodeId s ∧ DispatchInv s.agent)
      (fun s action hs => ⟨streamInv_step (streamStep_step s action) hs.1,
        dispatchInv_step (streamStep_step s action) hs.1 hs.2⟩)
      ⟨streamInv_init hnode hfresh, dispatchInv_init nodeId⟩ actions
    exact hboth.2
  rw [run_append]
  generalize run (step X) (init control nodeId) actions = s at *
  obtain ⟨hjournal, hcontrol⟩ := keepsEntries_run (X := X) s later
  refine ⟨sequences_eq_range hstream.node.valid hstream.node.ordered,
    hdispatch.inOrder, hdispatch.once, ?_, ?_, ?_, ?_⟩
  · intro commandId entry completion hget hcompletion
    obtain ⟨entry', hget', hkept⟩ := hjournal commandId entry hget
    exact ⟨entry', hget', hkept.completion completion hcompletion⟩
  · intro commandId stored acknowledgement hget hsome
    obtain ⟨stored', hget', hkept⟩ := hcontrol commandId stored hget
    exact ⟨stored', hget', hkept.acknowledgement acknowledgement hsome⟩
  · intro commandId stored acknowledgement hget hstoredNode hsome
    obtain ⟨hrow, hid⟩ := Table.get?_eq_some_iff.1 hget
    obtain ⟨report, ⟨entry, completion, leaseId, hentry, hcompletion, heq⟩, hreport, rfl⟩ :=
      hstream.stored stored hrow hstoredNode acknowledgement hsome
    refine ⟨entry, completion, leaseId, ?_, hcompletion, by rw [heq]⟩
    rw [← hid, ← hreport]
    exact hentry
  · intro request leaseId now leasedUntil response hrequest hlease
    exact leaseCommands_inOrder (hrequest ▸ hstream.queue) hlease

namespace Sample

def prepareDraft : NodeCommandDraft where
  proposedCommandId := 101
  nodeId := nodeId
  aggregateId := claimId
  payload := .resourceClaimPrepare prepare
  issuedAt := seconds 10
  notAfter := seconds 19
  correlationId := 5

def leaseRequest : NodeCommandLeaseRequest where
  schema := .current
  nodeId := nodeId
  agentInstanceId := 4
  afterSequence := 0
  maxCommands := 8
  waitMs := 0

def prepareReport : NodeCommandAck :=
  JournalEntry.report ((command 1 claimId (.resourceClaimPrepare prepare)).withLease 201)
    ⟨seconds 11, .succeeded (.resourceClaimPrepared (claimEvidence external prepare (seconds 11)))⟩

/-- The node crashes before it reports the prepare, and reports it under the next lease. -/
def crashAndReplay : List StreamAction := [
  .enqueue prepareDraft,
  .lease leaseRequest 200 (seconds 10) (seconds 15) true,
  .execute, .dispatch (io (seconds 11)), .complete, .crash,
  .lease leaseRequest 201 (seconds 16) (seconds 30) true,
  .execute, .acknowledge prepareReport]

end Sample

/-- The acknowledgement of the prepare is stored, and agrees with the journal. -/
theorem exactlyOnce_after_crash :
    ∃ stored acknowledgement entry completion leaseId,
      (run (step external)
        (init freshControl Sample.nodeId)
        crashAndReplay).control.commands.get? 101 = some stored ∧
      stored.acknowledgement = some acknowledgement ∧
      (run (step external)
        (init freshControl Sample.nodeId)
        crashAndReplay).agent.journal.entries.get? 101 = some entry ∧
      entry.completion = some completion ∧
      acknowledgement = NodeCommand.canonicalizeAcknowledgement
        (JournalEntry.report (entry.envelope.withLease leaseId) completion) := by
  have hstored : ((run (step external)
      (init freshControl Sample.nodeId)
      crashAndReplay).control.commands.get? 101).map
        (fun stored => (stored.command.nodeId, stored.acknowledgement.isSome)) =
          some (Sample.nodeId, true) := by
    decide +kernel
  obtain ⟨stored, hget, hpair⟩ := Option.map_eq_some_iff.1 hstored
  obtain ⟨hnode, hisSome⟩ := Prod.mk.inj hpair
  obtain ⟨acknowledgement, hsome⟩ := Option.isSome_iff_exists.1 hisSome
  obtain ⟨entry, completion, leaseId, hentry, hcompletion, heq⟩ :=
    (exactlyOnce_run (X := external) (by decide) freshControl_fresh
      crashAndReplay []).agrees 101 stored acknowledgement hget hnode hsome
  exact ⟨stored, acknowledgement, entry, completion, leaseId, hget, hsome, hentry, hcompletion, heq⟩

/-! ### No report is lost -/

section Reports

variable {control control' : NodeControl} {commandId nodeId : Uuid} {s s' : CommandStream}
  {action : StreamAction} {journal journal' : CommandJournal}

/-- The control plane has stored an acknowledgement of the command. -/
def Confirmed (control : NodeControl) (commandId : Uuid) : Prop :=
  ∃ stored acknowledgement, control.commands.get? commandId = some stored ∧
    stored.acknowledgement = some acknowledgement

theorem Confirmed.keeps (h : Confirmed control commandId) (hkeeps : KeepsCommands control control') :
    Confirmed control' commandId := by
  obtain ⟨stored, acknowledgement, hget, hsome⟩ := h
  obtain ⟨stored', hget', hkept⟩ := hkeeps commandId stored hget
  exact ⟨stored', acknowledgement, hget', hkept.acknowledgement acknowledgement hsome⟩

theorem NodeControl.Acknowledged.confirmed {acknowledgement : NodeCommandAck}
    {write : IdempotentWrite NodeCommandAck}
    (h : Acknowledged X control acknowledgement write control') :
    Confirmed control' write.value.commandId := by
  cases h with
  | replayed stored hget hsome => exact ⟨stored, _, hget, hsome⟩
  | recorded stored hget =>
    refine ⟨stored.withAcknowledgement (NodeCommand.canonicalizeAcknowledgement acknowledgement), _,
      ?_, rfl⟩
    rw [Table.get?_modify]
    exact (if_pos rfl).trans (congrArg (Option.map _) hget)

/-- The command is marked as acknowledged. -/
def CommandJournal.Marks (journal : CommandJournal) (commandId : Uuid) : Prop :=
  ∃ entry ∈ journal.entries.rows, entry.commandId = commandId ∧ entry.acknowledged = true

theorem Begun.marks {envelope : NodeCommandEnvelope} {decision : JournalDecision}
    (h : Begun (X := X) journal envelope decision journal') (hmarks : journal'.Marks commandId) :
    journal.Marks commandId := by
  obtain ⟨entry, hentry, hid, hmark⟩ := hmarks
  cases h with
  | redelivered =>
    obtain ⟨before, hbefore, rfl⟩ := mem_map.1 hentry
    split_ifs at hid hmark <;> exact ⟨before, hbefore, hid, hmark⟩
  | received fenced hget hsequence hfence =>
    rw [rows_receive hfence hget, mem_append, mem_singleton] at hentry
    rcases hentry with hentry | rfl
    · exact ⟨entry, hentry, hid, hmark⟩
    · cases hmark

/-- Only a receipt of the command marks it. -/
theorem marks_before (hstep : StreamStep X s action s') (hmarks : s'.agent.journal.Marks commandId) :
    s.agent.journal.Marks commandId ∨
      ∃ receipt, action = .markAcknowledged receipt ∧ receipt.commandId = commandId := by
  cases hstep with
  | begun envelope rest journal hphase hinbox hbegin =>
    exact .inl ((beginSync_ok hbegin).2.2.2.2.2.marks hmarks)
  | replayed envelope rest acknowledgement journal hphase hinbox hbegin =>
    exact .inl ((beginSync_ok hbegin).2.2.2.2.2.marks hmarks)
  | completed envelope completion applied acknowledgement journal hphase hcomplete =>
    left
    cases (completeSync_ok hcomplete).2.2.2 with
    | replayed => exact hmarks
    | recorded =>
      obtain ⟨entry, hentry, hid, hmark⟩ := hmarks
      obtain ⟨before, hbefore, rfl⟩ := mem_map.1 hentry
      split_ifs at hid hmark <;> exact ⟨before, hbefore, hid, hmark⟩
  | stopped action agent hagent =>
    subst hagent
    exact .inl hmarks
  | marked receipt journal hphase hmark =>
    obtain ⟨-, -, -, _, -, -, rfl⟩ := markAcknowledgedSync_ok hmark
    obtain ⟨entry, hentry, hid, hmark⟩ := hmarks
    obtain ⟨before, hbefore, rfl⟩ := mem_map.1 hentry
    split_ifs at hid hmark with hreceipt
    · exact .inr ⟨receipt, rfl, hreceipt.symm.trans hid⟩
    · exact .inl ⟨before, hbefore, hid, hmark⟩
  | _ => exact .inl hmarks

/-- The receipts and the marks of the journal stand for stored acknowledgements. -/
structure Confirms (s : CommandStream) : Prop where
  receipts : ∀ receipt ∈ s.receipts, Confirmed s.control receipt.commandId
  marked : ∀ commandId, s.agent.journal.Marks commandId → Confirmed s.control commandId

theorem receipts_before {receipt : NodeCommandAckReceipt} (hstep : StreamStep X s action s')
    (hreceipt : receipt ∈ s'.receipts) :
    receipt ∈ s.receipts ∨ ∃ acknowledgement, action = .acknowledge acknowledgement := by
  cases hstep with
  | acknowledged acknowledgement => exact .inr ⟨acknowledgement, rfl⟩
  | _ => exact .inl hreceipt

theorem confirms_step (h : Confirms s) (action : StreamAction) : Confirms (s.step X action) := by
  have hstep := streamStep_step (X := X) s action
  have hkeeps := keepsCommands_step hstep
  refine ⟨fun receipt hreceipt => ?_, fun commandId hmarks => ?_⟩
  · rcases receipts_before hstep hreceipt with hbefore | ⟨acknowledgement, rfl⟩
    · exact (h.receipts receipt hbefore).keeps hkeeps
    · rw [step, CommandStream.acknowledge] at hreceipt hkeeps ⊢
      split_ifs at hreceipt hkeeps ⊢ with hsent
      · cases hacknowledge : s.control.acknowledgeCommand X acknowledgement with
        | error => exact h.receipts receipt (by simpa only [hacknowledge] using hreceipt)
        | ok =>
          simp only [hacknowledge] at hreceipt hkeeps ⊢
          rcases mem_append.1 hreceipt with hbefore | hnew
          · exact (h.receipts receipt hbefore).keeps hkeeps
          · rw [mem_singleton.1 hnew]
            exact (NodeControl.acknowledgeCommand_ok hacknowledge).confirmed
      · exact h.receipts receipt hreceipt
  · rcases marks_before hstep hmarks with hbefore | ⟨receipt, rfl, rfl⟩
    · exact (h.marked commandId hbefore).keeps hkeeps
    · by_cases hreceipt : receipt ∈ s.receipts
      · exact (h.receipts receipt hreceipt).keeps hkeeps
      · rw [step, if_neg hreceipt] at hmarks
        exact (h.marked receipt.commandId hmarks).keeps hkeeps

theorem confirms_run (control : NodeControl) (nodeId : Uuid) (actions : List StreamAction) :
    Confirms (run (step X) (init control nodeId) actions) :=
  invariant_all (I := Confirms) (fun _ action hs => confirms_step hs action)
    ⟨fun _ h => absurd h not_mem_nil, fun _ h => absurd h.choose_spec.1 not_mem_nil⟩ actions

/-- A valid journal answers with the report of every completion that is not marked. -/
theorem pendingAcknowledgementsSync_ok (hnode : journal.nodeId = nodeId) (hvalid : journal.Valid X) :
    ∃ pending, pendingAcknowledgementsSync X nodeId journal = .ok pending ∧
      ∀ entry ∈ journal.entries.rows, ∀ completion, entry.completion = some completion →
        JournalEntry.report entry.envelope completion ∈ pending ∨ entry.acknowledged = true := by
  have hreport : ∀ entry ∈ journal.entries.rows, ∀ completion, entry.completion = some completion →
      entry.acknowledgement X = .ok (some (JournalEntry.report entry.envelope completion)) :=
    fun entry hentry completion hsome => acknowledgement_ok_iff.2
      ⟨by rw [hsome, Option.map_some], (hvalid.entries entry hentry).completion⟩
  obtain ⟨pending, hok⟩ : ∃ pending, pendingAcknowledgementsSync X nodeId journal = .ok pending := by
    simp only [pendingAcknowledgementsSync, ok_rules, readJournal_ok_iff, exists_and_left,
      exists_mapAll_ok_iff, bySequence, mem_insertionSort, mem_filter, Bool.and_eq_true]
    refine ⟨⟨hnode, hvalid⟩, fun entry hentry => ?_⟩
    obtain ⟨completion, hsome⟩ := Option.isSome_iff_exists.1 hentry.2.2
    exact ⟨_, _, hreport entry hentry.1 completion hsome, rfl⟩
  refine ⟨pending, hok, fun entry hentry completion hsome => ?_⟩
  simp only [pendingAcknowledgementsSync, ok_rules, mapAll_ok_iff] at hok
  cases hmark : entry.acknowledged with
  | true => exact .inr rfl
  | false =>
    obtain ⟨report, hin, _, heq, rfl⟩ := exists_right_of_mem (a := entry) hok.2
      (by simp [bySequence, hentry, hmark, hsome])
    cases heq.symm.trans (hreport entry hentry completion hsome)
    exact .inl hin

/-- The command of an entry is one of the node, under the sequence of the entry. -/
theorem StreamInv.queued_row (h : StreamInv X nodeId s) {entry : JournalEntry}
    (hentry : entry ∈ s.agent.journal.entries.rows) {stored : StoredNodeCommand}
    (hget : s.control.commands.get? entry.commandId = some stored) :
    stored ∈ s.control.commands.rows ∧ stored.command.nodeId = nodeId ∧
      stored.command.sequence = entry.sequence := by
  obtain ⟨queued, hqueued, henvelope⟩ := h.journaled entry hentry
  cases hget.symm.trans hqueued
  refine ⟨(Table.get?_eq_some_iff.1 hget).1, ?_, (congrArg (·.sequence) henvelope).symm⟩
  exact (congrArg (·.nodeId) henvelope).symm.trans
    ((h.node.valid.entries entry hentry).nodeId.trans (h.node.journalNode.trans h.identity))

/-- **No report is lost**: in every reachable state the journal can be asked for its pending
acknowledgements, and each completion is among them until the control plane has stored it. -/
theorem reports_kept (hnode : nodeId ≠ 0) (hfresh : control.Fresh nodeId)
    (actions : List StreamAction) :
    let s := run (step X) (init control nodeId) actions
    ∃ pending, pendingAcknowledgementsSync X nodeId s.agent.journal = .ok pending ∧
      ∀ entry ∈ s.agent.journal.entries.rows, ∀ completion, entry.completion = some completion →
        JournalEntry.report entry.envelope completion ∈ pending ∨
          ∃ leaseId, s.control.commandAcknowledgement nodeId entry.commandId =
            some (NodeCommand.canonicalizeAcknowledgement
              (JournalEntry.report (entry.envelope.withLease leaseId) completion)) := by
  intro s
  have hstream : StreamInv X nodeId s := streamInv_run hnode hfresh actions
  obtain ⟨pending, hok, hpending⟩ := pendingAcknowledgementsSync_ok
    (hstream.node.journalNode.trans hstream.identity) hstream.node.valid
  refine ⟨pending, hok, fun entry hentry completion hsome => ?_⟩
  refine (hpending entry hentry completion hsome).imp_right fun hmark => ?_
  obtain ⟨stored, acknowledgement, hget, hstored⟩ :=
    (confirms_run control nodeId actions).marked entry.commandId ⟨entry, hentry, rfl, hmark⟩
  have hid := (Table.get?_eq_some_iff.1 hget).2
  -- the command is one of this node, so what is stored for it is a report of its journal
  obtain ⟨hrow, hnodeId, -⟩ := hstream.queued_row hentry hget
  obtain ⟨report, ⟨entry', completion', leaseId, hget', hsome', rfl⟩, hreport, rfl⟩ :=
    hstream.stored stored hrow hnodeId acknowledgement hstored
  cases hget'.symm.trans (Table.get?_eq_some_iff.2 ⟨hentry, hid.symm.trans hreport.symm⟩)
  cases hsome.symm.trans hsome'
  refine ⟨leaseId, ?_⟩
  rw [NodeControl.commandAcknowledgement, hget, Option.filter_some, if_pos (by simpa using hnodeId)]
  exact hstored

theorem reports_kept_after_crash :
    let s := run (step external)
      (init freshControl Sample.nodeId) crashAndReplay
    s.agent.journal.entries.rows.any (·.completion.isSome) = true ∧
      ∃ pending, pendingAcknowledgementsSync external Sample.nodeId s.agent.journal =
        .ok pending :=
  ⟨by decide +kernel, (reports_kept (by decide) freshControl_fresh _).imp fun _ h => h.1⟩

/-- **No command is skipped**: the sequence after which the node asks for commands is behind none
that the control plane holds open. -/
theorem cursor_skips_none (hnode : nodeId ≠ 0) (hfresh : control.Fresh nodeId)
    (actions : List StreamAction) :
    let s := run (step X) (init control nodeId) actions
    ∀ stored ∈ s.control.commands.rows, stored.command.nodeId = nodeId →
      stored.acknowledgement = none →
        s.agent.journal.lastAcknowledgedSequence < stored.command.sequence := by
  intro s stored hrow hstoredNode hopen
  have hstream : StreamInv X nodeId s := streamInv_run hnode hfresh actions
  by_contra! hle
  rw [← hstream.node.valid.contiguous] at hle
  have hany := acknowledged_of_le_contiguousFrom
    (Nat.pos_of_ne_zero (hstream.queue.issued stored hrow hstoredNode).sequence) hle
  simp only [any_eq_true, Bool.and_eq_true, decide_eq_true_eq] at hany
  obtain ⟨entry, hentry, hsequence, hmark⟩ := hany
  obtain ⟨stored', acknowledgement, hget, hsome⟩ :=
    (confirms_run control nodeId actions).marked entry.commandId ⟨entry, hentry, rfl, hmark⟩
  obtain ⟨hrow', hnode', hsequence'⟩ := hstream.queued_row hentry hget
  have hid := hstream.queue.unique stored hrow stored' hrow' hstoredNode hnode'
    (hsequence.symm.trans hsequence'.symm)
  rw [s.control.commands.eq_of_key_eq hrow hrow' hid, hsome] at hopen
  cases hopen

/-- The prepare is acknowledged, and a second command is enqueued. -/
def Sample.acknowledgedAndEnqueued : List StreamAction :=
  crashAndReplay ++ [.markAcknowledged ⟨.current, 101, Sample.nodeId, false⟩,
    .enqueue { prepareDraft with
      proposedCommandId := 102
      aggregateId := workloadId
      payload := .runtimeApply (applyRequest none) (some binding) }]

theorem cursor_skips_none_second :
    let s := run (step external)
      (init freshControl Sample.nodeId) acknowledgedAndEnqueued
    s.agent.journal.lastAcknowledgedSequence = 1 ∧
      ∃ stored ∈ s.control.commands.rows, stored.command.id = 102 ∧
        s.agent.journal.lastAcknowledgedSequence < stored.command.sequence := by
  intro s
  obtain ⟨hcursor, stored, hrow, hid, hnode, hopen⟩ :
      s.agent.journal.lastAcknowledgedSequence = 1 ∧ ∃ stored ∈ s.control.commands.rows,
        stored.command.id = 102 ∧ stored.command.nodeId = Sample.nodeId ∧
          stored.acknowledgement = none := by decide +kernel
  exact ⟨hcursor, stored, hrow, hid,
    cursor_skips_none (by decide) freshControl_fresh _ stored hrow hnode hopen⟩

end Reports

end A3SCloud
