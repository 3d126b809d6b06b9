import A3SCloud.Contracts.Sample
import A3SCloud.Fleet.Control

/-!
# The queue of one node

What the operations of the control plane do to the commands of one node, over whole runs of them.

* `KeepsCommands`: no operation takes a command or an acknowledgement back.
* `leaseCommands_ok`: a lease changes no command and hands out the first open ones.
* `QueueInv`: the sequences of the commands of a node are `1, …, n`.
* `leaseCommands_inOrder`: the commands of one lease are open, in order and without a gap.
-/

namespace A3SCloud

open Checks List NodeControl Table Option StoredNodeCommand

variable {X : External}

/-! ### What an operation keeps -/

/-- A stored command at a later time: it may have another lease and an acknowledgement it did not
have. -/
structure KeepsCommand (stored stored' : StoredNodeCommand) : Prop where
  command : stored'.command = stored.command
  acknowledgement : ∀ acknowledgement, stored.acknowledgement = some acknowledgement →
    stored'.acknowledgement = some acknowledgement

/-- Every command of a queue is kept in a later one. -/
def KeepsCommands (control control' : NodeControl) : Prop :=
  ∀ commandId stored, control.commands.get? commandId = some stored →
    ∃ stored', control'.commands.get? commandId = some stored' ∧ KeepsCommand stored stored'

theorem KeepsCommand.refl (stored : StoredNodeCommand) : KeepsCommand stored stored :=
  ⟨rfl, fun _ h => h⟩

theorem KeepsCommand.trans {a b c : StoredNodeCommand} (hab : KeepsCommand a b)
    (hbc : KeepsCommand b c) : KeepsCommand a c :=
  ⟨hbc.command.trans hab.command, fun acknowledgement h =>
    hbc.acknowledgement acknowledgement (hab.acknowledgement acknowledgement h)⟩

theorem KeepsCommands.refl (control : NodeControl) : KeepsCommands control control :=
  fun _ stored h => ⟨stored, h, KeepsCommand.refl stored⟩

section

variable {a b c control control' : NodeControl} {stored : StoredNodeCommand}
  {request : NodeCommandLeaseRequest} {leaseId nodeId : Uuid} {now leasedUntil : ℤ}
  {response : NodeCommandLeaseResponse} {acknowledgement : NodeCommandAck}
  {write : IdempotentWrite NodeCommandAck} {draft : NodeCommandDraft}

theorem KeepsCommands.trans (hab : KeepsCommands a b) (hbc : KeepsCommands b c) :
    KeepsCommands a c := by
  intro commandId stored hget
  obtain ⟨stored', hget', hkeeps⟩ := hab commandId stored hget
  obtain ⟨stored'', hget'', hkeeps'⟩ := hbc commandId stored' hget'
  exact ⟨stored'', hget'', hkeeps.trans hkeeps'⟩

/-- Nodes and commands are the same, and acknowledgements as well; leases may differ. -/
structure SameCommands (control control' : NodeControl) : Prop where
  nodes : control'.nodes = control.nodes
  commands : ∀ commandId, (control'.commands.get? commandId).map
      (fun stored => (stored.command, stored.acknowledgement)) =
    (control.commands.get? commandId).map (fun stored => (stored.command, stored.acknowledgement))

theorem SameCommands.refl (control : NodeControl) : SameCommands control control :=
  ⟨rfl, fun _ => rfl⟩

theorem SameCommands.trans (hab : SameCommands a b) (hbc : SameCommands b c) : SameCommands a c :=
  ⟨hbc.nodes.trans hab.nodes, fun commandId =>
    (hbc.commands commandId).trans (hab.commands commandId)⟩

theorem SameCommands.symm (h : SameCommands a b) : SameCommands b a :=
  ⟨h.nodes.symm, fun commandId => (h.commands commandId).symm⟩

theorem SameCommands.get? (h : SameCommands control control')
    {commandId : Uuid} (hget : control.commands.get? commandId = some stored) :
    ∃ stored', control'.commands.get? commandId = some stored' ∧
      stored'.command = stored.command ∧ stored'.acknowledgement = stored.acknowledgement := by
  have hsame := h.commands commandId
  rw [hget, map_some, map_eq_some_iff] at hsame
  obtain ⟨stored', hget', heq⟩ := hsame
  exact ⟨stored', hget', congrArg Prod.fst heq, congrArg Prod.snd heq⟩

theorem SameCommands.keeps (h : SameCommands control control') :
    KeepsCommands control control' := by
  intro commandId stored hget
  obtain ⟨stored', hget', hcommand, hack⟩ := h.get? hget
  exact ⟨stored', hget', hcommand, fun acknowledgement hsome => hack.trans hsome⟩

/-! ### Leasing -/

/-- Assigning leases changes no command, and it collects the envelopes of the selected ones. -/
theorem assignLeases_spec (lease : CommandLease) (selected : List StoredNodeCommand)
    (control : NodeControl) (envelopes : List NodeCommandEnvelope) :
    SameCommands control { control with
        commands := (assignLeases X lease selected control.commands envelopes).2 } ∧
      ∀ result, (assignLeases X lease selected control.commands envelopes).1 =
          .ok result →
        result = envelopes ++ selected.map (fun stored => stored.command.toEnvelope X lease.leaseId) := by
  induction selected generalizing control envelopes with
  | nil =>
    refine ⟨SameCommands.refl control, fun result hresult => ?_⟩
    cases hresult
    simp
  | cons stored selected ih =>
    have hsame : SameCommands control { control with
        commands := control.commands.modify stored.id (withLease lease)
          (id_withLease lease) } := by
      refine ⟨rfl, fun commandId => ?_⟩
      rw [get?_modify]
      split_ifs
      · rw [Option.map_map]
        rfl
      · rfl
    rw [assignLeases]
    cases henvelope : stored.command.envelope X lease.leaseId with
    | ok =>
      obtain ⟨-, rfl⟩ := NodeCommand.envelope_ok_iff.1 henvelope
      obtain ⟨hrest, hresult⟩ := ih { control with
        commands := control.commands.modify stored.id (withLease lease)
          (id_withLease lease) }
        (envelopes ++ [stored.command.toEnvelope X lease.leaseId])
      refine ⟨hsame.trans hrest, fun result h => ?_⟩
      rw [hresult result h, append_assoc, singleton_append, map_cons]
    | error =>
      refine ⟨hsame, fun result h => ?_⟩
      cases h

theorem leaseCommands_same (control : NodeControl) (request : NodeCommandLeaseRequest)
    (leaseId : Uuid) (now leasedUntil : ℤ) :
    SameCommands control (control.leaseCommands X request leaseId now leasedUntil).2 := by
  unfold leaseCommands
  dsimp only
  split
  · exact SameCommands.refl control
  · exact (assignLeases_spec _ _ control []).1

def NodeControl.selectedCommands (control : NodeControl) (request : NodeCommandLeaseRequest)
    (now : ℤ) : List StoredNodeCommand :=
  selectCommands (canonicalTimestamp now) request.maxCommands
    (control.openCommands request.nodeId request.afterSequence)

/-- What the answer to a lease request holds. -/
theorem leaseCommands_ok
    (h : (control.leaseCommands X request leaseId now leasedUntil).1 = .ok response) :
    response.nodeId = request.nodeId ∧
      response.commands = (control.selectedCommands request now).map
        (fun stored => stored.command.toEnvelope X leaseId) ∧
      (∀ command ∈ response.commands, command.Valid X ∧ command.nodeId = request.nodeId) ∧
      response.commands.Pairwise (fun a b => a.sequence < b.sequence) := by
  unfold leaseCommands at h
  dsimp only at h
  split at h
  · cases h
  · simp only [ok_rules] at h
    obtain ⟨envelopes, henvelopes, hvalid, rfl⟩ := h
    obtain ⟨hall, hsorted⟩ := NodeCommandLeaseResponse.validate_ok hvalid
    have hcommands := (assignLeases_spec _ _ control []).2 envelopes henvelopes
    rw [nil_append] at hcommands
    exact ⟨rfl, hcommands, fun command hcommand => ⟨(hall command hcommand).1,
      (hall command hcommand).2.2⟩, hsorted⟩

theorem mem_openCommands_iff {afterSequence : ℕ} :
    stored ∈ control.openCommands nodeId afterSequence ↔
      stored ∈ control.commands.rows ∧ stored.command.nodeId = nodeId ∧
        afterSequence < stored.command.sequence ∧ stored.acknowledgement = none := by
  rw [openCommands, mem_insertionSort, mem_filter, decide_eq_true_eq]

theorem openCommands_sorted (control : NodeControl) (nodeId : Uuid) (afterSequence : ℕ) :
    (control.openCommands nodeId afterSequence).Pairwise
      (fun a b => a.command.sequence ≤ b.command.sequence) := by
  have : Std.Total (fun a b : StoredNodeCommand => a.command.sequence ≤ b.command.sequence) :=
    ⟨fun a b => le_total _ _⟩
  have : IsTrans StoredNodeCommand (fun a b => a.command.sequence ≤ b.command.sequence) :=
    ⟨fun a b c => le_trans⟩
  exact pairwise_insertionSort _ _

theorem selectedCommands_append (control : NodeControl) (request : NodeCommandLeaseRequest)
    (now : ℤ) : ∃ rest, control.openCommands request.nodeId request.afterSequence =
      control.selectedCommands request now ++ rest := by
  unfold selectedCommands selectCommands
  generalize control.openCommands request.nodeId request.afterSequence = ordered
  have hfree := takeWhile_prefix (l := ordered) (fun stored =>
    !stored.lease.any (fun lease => decide (canonicalTimestamp now < lease.leasedUntil)))
  have hlimit := take_prefix request.maxCommands (ordered.takeWhile (fun stored =>
    !stored.lease.any (fun lease => decide (canonicalTimestamp now < lease.leasedUntil))))
  obtain ⟨rest, hrest⟩ := hlimit.trans hfree
  exact ⟨rest, hrest.symm⟩

theorem mem_selectedCommands_of_lt {earlier : StoredNodeCommand}
    (hstored : stored ∈ control.selectedCommands request now)
    (hearlier : earlier ∈ control.openCommands request.nodeId request.afterSequence)
    (hlt : earlier.command.sequence < stored.command.sequence) :
    earlier ∈ control.selectedCommands request now := by
  obtain ⟨rest, happend⟩ := selectedCommands_append control request now
  have hsorted := openCommands_sorted control request.nodeId request.afterSequence
  rw [happend] at hearlier hsorted
  rcases mem_append.1 hearlier with h | h
  · exact h
  · have hle := (pairwise_append.1 hsorted).2.2 stored hstored earlier h
    omega

theorem mem_openCommands_of_selected (h : stored ∈ control.selectedCommands request now) :
    stored ∈ control.openCommands request.nodeId request.afterSequence := by
  obtain ⟨rest, happend⟩ := selectedCommands_append control request now
  rw [happend]
  exact mem_append_left rest h

/-! ### The sequences of a node -/

variable (X) in
/-- The commands of a node are issued, and their sequences are `1, …, n`. -/
structure QueueInv (control : NodeControl) (nodeId : Uuid) : Prop where
  issued : ∀ stored ∈ control.commands.rows, stored.command.nodeId = nodeId →
    stored.command.Issued X
  last : ∀ stored ∈ control.commands.rows, stored.command.nodeId = nodeId →
    ∃ node, control.nodes.get? nodeId = some node ∧
      stored.command.sequence ≤ node.lastSequence
  unique : ∀ stored ∈ control.commands.rows, ∀ stored' ∈ control.commands.rows,
    stored.command.nodeId = nodeId → stored'.command.nodeId = nodeId →
      stored.command.sequence = stored'.command.sequence → stored.id = stored'.id
  gapless : ∀ node, control.nodes.get? nodeId = some node → ∀ sequence, 1 ≤ sequence →
    sequence ≤ node.lastSequence → ∃ stored ∈ control.commands.rows,
      stored.command.nodeId = nodeId ∧ stored.command.sequence = sequence

/-- The invariant depends on the nodes and the commands only. -/
theorem QueueInv.of_commands (h : QueueInv X control nodeId)
    (hnodes : control'.nodes = control.nodes)
    (hcommands : ∀ commandId, (control'.commands.get? commandId).map StoredNodeCommand.command =
      (control.commands.get? commandId).map StoredNodeCommand.command) :
    QueueInv X control' nodeId := by
  -- a row of either queue has its counterpart in the other one
  have hrow : ∀ stored' ∈ control'.commands.rows, ∃ stored ∈ control.commands.rows,
      stored.command = stored'.command := by
    intro stored' hstored'
    have hsame := hcommands stored'.id
    rw [get?_eq_some_iff.2 ⟨hstored', rfl⟩, map_some, eq_comm,
      map_eq_some_iff] at hsame
    obtain ⟨stored, hget, hcommand⟩ := hsame
    exact ⟨stored, (get?_eq_some_iff.1 hget).1, hcommand⟩
  refine ⟨fun stored' hstored' hnode => ?_, fun stored' hstored' hnode => ?_,
    fun a ha b hb hnodeA hnodeB hsequence => ?_, fun node hnode sequence hone hle => ?_⟩
  · obtain ⟨stored, hstored, hcommand⟩ := hrow stored' hstored'
    rw [← hcommand] at hnode ⊢
    exact h.issued stored hstored hnode
  · obtain ⟨stored, hstored, hcommand⟩ := hrow stored' hstored'
    rw [← hcommand] at hnode ⊢
    rw [hnodes]
    exact h.last stored hstored hnode
  · obtain ⟨a', ha', hcommandA⟩ := hrow a ha
    obtain ⟨b', hb', hcommandB⟩ := hrow b hb
    have hid := h.unique a' ha' b' hb' (hcommandA ▸ hnodeA) (hcommandB ▸ hnodeB)
      (by rw [hcommandA, hcommandB, hsequence])
    rw [StoredNodeCommand.id, StoredNodeCommand.id, hcommandA, hcommandB] at hid
    exact hid
  · rw [hnodes] at hnode
    obtain ⟨stored, hstored, hstoredNode, hsequence⟩ := h.gapless node hnode sequence hone hle
    have hsame := hcommands stored.id
    rw [get?_eq_some_iff.2 ⟨hstored, rfl⟩, map_some, map_eq_some_iff] at hsame
    obtain ⟨stored', hget, hcommand⟩ := hsame
    refine ⟨stored', (get?_eq_some_iff.1 hget).1, ?_, ?_⟩
    · rw [hcommand, hstoredNode]
    · rw [hcommand, hsequence]

theorem QueueInv.leased (h : QueueInv X control nodeId)
    (request : NodeCommandLeaseRequest) (leaseId : Uuid) (now leasedUntil : ℤ) :
    QueueInv X (control.leaseCommands X request leaseId now leasedUntil).2 nodeId := by
  have hsame := leaseCommands_same (X := X) control request leaseId now leasedUntil
  refine h.of_commands hsame.nodes fun commandId => ?_
  have hcommand := congrArg (Option.map Prod.fst) (hsame.commands commandId)
  rw [Option.map_map, Option.map_map] at hcommand
  exact hcommand

theorem QueueInv.acknowledged (h : QueueInv X control nodeId)
    (hacknowledged : Acknowledged X control acknowledgement write control') :
    QueueInv X control' nodeId := by
  cases hacknowledged with
  | replayed => exact h
  | recorded =>
    refine h.of_commands rfl fun commandId => ?_
    rw [get?_modify]
    split_ifs
    · rw [Option.map_map]
      rfl
    · rfl

theorem QueueInv.enqueued (h : QueueInv X control nodeId) {write : IdempotentWrite NodeCommand}
    (henqueued : Enqueued X control draft write control') :
    QueueInv X control' nodeId := by
  cases henqueued with
  | replayed => exact h
  | fresh node command hget hnode hstate hpayload hbound hissue =>
    obtain ⟨hissued, hid, hcommandNode, hsequence, -, -⟩ := NodeCommand.issue_ok hissue
    have hnew : ∀ stored ∈ control.commands.rows, stored.id ≠ command.id := by
      intro stored hstored heq
      exact get?_eq_none_iff.1 hget stored hstored (heq.trans hid)
    by_cases hsame : draft.nodeId = nodeId
    · subst hsame
      have hnode' : (control.nodes.modify draft.nodeId (Node.withSequence (node.lastSequence + 1))
          (Node.id_withSequence (node.lastSequence + 1))).get? draft.nodeId =
            some (node.withSequence (node.lastSequence + 1)) := by
        rw [get?_modify, if_pos rfl, hnode, map_some]
      -- the sequence of the new command is behind those of the others
      have hbefore : ∀ stored ∈ control.commands.rows, stored.command.nodeId = draft.nodeId →
          stored.command.sequence ≤ node.lastSequence := by
        intro stored hstored hstoredNode
        obtain ⟨node', hget', hle⟩ := h.last stored hstored hstoredNode
        rw [hnode, some.injEq] at hget'
        subst hget'
        exact hle
      refine ⟨?_, ?_, ?_, ?_⟩
      · intro stored hstored hstoredNode
        rcases mem_insert.1 hstored with rfl | ⟨hstored, -⟩
        · exact hissued
        · exact h.issued stored hstored hstoredNode
      · intro stored hstored hstoredNode
        refine ⟨_, hnode', ?_⟩
        rcases mem_insert.1 hstored with rfl | ⟨hstored, -⟩
        · exact hsequence.le
        · exact (hbefore stored hstored hstoredNode).trans (Nat.le_succ _)
      · intro a ha b hb hnodeA hnodeB heq
        rcases mem_insert.1 ha with rfl | ⟨ha, -⟩
        · rcases mem_insert.1 hb with rfl | ⟨hb, -⟩
          · rfl
          · have hle := hbefore b hb hnodeB
            rw [← heq] at hle
            simp only [hsequence] at hle
            omega
        · rcases mem_insert.1 hb with rfl | ⟨hb, -⟩
          · have hle := hbefore a ha hnodeA
            rw [heq] at hle
            simp only [hsequence] at hle
            omega
          · exact h.unique a ha b hb hnodeA hnodeB heq
      · intro node' hget' sequence hone hle
        rw [hnode', some.injEq] at hget'
        subst hget'
        by_cases hlast : sequence ≤ node.lastSequence
        · obtain ⟨stored, hstored, hstoredNode, heq⟩ := h.gapless node hnode sequence hone hlast
          exact ⟨stored, mem_insert.2 (.inr ⟨hstored, hnew stored hstored⟩), hstoredNode, heq⟩
        · refine ⟨_, mem_insert.2 (.inl rfl), hcommandNode, ?_⟩
          have hle' : sequence ≤ node.lastSequence + 1 := hle
          simp only [hsequence]
          omega
    · have hother : ∀ stored ∈ (control.commands.insert ⟨command, none, none⟩).rows,
          stored.command.nodeId = nodeId → stored ∈ control.commands.rows := by
        intro stored hstored hstoredNode
        rcases mem_insert.1 hstored with rfl | ⟨hstored, -⟩
        · exact absurd (hcommandNode.symm.trans hstoredNode) hsame
        · exact hstored
      have hnodes : (control.nodes.modify draft.nodeId (Node.withSequence (node.lastSequence + 1))
          (Node.id_withSequence (node.lastSequence + 1))).get? nodeId =
            control.nodes.get? nodeId := by
        rw [get?_modify, if_neg (Ne.symm hsame)]
      refine ⟨fun stored hstored hstoredNode => ?_, fun stored hstored hstoredNode => ?_,
        fun a ha b hb hnodeA hnodeB heq => ?_, fun node' hget' sequence hone hle => ?_⟩
      · exact h.issued stored (hother stored hstored hstoredNode) hstoredNode
      · rw [hnodes]
        exact h.last stored (hother stored hstored hstoredNode) hstoredNode
      · exact h.unique a (hother a ha hnodeA) b (hother b hb hnodeB) hnodeA hnodeB heq
      · rw [hnodes] at hget'
        obtain ⟨stored, hstored, hstoredNode, heq⟩ := h.gapless node' hget' sequence hone hle
        exact ⟨stored, mem_insert.2 (.inr ⟨hstored, hnew stored hstored⟩), hstoredNode, heq⟩

/-! ### Nothing is taken back -/

theorem NodeControl.Enqueued.keeps {write : IdempotentWrite NodeCommand}
    (h : Enqueued X control draft write control') : KeepsCommands control control' := by
  cases h with
  | replayed => exact KeepsCommands.refl _
  | fresh node command hget hnode hstate hpayload hbound hissue =>
    intro commandId stored hstored
    refine ⟨stored, ?_, KeepsCommand.refl stored⟩
    obtain ⟨-, hid, -⟩ := NodeCommand.issue_ok hissue
    rw [get?_insert, if_neg, hstored]
    rintro rfl
    rw [show StoredNodeCommand.id ⟨command, none, none⟩ = command.id from rfl, hid, hget] at hstored
    cases hstored

theorem NodeControl.Acknowledged.keeps (h : Acknowledged X control acknowledgement write control') :
    KeepsCommands control control' := by
  cases h with
  | replayed => exact KeepsCommands.refl _
  | recorded stored hget hnone =>
    intro commandId stored' hstored'
    rw [get?_modify]
    split_ifs with hid
    · subst hid
      rw [hget, some.injEq] at hstored'
      subst hstored'
      rw [hget, map_some]
      refine ⟨_, rfl, rfl, fun acknowledgement' hsome => ?_⟩
      rw [hnone] at hsome
      cases hsome
    · exact ⟨stored', hstored', KeepsCommand.refl stored'⟩

/-! ### The commands of one lease -/

variable (X) in
/-- The commands of a lease are open commands of the node after the requested sequence, in order,
and none between two of them is left out. -/
structure LeasedInOrder (control : NodeControl) (request : NodeCommandLeaseRequest)
    (commands : List NodeCommandEnvelope) : Prop where
  opened : ∀ command ∈ commands, ∃ stored,
    control.commands.get? command.commandId = some stored ∧ stored.acknowledgement = none ∧
      command = stored.command.toEnvelope X command.leaseId
  after : ∀ command ∈ commands, request.afterSequence < command.sequence
  increasing : commands.Pairwise (fun a b => a.sequence < b.sequence)
  gapless : ∀ first ∈ commands, ∀ last ∈ commands, ∀ stored ∈ control.commands.rows,
    stored.command.nodeId = request.nodeId → stored.acknowledgement = none →
      first.sequence ≤ stored.command.sequence → stored.command.sequence ≤ last.sequence →
        ∃ command ∈ commands, command.commandId = stored.id

theorem leaseCommands_inOrder (h : QueueInv X control request.nodeId)
    (hlease : (control.leaseCommands X request leaseId now leasedUntil).1 = .ok response) :
    LeasedInOrder X control request response.commands := by
  obtain ⟨-, hcommands, -, hsorted⟩ := leaseCommands_ok hlease
  have hselected : ∀ command ∈ response.commands, ∃ stored,
      stored ∈ control.selectedCommands request now ∧
        command = stored.command.toEnvelope X leaseId := by
    intro command hcommand
    rw [hcommands, List.mem_map] at hcommand
    obtain ⟨stored, hstored, rfl⟩ := hcommand
    exact ⟨stored, hstored, rfl⟩
  refine ⟨fun command hcommand => ?_, fun command hcommand => ?_, hsorted, ?_⟩
  · obtain ⟨stored, hstored, rfl⟩ := hselected command hcommand
    obtain ⟨hrow, -, -, hnone⟩ := mem_openCommands_iff.1 (mem_openCommands_of_selected hstored)
    exact ⟨stored, get?_eq_some_iff.2 ⟨hrow, rfl⟩, hnone, rfl⟩
  · obtain ⟨stored, hstored, rfl⟩ := hselected command hcommand
    exact (mem_openCommands_iff.1 (mem_openCommands_of_selected hstored)).2.2.1
  · intro first hfirst last hlast stored hstored hnode hnone hge hle
    obtain ⟨storedFirst, hstoredFirst, rfl⟩ := hselected first hfirst
    obtain ⟨storedLast, hstoredLast, rfl⟩ := hselected last hlast
    have hafter := (mem_openCommands_iff.1 (mem_openCommands_of_selected hstoredFirst)).2.2.1
    have hopen : stored ∈ control.openCommands request.nodeId request.afterSequence :=
      mem_openCommands_iff.2 ⟨hstored, hnode, lt_of_lt_of_le hafter hge, hnone⟩
    have hmem : ∃ stored' ∈ control.selectedCommands request now, stored'.id = stored.id := by
      rcases lt_or_eq_of_le hle with hlt | heq
      · exact ⟨stored, mem_selectedCommands_of_lt hstoredLast hopen hlt, rfl⟩
      · obtain ⟨hrow, hlastNode, -⟩ :=
          mem_openCommands_iff.1 (mem_openCommands_of_selected hstoredLast)
        exact ⟨storedLast, hstoredLast,
          (h.unique stored hstored storedLast hrow hnode hlastNode heq).symm⟩
    obtain ⟨stored', hstored', hid⟩ := hmem
    refine ⟨stored'.command.toEnvelope X leaseId, ?_, hid⟩
    rw [hcommands]
    exact List.mem_map_of_mem hstored'

/-! ### A node before its first command -/

/-- Nothing has been enqueued for the node. -/
structure NodeControl.Fresh (control : NodeControl) (nodeId : Uuid) : Prop where
  node : ∀ node, control.nodes.get? nodeId = some node → node.lastSequence = 0
  commands : ∀ stored ∈ control.commands.rows, stored.command.nodeId ≠ nodeId

theorem NodeControl.Fresh.queueInv (h : control.Fresh nodeId) : QueueInv X control nodeId where
  issued := fun stored hstored hnode => absurd hnode (h.commands stored hstored)
  last := fun stored hstored hnode => absurd hnode (h.commands stored hstored)
  unique := fun stored hstored _ _ hnode => absurd hnode (h.commands stored hstored)
  gapless := by
    intro node hget sequence hone hle
    have hzero := h.node node hget
    omega

end

namespace Sample

/-- The queue of the control plane with the sample node. -/
def freshControl : NodeControl where
  nodes := empty.insert ⟨nodeId, .ready, 4, 0⟩
  commands := empty

theorem freshControl_fresh : freshControl.Fresh nodeId := by
  refine ⟨fun node hnode => ?_, fun stored hstored => by cases hstored⟩
  cases hnode
  rfl

end Sample

end A3SCloud
