import A3SCloud.NodeAgent.ClaimLifecycle

/-!
# Commands executed in sequence order

The command loop executes the commands of a lease in order and stops at the first error, so a
command is begun only when those before it are completed. Then the one command without a completion
is the last one of the journal (`TailOpen`), and the projection of the journal moves along with the
execution: beginning a command registers it (`projection_begun`) and completing it applies its effect
(`projection_completed`).
-/

namespace A3SCloud

open Checks Runs ResourceClaimJournalProjection List CommandJournal

variable {X : External}

/-- The commands before a command are completed when it is begun. -/
def BegunInOrder (journal : CommandJournal) (envelope : NodeCommandEnvelope) : Prop :=
  ∀ entry ∈ journal.entries.rows, entry.sequence < envelope.sequence → entry.completion ≠ none

/-- A step of a node that executes its commands in order. -/
def InOrderStep (s : AgentState) : NodeAction → Prop
  | .begin envelope => BegunInOrder s.journal envelope
  | .dispatch _ | .complete | .crash | .markAcknowledged _ => True

/-- Only the last command of a journal may lack a completion. -/
def TailOpen (journal : CommandJournal) : Prop :=
  ∀ entry ∈ journal.entries.rows, entry.completion = none →
    entry.sequence = journal.lastReceivedSequence

theorem tailOpen_empty (nodeId : Uuid) : TailOpen (CommandJournal.empty nodeId) := by
  simp [TailOpen, CommandJournal.empty]

variable {journal journal' : CommandJournal} {envelope : NodeCommandEnvelope}
  {decision : JournalDecision} {completion : JournalCompletion} {entry : JournalEntry}
  {projection' : ResourceClaimJournalProjection} {entries : List JournalEntry}

/-- A change of entries that keeps their sequences and takes no completion away. -/
theorem TailOpen.mapRows (h : TailOpen journal) {f : JournalEntry → JournalEntry}
    (hrows : journal'.entries.rows = journal.entries.rows.map f)
    (hlast : journal'.lastReceivedSequence = journal.lastReceivedSequence)
    (hf : ∀ entry, (f entry).sequence = entry.sequence ∧
      ((f entry).completion = none → entry.completion = none)) : TailOpen journal' := by
  intro entry hentry hnone
  rw [hrows, mem_map] at hentry
  obtain ⟨before, hbefore, rfl⟩ := hentry
  rw [hlast, (hf before).1]
  exact h before hbefore ((hf before).2 hnone)

theorem TailOpen.begun (h : TailOpen journal) (hvalid : journal.Valid X)
    (hbegun : Begun (X := X) journal envelope decision journal')
    (horder : BegunInOrder journal envelope) : TailOpen journal' := by
  cases hbegun with
  | redelivered =>
    refine h.mapRows rfl rfl fun entry => ?_
    split_ifs
    · exact ⟨rfl, id⟩
    · exact ⟨rfl, id⟩
  | received fenced hget hsequence hfence =>
    intro entry hentry hnone
    rw [rows_receive hfence hget, mem_append, mem_singleton] at hentry
    rcases hentry with hentry | rfl
    · have hle := (hvalid.sequence_le hentry).2
      exact absurd hnone (horder entry hentry (by omega))
    · rfl

theorem TailOpen.completed (h : TailOpen journal) {commandId : Uuid}
    {acknowledgement : NodeCommandAck}
    (hcompleted : Completed journal commandId completion acknowledgement journal') :
    TailOpen journal' := by
  cases hcompleted with
  | replayed => exact h
  | recorded entry =>
    refine h.mapRows rfl rfl fun entry => ?_
    split_ifs
    · exact ⟨rfl, fun hnone => by cases hnone⟩
    · exact ⟨rfl, id⟩

theorem tailOpen_step {s s' : AgentState} {action : NodeAction} (hstep : NodeStep X s action s')
    (hs : NodeInv X s) (h : TailOpen s.journal) (horder : InOrderStep s action) :
    TailOpen s'.journal := by
  cases hstep with
  | stay => exact h
  | begun envelope journal hphase hbegin
  | replayed envelope acknowledgement journal hphase hbegin =>
    exact h.begun hs.valid (beginSync_ok hbegin).2.2.2.2.2 horder
  | dispatched => exact h
  | completed envelope completion applied acknowledgement journal hphase hcomplete =>
    exact h.completed (completeSync_ok hcomplete).2.2.2
  | refused | crashed => exact h
  | acknowledged receipt journal hphase hmark =>
    obtain ⟨-, -, -, entry, -, -, rfl⟩ := markAcknowledgedSync_ok hmark
    refine h.mapRows rfl rfl fun entry => ?_
    split_ifs
    · exact ⟨rfl, id⟩
    · exact ⟨rfl, id⟩

theorem rows_eq_concat (hvalid : journal.Valid X) (hordered : journal.Ordered)
    (hentry : entry ∈ journal.entries.rows)
    (hlast : entry.sequence = journal.lastReceivedSequence) :
    ∃ entries, journal.entries.rows = entries ++ [entry] := by
  obtain ⟨before, after, hrows⟩ := append_of_mem hentry
  cases after with
  | nil => exact ⟨before, hrows⟩
  | cons next =>
    have hnext : next ∈ journal.entries.rows := by rw [hrows]; simp
    have hle := (hvalid.sequence_le hnext).2
    rw [Ordered, hrows, pairwise_append] at hordered
    have hlt := (pairwise_cons.1 hordered.2.1).1 next (by simp)
    omega

/-! ### The projection of an ordered journal -/

theorem CommandJournal.Ordered.projection (h : journal.Ordered) :
    journal.resourceClaimProjection X = projectEntries X journal.entries.rows := by
  rw [resourceClaimProjection, h.bySequence]

theorem CommandJournal.Valid.exists_projection (hvalid : journal.Valid X) (h : journal.Ordered) :
    ∃ projection, projectEntries X journal.entries.rows = .ok projection := by
  obtain ⟨projection, hprojection⟩ := hvalid.claims
  exact ⟨projection, by rw [← h.projection, hprojection]⟩

theorem effect_of_completion_none (h : entry.completion = none) : entry.effect X = .nothing := by
  have hs : entry.success? = none := by
    unfold JournalEntry.success?
    rw [h]
  unfold JournalEntry.effect
  rw [hs]

variable {projection : ResourceClaimJournalProjection}

/-- An entry without a completion is registered and has no effect. -/
theorem apply_open (hnone : entry.completion = none)
    (h : projection.apply X entry = .ok projection') :
    projection.register entry = .ok projection' := by
  obtain ⟨registered, hregister, -, rfl⟩ := apply_ok h
  rw [effect_of_completion_none hnone, after_nothing]
  exact hregister

/-- An apply that is admitted while it is the open last command is admitted by the projection of the
commands before it. -/
theorem validateRuntimeApply_of_admit {nodeId : Uuid} (hordered : journal.Ordered)
    (hrows : journal.entries.rows = entries ++ [entry]) (hnone : entry.completion = none)
    {request : RuntimeApplyRequest} {binding : Option NodeResourceClaimBinding}
    (hpayload : entry.envelope.payload = .runtimeApply request binding) {io : ExecutionIo}
    {u : Unit} (hadmitted : admitApply X nodeId journal io request binding = .ok u)
    {before : ResourceClaimJournalProjection} (hbefore : projectEntries X entries = .ok before) :
    before.validateRuntimeApply X request.spec binding = .ok () := by
  simp only [admitApply, validateRuntimeResourceBindingSync, ok_rules] at hadmitted
  obtain ⟨-, ⟨-, projection, hprojection, happly⟩, -⟩ := hadmitted
  rw [hordered.projection, hrows, projectEntries_concat_ok] at hprojection
  obtain ⟨before', hbefore', happly'⟩ := hprojection
  rw [hbefore, Except.ok.injEq] at hbefore'
  subst hbefore'
  have hsame := apply_open hnone happly'
  simp only [register, hpayload, pure_ok_iff] at hsame
  subst hsame
  exact happly

/-- Beginning a command leaves the projection as it is or registers the command in it. -/
theorem projection_begun (hbegun : Begun (X := X) journal envelope decision journal')
    (h : projectEntries X journal.entries.rows = .ok projection)
    (h' : projectEntries X journal'.entries.rows = .ok projection') :
    projection' = projection ∨ projection.register (.received envelope) = .ok projection' := by
  cases hbegun with
  | redelivered existing hget hsame =>
    left
    have hsame : projectEntries X (journal.rebind envelope.commandId envelope.leaseId).entries.rows =
        projectEntries X journal.entries.rows := by
      refine projectEntries_map (fun entry => ?_) _
      split_ifs <;> rfl
    rw [hsame, h, Except.ok.injEq] at h'
    exact h'.symm
  | received fenced hget hsequence hfence =>
    right
    rw [rows_receive hfence hget, projectEntries_concat_ok] at h'
    obtain ⟨before, hbefore, happly⟩ := h'
    rw [h, Except.ok.injEq] at hbefore
    subst hbefore
    exact apply_open rfl happly

/-- Completing the last command applies its effect: `before` is the projection without the
command. -/
theorem projection_completed (hrows : journal.entries.rows = entries ++ [entry])
    (hnone : entry.completion = none) (h : projectEntries X journal.entries.rows = .ok projection)
    (h' : projectEntries X (journal.complete entry.commandId completion).entries.rows =
      .ok projection') :
    ∃ before registered : ResourceClaimJournalProjection,
      before.register entry = .ok projection ∧
      before.register (entry.complete completion) = .ok registered ∧
      registered.Accepts X ((entry.complete completion).effect X) ∧
      projection' = registered.after ((entry.complete completion).effect X) := by
  rw [hrows, projectEntries_concat_ok] at h
  rw [rows_complete_last hrows, projectEntries_concat_ok] at h'
  obtain ⟨before, hbefore, happly⟩ := h
  obtain ⟨before', hbefore', happly'⟩ := h'
  rw [hbefore, Except.ok.injEq] at hbefore'
  subst hbefore'
  obtain ⟨registered, hregister, haccepts, heq⟩ := apply_ok happly'
  exact ⟨before, registered, apply_open hnone happly, hregister, haccepts, heq⟩

end A3SCloud
