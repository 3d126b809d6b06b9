import A3SCloud.Fleet.Control
import A3SCloud.NodeAgent.InOrder

/-!
# Acknowledgements that the control plane accepts

A node journals the completion of a command and reports it until the control plane has accepted it,
under whichever lease the command is redelivered. Both ends check the acknowledgement, but with
different clocks: the node compares a reading that it takes before it stamps the completion.

* `redeliver_completed`: a completed command can be redelivered under every lease, and its
  acknowledgement is then replayed under it.
* `acknowledgement_accepted_iff`: the control plane accepts it exactly when the success was stamped
  by its deadline (`Acknowledgeable`).
* `late_stamp_refused`: a success that is stamped later is refused under every lease.
-/

namespace A3SCloud

open Checks Runs ResourceClaimJournalProjection CommandJournal JournalEntry NodeCommandOutcome
  Sample

variable {X : External}

/-! ### Redelivery of a completed command -/

variable {completion : JournalCompletion} {leaseId : Uuid} {a b : JournalEntry}
  {outcome : NodeCommandOutcome}

variable {envelope : NodeCommandEnvelope} {journal : CommandJournal}

theorem report_withLease (hlease : leaseId ≠ 0)
    (h : (report envelope completion).validateAgainst X envelope = .ok ()) :
    (report (envelope.withLease leaseId) completion).validateAgainst X
      (envelope.withLease leaseId) = .ok () := by
  obtain ⟨hvalid, -, -, hcompleted, houtcome, hsuccess⟩ := NodeCommandAck.validateAgainst_ok_iff.1 h
  rw [NodeCommandAck.validateAgainst_ok_iff]
  refine ⟨hvalid.withLease hlease, .inl rfl, ⟨rfl, rfl, rfl, rfl, rfl⟩, hcompleted, houtcome, ?_⟩
  intro result hresult
  have hs := hsuccess result hresult
  refine ⟨hs.wellFormed, ?_, hs.evidence, fun _ => rfl, ?_⟩
  · have hm := hs.matchesCommand
    unfold NodeCommandResult.matchesCommand at hm ⊢
    exact hm
  · have hg := hs.gateway
    cases result <;> exact hg

theorem applyCodeRun_of_core (h : a.core = b.core)
    (bindings : Table NodeCodeAgentRuntimeBinding.executionId) :
    applyCodeRun X bindings a = applyCodeRun X bindings b := by
  have hpayload : a.envelope.payload = b.envelope.payload := congrArg Prod.fst h
  unfold applyCodeRun
  rw [success?_of_core h, hpayload]

theorem applyProviderRun_of_core (h : a.core = b.core)
    (bindings : Table NodeAgentProviderRuntimeBinding.executionId) :
    applyProviderRun X bindings a = applyProviderRun X bindings b := by
  have hpayload : a.envelope.payload = b.envelope.payload := congrArg Prod.fst h
  unfold applyProviderRun
  rw [success?_of_core h, hpayload]

/-- A journal stays valid under another lease of one of its commands. -/
theorem CommandJournal.Valid.rebind (h : journal.Valid X) (hordered : journal.Ordered)
    (commandId : Uuid) (hlease : leaseId ≠ 0) : (journal.rebind commandId leaseId).Valid X := by
  let f : JournalEntry → JournalEntry := fun entry =>
    if entry.commandId = commandId then entry.rebind leaseId else entry
  have hrows : (journal.rebind commandId leaseId).entries.rows = journal.entries.rows.map f := rfl
  have hordered' := hordered.rebind commandId leaseId
  have hsequence : ∀ entry, (f entry).sequence = entry.sequence := by
    intro entry
    simp only [f]
    split_ifs <;> rfl
  have hcore : ∀ entry, (f entry).core = entry.core := by
    intro entry
    simp only [f]
    split_ifs <;> rfl
  have hsequences : (journal.rebind commandId leaseId).entries.rows.map JournalEntry.sequence =
      journal.entries.rows.map JournalEntry.sequence := by
    rw [hrows, List.map_map]
    exact List.map_congr_left fun entry _ => hsequence entry
  refine ⟨h.schema, h.nodeId, h.acknowledged, ?_, ?_, ?_, ?_, h.generations, ?_, ?_, ?_⟩
  · intro entry hentry
    rw [hrows, List.mem_map] at hentry
    obtain ⟨before, hbefore, rfl⟩ := hentry
    have hvalid := h.entries before hbefore
    simp only [f]
    split_ifs
    · exact ⟨hvalid.envelope.withLease hlease, hvalid.nodeId, hvalid.acknowledged,
        fun completion hcompletion => report_withLease hlease (hvalid.completion _ hcompletion)⟩
    · exact hvalid
  · rw [hsequences]
    exact h.nodup
  · intro sequence
    rw [hsequences]
    exact h.gapless sequence
  · refine (contiguous_of_map hrows fun entry => ⟨hsequence entry, ?_⟩).trans h.contiguous
    simp only [f]
    split_ifs <;> rfl
  · obtain ⟨projection, hprojection⟩ := h.claims
    refine ⟨projection, ?_⟩
    rw [hordered'.projection, hrows, projectEntries_map hcore, ← hordered.projection]
    exact hprojection
  · obtain ⟨bindings, hbindings⟩ := h.codeRuns
    refine ⟨bindings, ?_⟩
    rw [codeRunBindingsProjection, hordered'.bySequence, hrows, List.foldlM_map, ← hbindings,
      codeRunBindingsProjection, hordered.bySequence]
    congr 1
    funext bindings entry
    exact applyCodeRun_of_core (hcore entry) bindings
  · obtain ⟨bindings, hbindings⟩ := h.providerRuns
    refine ⟨bindings, ?_⟩
    rw [providerRunBindingsProjection, hordered'.bySequence, hrows, List.foldlM_map, ← hbindings,
      providerRunBindingsProjection, hordered.bySequence]
    congr 1
    funext bindings entry
    exact applyProviderRun_of_core (hcore entry) bindings

/-- **A completed command is redelivered under every lease**, and its acknowledgement is replayed. -/
theorem redeliver_completed {nodeId : Uuid} (hnode : journal.nodeId = nodeId)
    (hvalid : journal.Valid X) (hordered : journal.Ordered) {entry : JournalEntry}
    (hget : journal.entries.get? entry.commandId = some entry)
    (hcompletion : entry.completion = some completion) (hlease : leaseId ≠ 0) :
    ∃ journal', beginSync X nodeId journal (entry.envelope.withLease leaseId) =
      .ok (.replay (report (entry.envelope.withLease leaseId) completion),
        journal') := by
  have hentry := hvalid.entries entry (Table.get?_eq_some_iff.1 hget).1
  have hack := report_withLease hlease (hentry.completion completion hcompletion)
  have hrebound : (entry.rebind leaseId).acknowledgement X =
      .ok (some (report (entry.envelope.withLease leaseId) completion)) := by
    rw [acknowledgement_ok_iff]
    refine ⟨?_, fun c hc => ?_⟩
    · simp only [JournalEntry.rebind, hcompletion, Option.map_some]
    · rw [JournalEntry.rebind, hcompletion] at hc
      cases hc
      exact hack
  have hredeliver : ∃ journal', redeliver X journal entry (entry.envelope.withLease leaseId) =
      .ok (.replay (report (entry.envelope.withLease leaseId) completion),
        journal') := by
    by_cases hsame : entry.envelope.leaseId = (entry.envelope.withLease leaseId).leaseId
    · refine ⟨journal, ?_⟩
      simp only [redeliver, ok_rules, ne_eq, not_not]
      refine ⟨rfl, _, hrebound, ?_⟩
      rw [if_neg (not_not.2 hsame)]
      rfl
    · refine ⟨journal.rebind entry.envelope.commandId leaseId, ?_⟩
      simp only [redeliver, ok_rules, ne_eq, not_not]
      refine ⟨rfl, _, hrebound, ?_⟩
      rw [if_pos hsame]
      simp only [ok_rules, validate_ok_iff]
      exact ⟨hvalid.rebind hordered _ hlease, rfl⟩
  obtain ⟨journal', hredeliver⟩ := hredeliver
  refine ⟨journal', ?_⟩
  simp only [beginSync, ok_rules, NodeCommandEnvelope.validate_ok_iff, readJournal_ok_iff, ne_eq,
    not_not]
  refine ⟨hentry.envelope.withLease hlease, hentry.nodeId.trans hnode, ⟨hnode, hvalid⟩, ?_⟩
  rw [NodeCommandEnvelope.withLease_commandId,
    show journal.entries.get? entry.envelope.commandId = some entry from hget]
  exact hredeliver

/-! ### When the control plane accepts -/

theorem canonicalTimestamp_max (s t : ℤ) :
    canonicalTimestamp (max s t) = max (canonicalTimestamp s) (canonicalTimestamp t) := by
  rcases le_total s t with h | h
  · rw [max_eq_right h, max_eq_right (canonicalTimestamp_mono h)]
  · rw [max_eq_left h, max_eq_left (canonicalTimestamp_mono h)]

/-- The times that a provider reported are by the deadline and, for a Gateway, keep their order in
the precision of the control plane. -/
def ExecutionIo.AnsweredInTime (envelope : NodeCommandEnvelope) (io : ExecutionIo) : Prop :=
  match envelope.payload with
  | .gatewaySnapshotObserve _ => ∀ observed, io.gatewayObserve = .ok observed →
      canonicalTimestamp observed.observedAt ≤ envelope.notAfter ∧
        ∀ applied, observed.applied = some applied →
          canonicalTimestamp applied.issuedAt < canonicalTimestamp applied.expiresAt ∧
          canonicalTimestamp applied.appliedAt < canonicalTimestamp applied.expiresAt ∧
          (observed.state = .applied →
            canonicalTimestamp (commandTimestamp envelope observed.observedAt) <
              canonicalTimestamp applied.expiresAt)
  | .adapter _ => ∀ result, io.adapter = .ok result → ∀ time,
      (succeeded (.adapter result)).evidenceAt = some time →
        canonicalTimestamp time ≤ envelope.notAfter
  | _ => True

variable (X) in
/-- If the command is dispatched and its result is there by the deadline, then the reading with
which it is stamped and the times its provider reported are not after the deadline either. -/
def Acknowledgeable (nodeId : Uuid) (journal : CommandJournal) (envelope : NodeCommandEnvelope)
    (io : ExecutionIo) : Prop :=
  envelope.isExpiredAt io.startedAt = false →
    (∃ result, dispatch X nodeId journal envelope io = .ok result) →
      io.checkedAt ≤ envelope.notAfter →
        canonicalTimestamp io.completedAt ≤ envelope.notAfter ∧ io.AnsweredInTime envelope

/-- A success is stamped by its deadline, in the precision of the control plane. -/
structure StampedInTime (envelope : NodeCommandEnvelope) (io : ExecutionIo)
    (result : NodeCommandResult) : Prop where
  completed : canonicalTimestamp io.completedAt ≤ envelope.notAfter
  evidence : ∀ time, (succeeded result).evidenceAt = some time →
    canonicalTimestamp time ≤ envelope.notAfter
  order : result.KeepsOrder

section Stamp

variable {nodeId : Uuid} {journal : CommandJournal} {envelope : NodeCommandEnvelope}
  {io : ExecutionIo}

/-- What the node itself stamps during the dispatch is covered by its last reading of the clock. -/
theorem canonicalTimestamp_dispatchedAt_le (hio : io.Monotone)
    (hissued : IsCanonical envelope.issuedAt) (hwindow : envelope.issuedAt < envelope.notAfter)
    (hcompleted : canonicalTimestamp io.completedAt ≤ envelope.notAfter) :
    canonicalTimestamp (commandTimestamp envelope io.dispatchedAt) ≤ envelope.notAfter := by
  have hread : io.dispatchedAt ≤ io.completedAt := hio.dispatched.trans hio.checked
  rw [commandTimestamp, canonicalTimestamp_max, hissued, max_le_iff]
  exact ⟨(canonicalTimestamp_mono hread).trans hcompleted, hwindow.le⟩

theorem dispatchPrepare_observedAt {request : NodeResourceClaimPrepare}
    {prepared : NodeResourceClaimPrepared}
    (h : dispatchPrepare X nodeId journal envelope io request = .ok prepared) :
    prepared.observedAt = commandTimestamp envelope io.dispatchedAt := by
  simp only [dispatchPrepare, NodeResourceClaimPrepared.new, ok_rules] at h
  obtain ⟨-, -, -, -, -, -, -, -, -, -, -, -, rfl⟩ := h
  rfl

theorem dispatchRelease_observedAt {request : NodeResourceClaimRelease}
    {released : NodeResourceClaimReleased}
    (h : dispatchRelease X nodeId journal envelope io request = .ok released) :
    released.observedAt = commandTimestamp envelope io.dispatchedAt := by
  simp only [dispatchRelease, NodeResourceClaimReleased.new, ok_rules] at h
  obtain ⟨-, -, -, -, -, -, -, -, rfl⟩ := h
  rfl

theorem dispatchInstall_acknowledgedAt {snapshot : GatewaySnapshot}
    {acknowledgement : NodeGatewayAck}
    (h : dispatchInstall X envelope io snapshot = .ok acknowledgement) :
    acknowledgement.acknowledgedAt = commandTimestamp envelope io.dispatchedAt := by
  simp only [dispatchInstall, ok_rules] at h
  obtain ⟨installed, -, -, -, rfl⟩ := h
  rfl

/-- For a clock that does not go backwards the stamp depends on the last reading and the answers. -/
theorem stampedInTime_iff (hio : io.Monotone) (hissued : IsCanonical envelope.issuedAt)
    (hwindow : envelope.issuedAt < envelope.notAfter) {result : NodeCommandResult}
    (h : dispatch X nodeId journal envelope io = .ok result) :
    StampedInTime envelope io result ↔
      canonicalTimestamp io.completedAt ≤ envelope.notAfter ∧ io.AnsweredInTime envelope := by
  have hstamp := canonicalTimestamp_dispatchedAt_le hio hissued hwindow
  -- a result whose evidence is at most the node's own stamp adds nothing to the last reading
  have hown : (∀ time, (succeeded result).evidenceAt = some time →
      time = commandTimestamp envelope io.dispatchedAt) → result.KeepsOrder →
      (StampedInTime envelope io result ↔
        canonicalTimestamp io.completedAt ≤ envelope.notAfter ∧ True) := by
    intro htime horder
    constructor
    · exact fun hs => ⟨hs.completed, trivial⟩
    · rintro ⟨hcompleted, -⟩
      refine ⟨hcompleted, fun time hsome => ?_, horder⟩
      rw [htime time hsome]
      exact hstamp hcompleted
  unfold dispatch at h
  unfold ExecutionIo.AnsweredInTime
  cases hpayload : envelope.payload with
  | resourceClaimPrepare =>
    simp only [hpayload, bind_ok_iff, mapError_ok_iff, pure_ok_iff] at h
    obtain ⟨prepared, hprepared, rfl⟩ := h
    refine hown (fun time htime => ?_) trivial
    cases htime
    exact dispatchPrepare_observedAt hprepared
  | runtimeApply =>
    simp only [hpayload, bind_ok_iff, pure_ok_iff] at h
    obtain ⟨-, -, -, -, bound, -, rfl⟩ := h
    exact hown (fun time htime => by cases htime) trivial
  | runtimeInspect =>
    simp only [hpayload, bind_ok_iff, pure_ok_iff] at h
    obtain ⟨-, -, bound, -, rfl⟩ := h
    exact hown (fun time htime => by cases htime) trivial
  | runtimeStop =>
    simp only [hpayload, bind_ok_iff, pure_ok_iff] at h
    obtain ⟨inspection, -, rfl⟩ := h
    exact hown (fun time htime => by cases htime) trivial
  | runtimeRemove =>
    simp only [hpayload, bind_ok_iff, pure_ok_iff] at h
    obtain ⟨removal, -, rfl⟩ := h
    exact hown (fun time htime => by cases htime) trivial
  | resourceClaimRelease =>
    simp only [hpayload, bind_ok_iff, mapError_ok_iff, pure_ok_iff] at h
    obtain ⟨released, hreleased, rfl⟩ := h
    refine hown (fun time htime => ?_) trivial
    cases htime
    exact dispatchRelease_observedAt hreleased
  | gatewaySnapshotInstall =>
    simp only [hpayload, bind_ok_iff, pure_ok_iff] at h
    obtain ⟨acknowledgement, hacknowledgement, rfl⟩ := h
    refine hown (fun time htime => ?_) trivial
    cases htime
    exact dispatchInstall_acknowledgedAt hacknowledgement
  | gatewaySnapshotObserve =>
    simp only [hpayload, dispatchObserve, bind_ok_iff, mapError_ok_iff, pure_ok_iff] at h
    obtain ⟨-, ⟨observed, hobserved, -, -, rfl⟩, rfl⟩ := h
    have hcanonical : canonicalTimestamp (max observed.observedAt envelope.issuedAt) ≤
        envelope.notAfter ↔ canonicalTimestamp observed.observedAt ≤ envelope.notAfter := by
      rw [canonicalTimestamp_max, hissued, max_le_iff]
      exact and_iff_left hwindow.le
    simp only [hobserved, Except.ok.injEq, forall_eq']
    constructor
    · intro hs
      refine ⟨hs.completed, hcanonical.1 (hs.evidence _ rfl), fun applied happlied => ?_⟩
      have horder := hs.order applied happlied
      exact ⟨horder.issuedOrder, horder.appliedOrder, horder.observedOrder⟩
    · rintro ⟨hcompleted, hevidence, horder⟩
      refine ⟨hcompleted, fun time htime => ?_, fun applied happlied => ?_⟩
      · cases htime
        exact hcanonical.2 hevidence
      · obtain ⟨h1, h2, h3⟩ := horder applied happlied
        exact ⟨h1, h2, h3⟩
  | adapter =>
    simp only [hpayload, bind_ok_iff, mapError_ok_iff, pure_ok_iff] at h
    obtain ⟨answer, hanswer, rfl⟩ := h
    simp only [hanswer, Except.ok.injEq, forall_eq']
    exact ⟨fun hs => ⟨hs.completed, hs.evidence⟩, fun hs => ⟨hs.1, hs.2, trivial⟩⟩

end Stamp

/-- The stamp of a success is by the deadline exactly when its parts are. -/
theorem completionTimestamp_le_iff (hissued : IsCanonical envelope.issuedAt)
    (hwindow : envelope.issuedAt < envelope.notAfter) {now : ℤ} :
    canonicalTimestamp (completionTimestamp envelope outcome now) ≤ envelope.notAfter ↔
      canonicalTimestamp now ≤ envelope.notAfter ∧ ∀ time, outcome.evidenceAt = some time →
        canonicalTimestamp time ≤ envelope.notAfter := by
  have hbefore : canonicalTimestamp envelope.issuedAt ≤ envelope.notAfter := by
    rw [hissued]
    exact hwindow.le
  unfold completionTimestamp commandTimestamp
  cases outcome.evidenceAt with
  | none | some => simp [canonicalTimestamp_max, hbefore]

theorem NodeCommandOutcome.isSucceeded_canonical (outcome : NodeCommandOutcome) :
    outcome.canonical.isSucceeded = outcome.isSucceeded := by
  cases outcome <;> rfl

theorem NodeCommandOutcome.isSucceeded_iff :
    outcome.isSucceeded = true ↔ ∃ result, outcome = .succeeded result := by
  cases outcome <;> simp [isSucceeded]

/-- The acknowledgement of an executed command, as the control plane checks it under a later
lease. -/
theorem validateAcknowledgement_report_iff {command : NodeCommand} (hissued : command.Issued X)
    {lease : CommandLease}
    (hagainst : (report (command.toEnvelope X lease.leaseId) completion).validateAgainst X
      (command.toEnvelope X lease.leaseId) = .ok ()) (hagent : lease.agentInstanceId ≠ 0)
    (huntil : canonicalTimestamp completion.completedAt ≤ lease.leasedUntil) :
    NodeControl.validateAcknowledgement X ⟨command, some lease, none⟩
        (NodeCommand.canonicalizeAcknowledgement
          (report (command.toEnvelope X lease.leaseId) completion)) = .ok () ↔
      ∀ result, completion.outcome = .succeeded result → result.KeepsOrder ∧
        canonicalTimestamp completion.completedAt ≤ command.notAfter := by
  have hcanonical := canonicalize_validateAgainst_iff (X := X) hissued.issuedAt hagainst
  have hsucceeded : (NodeCommand.canonicalizeAcknowledgement
      (report (command.toEnvelope X lease.leaseId) completion)).outcome.isSucceeded =
        true ↔ ∃ result, completion.outcome = .succeeded result := by
    rw [NodeCommand.outcome_canonicalizeAcknowledgement, isSucceeded_canonical]
    exact isSucceeded_iff
  rw [NodeControl.validateAcknowledgement_ok_iff]
  constructor
  · rintro ⟨lease', hlease', -, hagainst', -, hexpiry⟩ result hresult
    cases hlease'
    exact ⟨hcanonical.1 hagainst' result hresult, hexpiry (hsucceeded.2 ⟨result, hresult⟩)⟩
  · intro h
    refine ⟨lease, rfl, hagent, hcanonical.2 fun result hresult => (h result hresult).1, huntil, ?_⟩
    intro hsuccess
    obtain ⟨result, hresult⟩ := hsucceeded.1 hsuccess
    exact (h result hresult).2

/-- An execution journals its completion and returns its report. -/
theorem execute_journaled {nodeId : Uuid} {journal₁ journal₂ : CommandJournal}
    (hordered : journal.Ordered) {io : ExecutionIo} {acknowledgement : NodeCommandAck}
    (hbegin : beginSync X nodeId journal envelope = .ok (.execute, journal₁))
    (hexecute : execute X nodeId journal envelope io = .ok (acknowledgement, journal₂)) :
    journal₂.nodeId = nodeId ∧ journal₂.Valid X ∧ journal₂.Ordered ∧
      acknowledgement =
        report envelope (executionCompletion X nodeId journal₁ envelope io) ∧
      ∃ entry, journal₂.entries.get? envelope.commandId = some entry ∧ entry.envelope = envelope ∧
        entry.completion = some (executionCompletion X nodeId journal₁ envelope io) := by
  simp only [execute, hbegin, bind_ok_iff, Except.ok.injEq, exists_eq_left'] at hexecute
  obtain ⟨hnode, hvalid, -, -, -, hbegun⟩ := beginSync_ok hbegin
  obtain ⟨entry, hget, henvelope, hdecision⟩ := hbegun.entry
  have hnone := decisionFor_eq_execute hdecision
  obtain ⟨-, -, hvalid₂, hcompleted⟩ := completeSync_ok hexecute
  refine ⟨(hcompleted.nodeId.trans hbegun.nodeId).trans hnode, hvalid₂,
    hcompleted.ordered (hbegun.ordered hvalid hordered), ?_⟩
  -- the entry was open, so the completion is the one of this execution
  cases hcompleted with
  | replayed entry' existing hget' hexisting =>
    rw [hget, Option.some.injEq] at hget'
    subst hget'
    rw [hnone] at hexisting
    cases hexisting
  | recorded entry' hget' =>
    rw [hget, Option.some.injEq] at hget'
    subst hget'
    refine ⟨by rw [henvelope], entry.complete _, ?_, henvelope, rfl⟩
    rw [CommandJournal.complete, Table.get?_modify, if_pos rfl, hget]
    rfl

/-- **When an executed command can be acknowledged**: its completion is journaled, and under every
later lease that is long enough it is replayed and then accepted exactly under the condition. -/
theorem acknowledgement_accepted_iff {command : NodeCommand} (hissued : command.Issued X)
    {nodeId leaseId : Uuid} {journal journal₁ journal₂ : CommandJournal} (hordered : journal.Ordered)
    {io : ExecutionIo} (hio : io.Monotone) {acknowledgement : NodeCommandAck}
    (hbegin : beginSync X nodeId journal (command.toEnvelope X leaseId) = .ok (.execute, journal₁))
    (hexecute : execute X nodeId journal (command.toEnvelope X leaseId) io =
      .ok (acknowledgement, journal₂))
    {control : NodeControl} {lease : CommandLease}
    (hstored : control.commands.get? command.id = some ⟨command, some lease, none⟩)
    (hlease : lease.leaseId ≠ 0) (hagent : lease.agentInstanceId ≠ 0)
    (huntil : canonicalTimestamp acknowledgement.completedAt ≤ lease.leasedUntil) :
    ∃ replayed journal₃,
      beginSync X nodeId journal₂ (command.toEnvelope X lease.leaseId) =
        .ok (.replay replayed, journal₃) ∧
      ((∃ accepted, control.acknowledgeCommand X replayed = .ok accepted) ↔
        Acknowledgeable X nodeId journal₁ (command.toEnvelope X leaseId) io) := by
  obtain ⟨hnode, hvalid, hordered₂, rfl, entry, hget, henvelope, hcompletion⟩ :=
    execute_journaled hordered hbegin hexecute
  generalize hgenerated :
    executionCompletion X nodeId journal₁ (command.toEnvelope X leaseId) io = completion at *
  have hid : entry.commandId = command.id := congrArg NodeCommandEnvelope.commandId henvelope
  have hrelease : entry.envelope.withLease lease.leaseId = command.toEnvelope X lease.leaseId := by
    rw [henvelope, NodeCommand.withLease_toEnvelope]
  have hentry := hvalid.entries entry (Table.get?_eq_some_iff.1 hget).1
  have hagainst := report_withLease hlease (hentry.completion completion hcompletion)
  obtain ⟨journal₃, hreplayed⟩ := redeliver_completed hnode hvalid hordered₂
    (show _ = some entry by rw [hid]; exact hget) hcompletion hlease
  rw [hrelease] at hagainst hreplayed
  refine ⟨_, journal₃, hreplayed, ?_⟩
  rw [NodeControl.acknowledgeCommand_ok_iff hstored rfl,
    validateAcknowledgement_report_iff hissued hagainst hagent huntil]
  subst hgenerated
  constructor
  · intro h hstarted ⟨result, hdispatch⟩ hchecked
    have houtcome := (executionOutcome_succeeded_iff X).2 ⟨hstarted, hdispatch, hchecked⟩
    obtain ⟨horder, hstamp⟩ := h result houtcome
    simp only [executionCompletion, houtcome] at hstamp
    obtain ⟨hnow, hevidence⟩ :=
      (completionTimestamp_le_iff hissued.issuedAt
        hissued.window).1 hstamp
    exact (stampedInTime_iff hio hissued.issuedAt hissued.window hdispatch).1
      ⟨hnow, hevidence, horder⟩
  · intro h result houtcome
    obtain ⟨hstarted, hdispatch, hchecked⟩ := (executionOutcome_succeeded_iff X).1 houtcome
    obtain ⟨hnow, hevidence, horder⟩ :=
      (stampedInTime_iff hio hissued.issuedAt hissued.window hdispatch).2
        (h hstarted ⟨result, hdispatch⟩ hchecked)
    refine ⟨horder, ?_⟩
    simp only [executionCompletion] at houtcome ⊢
    rw [houtcome]
    exact (completionTimestamp_le_iff hissued.issuedAt
      hissued.window).2 ⟨hnow, hevidence⟩

namespace Sample

/-- The command that prepares the sample claim. -/
def prepareCommand : NodeCommand where
  id := 101
  nodeId := nodeId
  sequence := 1
  aggregateId := claimId
  payload := .resourceClaimPrepare prepare
  issuedAt := seconds 10
  notAfter := seconds 19
  correlationId := 5

def lease : CommandLease where
  leaseId := 201
  agentInstanceId := 4
  leasedUntil := seconds 60

/-- A queue that holds the command under a later lease. -/
def control : NodeControl where
  nodes := Table.empty
  commands := Table.empty.insert ⟨prepareCommand, some lease, none⟩

/-- The deadline passes between the check of the result and the stamp of its completion. -/
def lateIo : ExecutionIo :=
  { io (seconds 18) with checkedAt := seconds 19, completedAt := seconds 20 }

theorem prepareCommand_issued : prepareCommand.Issued external := by
  constructor <;> first | decide +kernel | rfl

end Sample

theorem acknowledgement_accepted_in_time :
    ∃ acknowledgement journal replayed journal' accepted,
      execute external Sample.nodeId (.empty Sample.nodeId)
        (Sample.prepareCommand.toEnvelope external 200) (Sample.io (seconds 11)) =
          .ok (acknowledgement, journal) ∧
      beginSync external Sample.nodeId journal
        (Sample.prepareCommand.toEnvelope external Sample.lease.leaseId) =
          .ok (.replay replayed, journal') ∧
      Sample.control.acknowledgeCommand external replayed = .ok accepted := by
  obtain ⟨⟨decision, journal₁⟩, hbegin, hdecision⟩ : ∃ begun, beginSync external
      Sample.nodeId (.empty Sample.nodeId) (Sample.prepareCommand.toEnvelope external 200) =
        .ok begun ∧ begun.1 = .execute := by decide +kernel
  obtain ⟨⟨acknowledgement, journal₂⟩, hexecute, huntil⟩ : ∃ executed, execute external
      Sample.nodeId (.empty Sample.nodeId) (Sample.prepareCommand.toEnvelope external 200)
        (Sample.io (seconds 11)) = .ok executed ∧
          canonicalTimestamp executed.1.completedAt ≤ Sample.lease.leasedUntil := by
    decide +kernel
  cases hdecision
  have hstored : Sample.control.commands.get? Sample.prepareCommand.id =
      some ⟨Sample.prepareCommand, some Sample.lease, none⟩ := by decide +kernel
  obtain ⟨replayed, journal₃, hreplayed, haccepted⟩ := acknowledgement_accepted_iff
    prepareCommand_issued (ordered_empty _) ⟨le_rfl, le_rfl, le_rfl⟩ hbegin
    hexecute hstored (by decide) (by decide) huntil
  obtain ⟨accepted, h⟩ := haccepted.2 fun _ _ _ => ⟨by decide +kernel, trivial⟩
  exact ⟨acknowledgement, journal₂, replayed, journal₃, accepted, hexecute, hreplayed, h⟩

/-- **A success can be stamped too late**: its result was there by the deadline, and its
acknowledgement is refused under every lease. -/
theorem late_stamp_refused :
    ∃ acknowledgement journal, lateIo.Monotone ∧
      execute external Sample.nodeId (.empty Sample.nodeId)
        (Sample.prepareCommand.toEnvelope external 200) lateIo =
          .ok (acknowledgement, journal) ∧
      acknowledgement.outcome.isSucceeded = true ∧
      Sample.prepareCommand.notAfter < acknowledgement.completedAt ∧
      ∀ (control : NodeControl) (lease : CommandLease),
        control.commands.get? Sample.prepareCommand.id =
          some ⟨Sample.prepareCommand, some lease, none⟩ →
        ∀ replayed journal', beginSync external Sample.nodeId journal
          (Sample.prepareCommand.toEnvelope external lease.leaseId) =
            .ok (.replay replayed, journal') →
        ∀ accepted, control.acknowledgeCommand external replayed ≠ .ok accepted := by
  obtain ⟨⟨decision, journal₁⟩, hbegin, hdecision⟩ : ∃ begun, beginSync external
      Sample.nodeId (.empty Sample.nodeId) (Sample.prepareCommand.toEnvelope external 200) =
        .ok begun ∧ begun.1 = .execute := by decide +kernel
  cases hdecision
  obtain ⟨⟨acknowledgement, journal₂⟩, hexecute, hsuccess, hlate⟩ : ∃ executed, execute
      external Sample.nodeId (.empty Sample.nodeId)
        (Sample.prepareCommand.toEnvelope external 200) lateIo = .ok executed ∧
          executed.1.outcome.isSucceeded = true ∧
            Sample.prepareCommand.notAfter < canonicalTimestamp executed.1.completedAt := by
    decide +kernel
  obtain ⟨hnode, hvalid, hordered, rfl, entry, hget, henvelope, hcompletion⟩ :=
    execute_journaled (ordered_empty _) hbegin hexecute
  have hmonotone : lateIo.Monotone := ⟨le_rfl, by decide +kernel, by decide +kernel⟩
  refine ⟨_, journal₂, hmonotone, hexecute, hsuccess,
    hlate.trans_le (canonicalTimestamp_le _), ?_⟩
  intro control lease hstored replayed journal' hreplayed accepted haccepted
  have hlease : lease.leaseId ≠ 0 := (beginSync_ok hreplayed).2.2.1.leaseId
  obtain ⟨journal₃, hredelivered⟩ := redeliver_completed hnode hvalid hordered
    (show _ = some entry by rw [JournalEntry.commandId, henvelope]; exact hget) hcompletion hlease
  rw [henvelope, NodeCommand.withLease_toEnvelope, hreplayed] at hredelivered
  cases hredelivered
  have hrefused := (NodeControl.acknowledgeCommand_ok_iff hstored rfl).1 ⟨accepted, haccepted⟩
  obtain ⟨-, -, -, -, -, hexpiry⟩ := NodeControl.validateAcknowledgement_ok_iff.1 hrefused
  have hsuccess' := (isSucceeded_canonical _).trans hsuccess
  exact absurd (hexpiry hsuccess') (not_le.2 hlate)

end A3SCloud
