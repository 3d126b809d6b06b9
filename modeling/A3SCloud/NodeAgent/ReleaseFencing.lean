import A3SCloud.NodeAgent.InOrder

/-!
# A claim is released behind its Runtime

A node refuses to release a claim whose Runtime was applied and not fenced since, but it judges by
what is journaled: an apply counts as applied only when its success was journaled. `ReleaseFenced` is
the property of a run of the node that the fence stands for.

* `releaseFenced_run`: it holds in every run in which commands are executed in sequence order and each
  attempt at a bound apply whose Runtime this attempt or an earlier one applied succeeds in time
  (`FencedStep`). A crash between the application and its journaled success is allowed: the command
  stays open, and no later one is begun before it is redelivered and completed.
* `release_after_late_apply`: it fails when `runtime.apply` returns after the deadline of its command,
  since the failure that is journaled then leaves the claim unbound.
-/

namespace A3SCloud

open Checks Runs ResourceClaimJournalProjection List AgentState JournalEntry Sample
  NodeResourceClaimBinding

variable (X : External)

/-! ### The property -/

/-- The claim a Runtime apply is bound to. -/
def NodeCommandPayload.boundClaim? : NodeCommandPayload → Option NodeResourceClaimBinding
  | .runtimeApply _ resourceClaim => resourceClaim
  | _ => none

namespace NodeEvent

def sequence : NodeEvent → ℕ
  | .dispatched envelope | .runtimeApplied envelope | .completed envelope _ => envelope.sequence

def appliedSequence? : NodeEvent → Option ℕ
  | .runtimeApplied envelope => some envelope.sequence
  | .dispatched _ | .completed _ _ => none

/-- The success of a release of the claim is journaled. -/
def Releases (claimId : Uuid) (event : NodeEvent) : Prop :=
  ∃ request, event.effect X = .release request ∧ request.binding.claimId = claimId

/-- The success of a stop with a terminal or absent unit, or of a removal, is journaled for the unit
and generation. -/
def Fences (unitId : String) (generation : ℕ) (event : NodeEvent) : Prop :=
  event.effect X = .fence unitId generation

end NodeEvent

/-- The events after the application of a command contain a fence of its Runtime by a later
command. -/
def FencedIn (envelope : NodeCommandEnvelope) (binding : NodeResourceClaimBinding)
    (events : List NodeEvent) : Prop :=
  ∃ fence ∈ events, fence.Fences X binding.runtimeUnitId binding.runtimeGeneration ∧
    envelope.sequence < fence.sequence

/-- No release of the claim is journaled before the application, and each one after it has a fence
in between. -/
structure ApplyFenced (envelope : NodeCommandEnvelope) (binding : NodeResourceClaimBinding)
    (before after : List NodeEvent) : Prop where
  fresh : ∀ event ∈ before, ¬ event.Releases X binding.claimId
  fenced : ∀ middle event rest, after = middle ++ event :: rest →
    event.Releases X binding.claimId → FencedIn X envelope binding middle

/-- Every application of a bound Runtime is fenced before its claim is released. -/
def ReleaseFenced (history : List NodeEvent) : Prop :=
  ∀ before envelope after binding, history = before ++ .runtimeApplied envelope :: after →
    envelope.payload.boundClaim? = some binding → ApplyFenced X envelope binding before after

/-! ### The condition -/

/-- The observation that `runtime.apply` returned is published, proves the binding and answers the
specification, before the deadline of the command. -/
def AppliesInTime (envelope : NodeCommandEnvelope) (request : RuntimeApplyRequest)
    (binding : NodeResourceClaimBinding) (io : ExecutionIo) : Prop :=
  io.checkedAt ≤ envelope.notAfter ∧
    ∀ observation, io.runtimeApply = .ok observation →
      ∃ published, io.publishCommandOutputs observation = .ok published ∧
      ∃ bound, binding.bindRuntimeObservation X published = .ok bound ∧
        X.observationValidateAgainst bound request.spec = .ok ()

/-- An attempt at the command has applied its Runtime. -/
def AppliedBefore (history : List NodeEvent) (envelope : NodeCommandEnvelope) : Prop :=
  ∃ event ∈ history, event.appliedSequence? = some envelope.sequence

/-- A command is begun when those before it are completed, and an attempt at a bound apply whose
Runtime it applies, or an earlier attempt applied, returns in time with the evidence of its
binding. -/
def FencedStep (s : AgentState) : NodeAction → Prop
  | .begin envelope => BegunInOrder s.journal envelope
  | .dispatch io => ∀ envelope request binding, s.phase = .begun envelope →
      envelope.payload = .runtimeApply request (some binding) →
      applyReturned X s.nodeId s.journal envelope io = true ∨ AppliedBefore s.history envelope →
        applyReturned X s.nodeId s.journal envelope io = true ∧
          AppliesInTime X envelope request binding io
  | .complete | .crash | .markAcknowledged _ => True

instance (history : List NodeEvent) (envelope : NodeCommandEnvelope) :
    Decidable (AppliedBefore history envelope) :=
  inferInstanceAs (Decidable (∃ event ∈ history, _))

instance (envelope : NodeCommandEnvelope) (request : RuntimeApplyRequest)
    (binding : NodeResourceClaimBinding) (io : ExecutionIo) :
    Decidable (AppliesInTime X envelope request binding io) :=
  inferInstanceAs (Decidable (_ ∧ _))

section

variable {s s' : AgentState} {envelope envelope' : NodeCommandEnvelope}
  {binding : NodeResourceClaimBinding}
  {after history : List NodeEvent} {event : NodeEvent} {entry : JournalEntry}
  {journal journal' : CommandJournal} {decision : JournalDecision} {entries : List JournalEntry}
  {completion : JournalCompletion} {request : RuntimeApplyRequest}
  {published bound : RuntimeObservation}
  {stands stands' : NodeCommandEnvelope → NodeResourceClaimBinding → List NodeEvent → Prop}
  {applied : Bool} {acknowledgement : NodeCommandAck} {action : NodeAction}

theorem fencedStep_dispatch (hphase : s.phase = .begun envelope) (io : ExecutionIo) :
    FencedStep X s (.dispatch io) ↔ ∀ request binding,
      envelope.payload = .runtimeApply request (some binding) →
      applyReturned X s.nodeId s.journal envelope io = true ∨ AppliedBefore s.history envelope →
        applyReturned X s.nodeId s.journal envelope io = true ∧
          AppliesInTime X envelope request binding io := by
  constructor
  · intro h request binding
    exact h envelope request binding hphase
  · intro h envelope' request binding hphase'
    rw [hphase, Phase.begun.injEq] at hphase'
    subst hphase'
    exact h request binding

instance decidableFencedStep (s : AgentState) : ∀ action, Decidable (FencedStep X s action)
  | .begin envelope =>
    inferInstanceAs (Decidable (∀ entry ∈ s.journal.entries.rows, _ → _))
  | .dispatch io =>
    match hphase : s.phase with
    | .begun envelope =>
      match hpayload : envelope.payload with
      | .runtimeApply request (some binding) =>
        decidable_of_iff (applyReturned X s.nodeId s.journal envelope io = true ∨
            AppliedBefore s.history envelope →
          applyReturned X s.nodeId s.journal envelope io = true ∧
            AppliesInTime X envelope request binding io)
          (by simp [fencedStep_dispatch X hphase, hpayload])
      | .runtimeApply request none => isTrue (by simp [fencedStep_dispatch X hphase, hpayload])
      | .resourceClaimPrepare _ | .runtimeInspect _ _ | .runtimeStop _ | .runtimeRemove _
      | .resourceClaimRelease _ | .gatewaySnapshotInstall _ | .gatewaySnapshotObserve _
      | .adapter _ => isTrue (by simp [fencedStep_dispatch X hphase, hpayload])
    | .idle | .dispatched .. => isTrue (by simp [FencedStep, hphase])
  | .complete | .crash | .markAcknowledged _ => isTrue trivial

variable {X}

/-! ### Histories -/

theorem FencedIn.append {events : List NodeEvent}
    (h : FencedIn X envelope binding events) (more : List NodeEvent) :
    FencedIn X envelope binding (events ++ more) := by
  obtain ⟨fence, hmem, hfence⟩ := h
  exact ⟨fence, mem_append_left _ hmem, hfence⟩

/-- One more event keeps an application fenced if it releases the claim only behind a fence. -/
theorem ApplyFenced.concat {before : List NodeEvent}
    (h : ApplyFenced X envelope binding before after)
    (hevent : event.Releases X binding.claimId → FencedIn X envelope binding after) :
    ApplyFenced X envelope binding before (after ++ [event]) := by
  refine ⟨h.fresh, fun middle event' rest hsplit hreleases => ?_⟩
  rcases concat_eq_split hsplit with ⟨rfl, rfl, -⟩ | ⟨rest', -, hsplit'⟩
  · exact hevent hreleases
  · exact h.fenced middle event' rest' hsplit' hreleases

theorem not_releases_dispatched (envelope : NodeCommandEnvelope) (claimId : Uuid) :
    ¬ (NodeEvent.dispatched envelope).Releases X claimId := by
  rintro ⟨request, heffect, -⟩
  cases heffect

theorem not_releases_runtimeApplied (envelope : NodeCommandEnvelope) (claimId : Uuid) :
    ¬ (NodeEvent.runtimeApplied envelope).Releases X claimId := by
  rintro ⟨request, heffect, -⟩
  cases heffect

/-! ### Held claims in a journal -/

variable (X)

/-- The replay of the journal finds the claim of the binding held. -/
def JournalHolds (journal : CommandJournal) (binding : NodeResourceClaimBinding) : Prop :=
  ∃ projection, projectEntries X journal.entries.rows = .ok projection ∧ projection.Holds binding

variable {X}

theorem holds_of_register {projection registered : ResourceClaimJournalProjection}
    (h : projection.register entry = .ok registered)
    (hholds : registered.Holds binding) : projection.Holds binding := by
  obtain ⟨claim', hclaim', hheld⟩ := hholds
  obtain ⟨claim, hclaim, -⟩ := (active_register h binding.claimId).1 ⟨claim', hclaim', hheld.active⟩
  obtain ⟨claim₁, hclaim₁, hbinding, hactive, hbound, hfenced, -⟩ :=
    claimRegister_some binding.claimId entry claim
  rw [(register_ok h).2, hclaim, hclaim₁, Option.some.injEq] at hclaim'
  subst hclaim'
  exact ⟨claim, hclaim, hbinding.symm.trans hheld.binding, hactive.symm.trans hheld.active,
    hbound.symm.trans hheld.bound, hfenced.symm.trans hheld.unfenced⟩

theorem JournalHolds.begun (h : JournalHolds X journal binding)
    (hbegun : Begun (X := X) journal envelope decision journal') (hvalid' : journal'.Valid X)
    (hordered' : journal'.Ordered) : JournalHolds X journal' binding := by
  obtain ⟨projection, hprojection, hholds⟩ := h
  obtain ⟨projection', hprojection'⟩ := hvalid'.exists_projection hordered'
  refine ⟨projection', hprojection', ?_⟩
  rcases projection_begun hbegun hprojection hprojection' with rfl | hregister
  · exact hholds
  · exact hholds.register hregister

theorem JournalHolds.acknowledge (h : JournalHolds X journal binding) (commandId : Uuid) :
    JournalHolds X (journal.acknowledge commandId) binding := by
  obtain ⟨projection, hprojection, hholds⟩ := h
  refine ⟨projection, ?_, hholds⟩
  rw [← hprojection]
  refine projectEntries_map (fun entry => ?_) _
  split_ifs <;> rfl

/-- Completing a command ends the holding of a claim only by a fence, and does not release it. -/
theorem JournalHolds.complete
    (h : JournalHolds X journal binding) (hrows : journal.entries.rows = entries ++ [entry])
    (hnone : entry.completion = none)
    (hvalid' : (journal.complete entry.commandId completion).Valid X)
    (hordered' : (journal.complete entry.commandId completion).Ordered) :
    ((entry.complete completion).effect X =
        .fence binding.runtimeUnitId binding.runtimeGeneration ∨
      JournalHolds X (journal.complete entry.commandId completion) binding) ∧
    ∀ request, (entry.complete completion).effect X = .release request →
      request.binding.claimId ≠ binding.claimId := by
  obtain ⟨projection, hprojection, hholds⟩ := h
  obtain ⟨projection', hprojection'⟩ := hvalid'.exists_projection hordered'
  obtain ⟨before, registered, hregister, hregister', haccepts, rfl⟩ :=
    projection_completed hrows hnone hprojection hprojection'
  have hregistered := (holds_of_register hregister hholds).register hregister'
  constructor
  · rcases hregistered.after haccepts with hfence | hafter
    · exact .inl hfence
    · exact .inr ⟨_, hprojection', hafter⟩
  · intro request hrelease hid
    rw [hrelease] at haccepts
    exact hregistered.validateRelease_ne hid haccepts

/-- The journaled success of a bound apply holds its claim. -/
theorem journalHolds_of_bind (hrows : journal.entries.rows = entries ++ [entry])
    (hnone : entry.completion = none) (hvalid : journal.Valid X) (hordered : journal.Ordered)
    (hvalid' : (journal.complete entry.commandId completion).Valid X)
    (hordered' : (journal.complete entry.commandId completion).Ordered)
    (heffect : (entry.complete completion).effect X = .bind request binding) :
    JournalHolds X (journal.complete entry.commandId completion) binding := by
  obtain ⟨projection, hprojection⟩ := hvalid.exists_projection hordered
  obtain ⟨projection', hprojection'⟩ := hvalid'.exists_projection hordered'
  obtain ⟨before, registered, -, -, haccepts, rfl⟩ :=
    projection_completed hrows hnone hprojection hprojection'
  rw [heffect] at haccepts hprojection'
  exact ⟨_, hprojection', holds_of_bind haccepts⟩

variable {io : ExecutionIo} {nodeId : Uuid}

/-- The claim of a bound apply that may be dispatched is not released in the journal. -/
theorem not_released_of_admitApply {u : Unit}
    (h : admitApply X nodeId journal io request (some binding) = .ok u) (hordered : journal.Ordered)
    (hclaims : ClaimInv X journal) : ¬ Released X journal.entries.rows binding.claimId := by
  simp only [admitApply, validateRuntimeResourceBindingSync, ok_rules] at h
  obtain ⟨-, ⟨-, projection, hprojection, happly⟩, -⟩ := h
  rw [hordered.projection] at hprojection
  obtain ⟨claim, hclaim, -, hactive, -⟩ := validateRuntimeApply_bound happly
  exact ((active_iff hprojection hclaims.preparesFirst binding.claimId).1
    ⟨claim, hclaim, hactive⟩).2

/-! ### An apply in time is journaled as succeeded -/

theorem applyReturned_bound (hpayload : envelope.payload = .runtimeApply request (some binding))
    (h : applyReturned X nodeId journal envelope io = true) :
    envelope.isExpiredAt io.startedAt = false ∧
      admitApply X nodeId journal io request (some binding) = .ok () ∧
      ∃ observation, io.runtimeApply = .ok observation := by
  simp only [applyReturned, hpayload, Bool.and_eq_true, Bool.not_eq_true'] at h
  obtain ⟨⟨hexpired, hadmitted⟩, happly⟩ := h
  refine ⟨hexpired, ?_, ?_⟩
  · cases ha : admitApply X nodeId journal io request (some binding) with
    | error => rw [ha] at hadmitted; cases hadmitted
    | ok => rfl
  · cases ha : io.runtimeApply with
    | error => rw [ha] at happly; cases happly
    | ok observation => exact ⟨observation, rfl⟩

/-- The outcome of an apply in time is the success with the observation tied to the binding. -/
theorem executionOutcome_inTime (hpayload : envelope.payload = .runtimeApply request (some binding))
    (h : applyReturned X nodeId journal envelope io = true)
    (htime : AppliesInTime X envelope request binding io) :
    ∃ published bound, binding.bindRuntimeObservation X published = .ok bound ∧
      X.observationValidateAgainst bound request.spec = .ok () ∧
      executionOutcome X nodeId journal envelope io = .succeeded (.runtimeApplied bound) := by
  obtain ⟨hexpired, hadmitted, observation, hobservation⟩ := applyReturned_bound hpayload h
  obtain ⟨hdeadline, hanswer⟩ := htime
  obtain ⟨published, hpublish, bound, hbind, hagainst⟩ := hanswer observation hobservation
  have hdispatch : dispatch X nodeId journal envelope io = .ok (.runtimeApplied bound) := by
    simp only [dispatch, hpayload, finishApply, ok_rules]
    exact ⟨hadmitted, observation, hobservation, bound, ⟨published, hpublish, hbind⟩, rfl⟩
  exact ⟨published, bound, hbind, hagainst,
    (executionOutcome_succeeded_iff X).2 ⟨hexpired, hdispatch, hdeadline⟩⟩

/-- The report of a bound apply with a tied observation is a valid acknowledgement. -/
theorem report_bound_apply (henvelope : envelope.Valid X)
    (hpayload : envelope.payload = .runtimeApply request (some binding))
    (hbind : binding.bindRuntimeObservation X published = .ok bound)
    (hagainst : X.observationValidateAgainst bound request.spec = .ok ())
    (houtcome : completion.outcome = .succeeded (.runtimeApplied bound))
    (hissued : envelope.issuedAt ≤ completion.completedAt) :
    (report envelope completion).validateAgainst X envelope = .ok () := by
  have hvalid := (bindRuntimeObservation_ok hbind).2.1
  have htied := validateRuntimeObservation_of_bind hbind
  rw [NodeCommandAck.validateAgainst_ok_iff]
  refine ⟨henvelope, .inl rfl, ⟨rfl, rfl, rfl, rfl, rfl⟩, hissued, ?_, ?_⟩
  · rw [show (report envelope completion).outcome = completion.outcome from rfl,
      houtcome]
    exact hvalid
  · intro result hresult
    rw [show (report envelope completion).outcome = completion.outcome from rfl,
      houtcome, NodeCommandOutcome.succeeded.injEq] at hresult
    subst hresult
    refine ⟨hvalid, ?_, ⟨none, rfl, rfl⟩, fun _ => rfl, rfl⟩
    simp only [NodeCommandResult.matchesCommand, hpayload, ok_rules]
    exact ⟨hagainst, htied⟩

/-- The replay accepts the success of a bound apply that was admitted. -/
theorem apply_bound_completion {before : ResourceClaimJournalProjection}
    (hpayload : entry.envelope.payload = .runtimeApply request (some binding))
    (hadmitted : before.validateRuntimeApply X request.spec (some binding) = .ok ())
    (hbind : binding.bindRuntimeObservation X published = .ok bound)
    (houtcome : completion.outcome = .succeeded (.runtimeApplied bound)) :
    ∃ after, before.apply X (entry.complete completion) = .ok after := by
  obtain ⟨claim, hclaim, -⟩ := validateRuntimeApply_bound hadmitted
  have hsettle := settle_bind hadmitted
    (validateRuntimeObservation_of_bind hbind) (by rw [hclaim]; rfl)
  have hregister : before.register (entry.complete completion) = .ok before := by
    simp only [register, JournalEntry.complete, hpayload]
    rfl
  have hsuccess : (entry.complete completion).success? = some (.runtimeApplied bound) := by
    obtain ⟨completedAt, outcome⟩ := completion
    simp only at houtcome
    subst houtcome
    rfl
  refine ⟨before.after (.bind request binding), ?_⟩
  simp only [ResourceClaimJournalProjection.apply, bind_ok_iff]
  refine ⟨before, hregister, ?_⟩
  rw [hsuccess]
  simp only [JournalEntry.complete, hpayload]
  exact hsettle

/-- **The success of a bound apply in time is accepted by the journal.** -/
theorem completeSync_inTime (hs : NodeInv X s) (htail : TailOpen s.journal)
    (hphase : s.phase = .begun envelope)
    (hpayload : envelope.payload = .runtimeApply request (some binding))
    (h : applyReturned X s.nodeId s.journal envelope io = true)
    (htime : AppliesInTime X envelope request binding io) :
    ∃ bound acknowledgement journal,
      (executionCompletion X s.nodeId s.journal envelope io).outcome =
        .succeeded (.runtimeApplied bound) ∧
      completeSync X s.nodeId s.journal envelope.commandId
        (executionCompletion X s.nodeId s.journal envelope io).completedAt
        (executionCompletion X s.nodeId s.journal envelope io).outcome =
          .ok (acknowledgement, journal) := by
  obtain ⟨published, bound, hbind, hagainst, houtcome⟩ := executionOutcome_inTime hpayload h htime
  obtain ⟨-, hadmitted, -⟩ := applyReturned_bound hpayload h
  obtain ⟨entry, hget, rfl, hnone⟩ := hs.running envelope (by rw [hphase]; rfl)
  have hentry := (Table.get?_eq_some_iff.1 hget).1
  obtain ⟨entries, hrows⟩ := rows_eq_concat hs.valid hs.ordered hentry (htail entry hentry hnone)
  have hissued := le_completionTimestamp entry.envelope
    (executionOutcome X s.nodeId s.journal entry.envelope io) io.completedAt
  have hack : (report entry.envelope
      (executionCompletion X s.nodeId s.journal entry.envelope io)).validateAgainst X
        entry.envelope = .ok () :=
    report_bound_apply (hs.valid.entries entry hentry).envelope hpayload hbind hagainst houtcome
      hissued
  refine ⟨bound, _, _, houtcome, completeSync_recorded hs.journalNode hs.valid hget hnone hack ?_⟩
  refine hs.valid.complete_last hs.ordered hrows hack ?_ ?_ ?_
  · intro before hbefore
    -- the projection the apply was admitted against is the one before its entry
    have happly := validateRuntimeApply_of_admit hs.ordered hrows hnone hpayload hadmitted hbefore
    exact apply_bound_completion hpayload happly hbind houtcome
  · intro bindings
    exact ⟨bindings, by simp only [applyCodeRun, JournalEntry.complete, hpayload]; rfl⟩
  · intro bindings _
    exact ⟨bindings, by simp only [applyProviderRun, JournalEntry.complete, hpayload]; rfl⟩

/-! ### The invariant -/

variable (X)

/-- The command of the sequence is journaled with its completion. -/
def Settled (journal : CommandJournal) (sequence : ℕ) : Prop :=
  ∃ entry ∈ journal.entries.rows, entry.sequence = sequence ∧ entry.completion ≠ none

/-- Every completion in the history is the one of an entry of the journal. -/
def Journaled (s : AgentState) : Prop :=
  ∀ envelope completion, NodeEvent.completed envelope completion ∈ s.history →
    ∃ entry ∈ s.journal.entries.rows, entry.envelope.payload = envelope.payload ∧
      entry.completion = some completion

/-- The command is journaled without a completion. -/
def OpenIn (journal : CommandJournal) (envelope : NodeCommandEnvelope) : Prop :=
  ∃ entry ∈ journal.entries.rows, entry.sequence = envelope.sequence ∧
    entry.core = (envelope.payload, none)

/-- A bound apply that has returned is about to be journaled as succeeded. -/
def Committing (s : AgentState) (envelope : NodeCommandEnvelope) : Prop :=
  ∃ completion bound acknowledgement journal,
    s.phase = .dispatched envelope completion true ∧
      completion.outcome = .succeeded (.runtimeApplied bound) ∧
      completeSync X s.nodeId s.journal envelope.commandId completion.completedAt
        completion.outcome = .ok (acknowledgement, journal)

/-- Why the claim of an application is not released unfenced: a fence followed it, the journal holds
the claim, or the command is still open, which keeps later ones from being begun. -/
inductive Guarded (journal : CommandJournal) (envelope : NodeCommandEnvelope)
    (binding : NodeResourceClaimBinding) (after : List NodeEvent) : Prop
  | fenced (h : FencedIn X envelope binding after)
  | held (h : JournalHolds X journal binding) (hsettled : Settled journal envelope.sequence)
  | pending (h : OpenIn journal envelope)

/-- Every application of a bound Runtime in the history is fenced, and stands as the predicate
says. -/
def AppliedIn (history : List NodeEvent)
    (stands : NodeCommandEnvelope → NodeResourceClaimBinding → List NodeEvent → Prop) : Prop :=
  ∀ before envelope after binding, history = before ++ .runtimeApplied envelope :: after →
    envelope.payload.boundClaim? = some binding →
      ApplyFenced X envelope binding before after ∧ stands envelope binding after

/-- What the steps of a node under `FencedStep` keep. -/
structure FencingInv (s : AgentState) : Prop where
  node : NodeInv X s
  claims : ClaimInv X s.journal
  tail : TailOpen s.journal
  journaled : Journaled s
  /-- A bound apply in execution whose Runtime an attempt has applied is about to be journaled as
  succeeded. -/
  running : ∀ envelope completion applied binding,
    s.phase = .dispatched envelope completion applied →
    envelope.payload.boundClaim? = some binding → AppliedBefore s.history envelope →
      Committing X s envelope
  applied : AppliedIn X s.history (Guarded X s.journal)

variable {X}

theorem Settled.keeps (h : KeepsEntries journal journal') {sequence : ℕ}
    (hsettled : Settled journal sequence) : Settled journal' sequence := by
  obtain ⟨entry, hentry, rfl, hcompletion⟩ := hsettled
  obtain ⟨entry', hget', hkeeps⟩ :=
    h entry.commandId entry (Table.get?_eq_some_iff.2 ⟨hentry, rfl⟩)
  obtain ⟨leaseId, henvelope⟩ := hkeeps.envelope
  obtain ⟨completion, hcompletion⟩ := Option.ne_none_iff_exists'.1 hcompletion
  refine ⟨entry', (Table.get?_eq_some_iff.1 hget').1, ?_, ?_⟩
  · rw [JournalEntry.sequence, henvelope]
    rfl
  · rw [hkeeps.completion completion hcompletion]
    exact Option.some_ne_none _

/-- The open command of a journal is later than every settled one. -/
theorem Settled.lt (hvalid : journal.Valid X) (htail : TailOpen journal) {sequence : ℕ}
    (hsettled : Settled journal sequence) (hentry : entry ∈ journal.entries.rows)
    (hnone : entry.completion = none) : sequence < entry.sequence := by
  obtain ⟨settled, hmem, rfl, hcompletion⟩ := hsettled
  have hle := (hvalid.sequence_le hmem).2
  rw [← htail entry hentry hnone] at hle
  refine lt_of_le_of_ne hle fun heq => hcompletion ?_
  rw [inj_on_of_nodup_map hvalid.nodup hmem hentry heq]
  exact hnone

theorem Journaled.released (h : Journaled s) (hevent : event ∈ s.history) {claimId : Uuid}
    (hreleases : event.Releases X claimId) : Released X s.journal.entries.rows claimId := by
  obtain ⟨request, heffect, hclaim⟩ := hreleases
  cases event with
  | dispatched | runtimeApplied => cases heffect
  | completed envelope completion =>
    obtain ⟨entry, hentry, hpayload, hcompletion⟩ := h envelope completion hevent
    refine ⟨entry, hentry, request, ?_, hclaim⟩
    rw [← heffect]
    refine effect_of_core ?_
    rw [core, hpayload, hcompletion]
    rfl

theorem Journaled.keeps (h : Journaled s) (hkeeps : KeepsEntries s.journal s'.journal)
    (hevent : .completed envelope completion ∈ s.history) :
    ∃ entry ∈ s'.journal.entries.rows, entry.envelope.payload = envelope.payload ∧
      entry.completion = some completion := by
  obtain ⟨entry, hentry, hpayload, hcompletion⟩ := h envelope completion hevent
  obtain ⟨entry', hget', hkept⟩ :=
    hkeeps entry.commandId entry (Table.get?_eq_some_iff.2 ⟨hentry, rfl⟩)
  obtain ⟨leaseId, henvelope⟩ := hkept.envelope
  refine ⟨entry', (Table.get?_eq_some_iff.1 hget').1, ?_, hkept.completion _ hcompletion⟩
  rw [henvelope, ← hpayload]
  rfl

/-! ### What a step keeps -/

theorem AppliedIn.mono (h : AppliedIn X history stands)
    (hmono : ∀ envelope binding after, envelope.payload.boundClaim? = some binding →
      stands envelope binding after → stands' envelope binding after) :
    AppliedIn X history stands' := by
  intro before envelope after binding hsplit hbound
  obtain ⟨hfenced, hstands⟩ := h before envelope after binding hsplit hbound
  exact ⟨hfenced, hmono envelope binding after hbound hstands⟩

/-- One more event: it releases no earlier application unfenced, and if it is itself an application
then nothing released its claim before. -/
theorem AppliedIn.concat (h : AppliedIn X history stands)
    (hold : ∀ envelope binding after, envelope.payload.boundClaim? = some binding →
      .runtimeApplied envelope ∈ history → stands envelope binding after →
        (event.Releases X binding.claimId → FencedIn X envelope binding after) ∧
        stands' envelope binding (after ++ [event]))
    (hnew : ∀ envelope binding, envelope.payload.boundClaim? = some binding →
      event = .runtimeApplied envelope →
        (∀ event ∈ history, ¬ event.Releases X binding.claimId) ∧ stands' envelope binding []) :
    AppliedIn X (history ++ [event]) stands' := by
  intro before envelope after binding hsplit hbound
  rcases concat_eq_split hsplit with ⟨rfl, hevent, rfl⟩ | ⟨after', rfl, hsplit'⟩
  · obtain ⟨hfresh, hstands⟩ := hnew envelope binding hbound hevent.symm
    refine ⟨⟨hfresh, fun middle event rest hnil => ?_⟩, hstands⟩
    exact absurd hnil.symm (by simp)
  · obtain ⟨hfenced, hstands⟩ := h before envelope after' binding hsplit' hbound
    have hmem : .runtimeApplied envelope ∈ history := by rw [hsplit']; simp
    obtain ⟨hrelease, hstands'⟩ := hold envelope binding after' hbound hmem hstands
    exact ⟨hfenced.concat hrelease, hstands'⟩

theorem Guarded.concat (h : Guarded X journal envelope binding after) (event : NodeEvent) :
    Guarded X journal envelope binding (after ++ [event]) := by
  cases h with
  | fenced h => exact .fenced (h.append [event])
  | held h hsettled => exact .held h hsettled
  | pending h => exact .pending h

/-- An event that releases no claim leaves every application guarded. -/
theorem AppliedIn.concat_guarded (h : AppliedIn X history (Guarded X journal))
    (hreleases : ∀ claimId, ¬ event.Releases X claimId)
    (hnew : ∀ envelope binding, envelope.payload.boundClaim? = some binding →
      event = .runtimeApplied envelope →
        (∀ event ∈ history, ¬ event.Releases X binding.claimId) ∧ OpenIn journal envelope) :
    AppliedIn X (history ++ [event]) (Guarded X journal) := by
  refine h.concat (fun envelope binding after hbound _ hstands => ?_)
    fun envelope binding hbound hevent => ?_
  · exact ⟨fun hrelease => absurd hrelease (hreleases _), hstands.concat _⟩
  · obtain ⟨hfresh, hopen⟩ := hnew envelope binding hbound hevent
    exact ⟨hfresh, .pending hopen⟩

theorem OpenIn.mapRows (h : OpenIn journal envelope) {f : JournalEntry → JournalEntry}
    (hrows : journal'.entries.rows = journal.entries.rows.map f)
    (hf : ∀ entry, (f entry).sequence = entry.sequence ∧ (f entry).core = entry.core) :
    OpenIn journal' envelope := by
  obtain ⟨entry, hentry, hsequence, hcore⟩ := h
  refine ⟨f entry, ?_, (hf entry).1.trans hsequence, (hf entry).2.trans hcore⟩
  rw [hrows]
  exact mem_map_of_mem hentry

theorem OpenIn.begun (h : OpenIn journal envelope)
    (hbegun : Begun (X := X) journal envelope' decision journal') : OpenIn journal' envelope := by
  cases hbegun with
  | redelivered =>
    refine h.mapRows rfl fun entry => ?_
    split_ifs <;> exact ⟨rfl, rfl⟩
  | received fenced hget hsequence hfence =>
    obtain ⟨entry, hentry, hopen⟩ := h
    refine ⟨entry, ?_, hopen⟩
    rw [CommandJournal.rows_receive hfence hget]
    exact mem_append_left _ hentry

theorem Guarded.begun (h : Guarded X journal envelope binding after)
    (hbegun : Begun (X := X) journal envelope' decision journal') (hvalid' : journal'.Valid X)
    (hordered' : journal'.Ordered) : Guarded X journal' envelope binding after := by
  cases h with
  | fenced h => exact .fenced h
  | held h hsettled => exact .held (h.begun hbegun hvalid' hordered') (hsettled.keeps hbegun.keeps)
  | pending h => exact .pending (h.begun hbegun)

theorem Guarded.acknowledge (h : Guarded X journal envelope binding after) (commandId : Uuid)
    (sequence : ℕ) : Guarded X
      { journal.acknowledge commandId with lastAcknowledgedSequence := sequence } envelope binding
      after := by
  cases h with
  | fenced h => exact .fenced h
  | held h hsettled =>
    exact .held (h.acknowledge commandId) (hsettled.keeps (journal.keeps_acknowledge commandId))
  | pending h =>
    refine .pending (h.mapRows rfl fun entry => ?_)
    split_ifs <;> exact ⟨rfl, rfl⟩

/-- A bound apply whose Runtime this attempt or an earlier one applied has, under the condition, a
claim that was not released before, and its success is about to be journaled. -/
theorem FencingInv.dispatched (h : FencingInv X s) (hphase : s.phase = .begun envelope)
    (hok : FencedStep X s (.dispatch io)) (hnode : s'.nodeId = s.nodeId)
    (hjournal : s'.journal = s.journal) (hphase' : s'.phase = .dispatched envelope
      (executionCompletion X s.nodeId s.journal envelope io)
      (applyReturned X s.nodeId s.journal envelope io))
    (hbound : envelope.payload.boundClaim? = some binding)
    (happlied : applyReturned X s.nodeId s.journal envelope io = true ∨
      AppliedBefore s.history envelope) :
    ¬ Released X s.journal.entries.rows binding.claimId ∧ Committing X s' envelope := by
  cases hpayload : envelope.payload with
  | runtimeApply request resourceClaim =>
    rw [hpayload] at hbound
    change resourceClaim = some binding at hbound
    subst hbound
    obtain ⟨hreturned, htime⟩ := hok envelope request binding hphase hpayload happlied
    refine ⟨not_released_of_admitApply (applyReturned_bound hpayload hreturned).2.1
      h.node.ordered h.claims, ?_⟩
    obtain ⟨bound, acknowledgement, journal, houtcome, hcomplete⟩ :=
      completeSync_inTime h.node h.tail hphase hpayload hreturned htime
    refine ⟨_, bound, acknowledgement, journal, by rw [hphase', hreturned], houtcome, ?_⟩
    rw [hnode, hjournal]
    exact hcomplete
  | _ => rw [hpayload] at hbound; cases hbound

theorem appliedBefore_dispatched
    (h : AppliedBefore (history ++ dispatchEvents envelope applied) envelope) :
    applied = true ∨ AppliedBefore history envelope := by
  obtain ⟨event, hevent, hsequence⟩ := h
  rw [dispatchEvents, mem_append, mem_cons] at hevent
  rcases hevent with hevent | rfl | hevent
  · exact .inr ⟨event, hevent, hsequence⟩
  · cases hsequence
  · cases applied with
    | false => cases hevent
    | true => exact .inl rfl

theorem NodeInv.openIn (h : NodeInv X s) (hphase : s.phase = .begun envelope) :
    OpenIn s.journal envelope := by
  obtain ⟨entry, hget, rfl, hnone⟩ := h.running envelope (by rw [hphase]; rfl)
  exact ⟨entry, (Table.get?_eq_some_iff.1 hget).1, rfl, by rw [core, hnone]⟩

theorem FencingInv.applied_dispatched (h : FencingInv X s) (hphase : s.phase = .begun envelope)
    (hdispatched : applied = true → ∀ binding, envelope.payload.boundClaim? = some binding →
      ¬ Released X s.journal.entries.rows binding.claimId) :
    AppliedIn X (s.history ++ dispatchEvents envelope applied) (Guarded X s.journal) := by
  have hfirst : AppliedIn X (s.history ++ [.dispatched envelope]) (Guarded X s.journal) :=
    h.applied.concat_guarded (not_releases_dispatched envelope)
      fun envelope' binding hbound hevent => by cases hevent
  cases applied with
  | false => exact hfirst
  | true =>
    rw [show s.history ++ dispatchEvents envelope true =
      (s.history ++ [.dispatched envelope]) ++ [.runtimeApplied envelope] by
        simp [dispatchEvents]]
    refine hfirst.concat_guarded (not_releases_runtimeApplied envelope)
      fun envelope' binding hbound hevent => ?_
    cases hevent
    refine ⟨fun event hevent hreleases => ?_, h.node.openIn hphase⟩
    rw [mem_append, mem_singleton] at hevent
    rcases hevent with hevent | rfl
    · exact hdispatched rfl binding hbound (h.journaled.released hevent hreleases)
    · exact not_releases_dispatched _ _ hreleases

theorem completed_entry (hs : NodeInv X s) (htail : TailOpen s.journal)
    (hphase : s.phase = .dispatched envelope completion applied)
    (hcomplete : completeSync X s.nodeId s.journal envelope.commandId completion.completedAt
      completion.outcome = .ok (acknowledgement, journal)) :
    ∃ entry entries, entry.envelope = envelope ∧ entry.completion = none ∧
      s.journal.entries.rows = entries ++ [entry] ∧
      journal = s.journal.complete entry.commandId completion := by
  obtain ⟨entry, hget, henvelope, hnone, hjournal⟩ :=
    hs.completeSync_ok (by rw [hphase]; rfl) hcomplete
  have hentry := (Table.get?_eq_some_iff.1 hget).1
  obtain ⟨entries, hrows⟩ := rows_eq_concat hs.valid hs.ordered hentry (htail entry hentry hnone)
  exact ⟨entry, entries, henvelope, hnone, hrows, hjournal⟩

/-- The success of a bound apply binds its claim. -/
theorem effect_complete_bound {entry : JournalEntry} {bound : RuntimeObservation}
    (hbound : entry.envelope.payload.boundClaim? = some binding)
    (houtcome : completion.outcome = .succeeded (.runtimeApplied bound)) :
    ∃ request, (entry.complete completion).effect X = .bind request binding := by
  cases hpayload : entry.envelope.payload with
  | runtimeApply request resourceClaim =>
    rw [hpayload] at hbound
    change resourceClaim = some binding at hbound
    subst hbound
    refine ⟨request, ?_⟩
    obtain ⟨completedAt, outcome⟩ := completion
    simp only at houtcome
    subst houtcome
    simp only [effect, success?, JournalEntry.complete, hpayload]
    rfl
  | _ => rw [hpayload] at hbound; cases hbound

/-- What one completion does to an application: it is released only behind a fence, and it is guarded
afterwards. -/
theorem FencingInv.completed (h : FencingInv X s)
    (hphase : s.phase = .dispatched envelope completion applied)
    (hcomplete : completeSync X s.nodeId s.journal envelope.commandId completion.completedAt
      completion.outcome = .ok (acknowledgement, journal))
    (hbound : envelope'.payload.boundClaim? = some binding)
    (hstands : Guarded X s.journal envelope' binding after)
    (happlied : .runtimeApplied envelope' ∈ s.history) :
    ((NodeEvent.completed envelope completion).Releases X binding.claimId →
      FencedIn X envelope' binding after) ∧
    Guarded X journal envelope' binding (after ++ [.completed envelope completion]) := by
  obtain ⟨entry, entries, rfl, hnone, hrows, rfl⟩ :=
    completed_entry h.node h.tail hphase hcomplete
  have hentry : entry ∈ s.journal.entries.rows := by rw [hrows]; simp
  have hvalid' := (completeSync_ok hcomplete).2.2.1
  have hordered' := h.node.ordered.complete entry.commandId completion
  have hkeeps := (completeSync_ok hcomplete).2.2.2.keeps
  have heffect : (NodeEvent.completed entry.envelope completion).effect X =
      (entry.complete completion).effect X := effect_of_core rfl
  rcases hstands with hfenced | ⟨hholds, hsettled⟩ | ⟨opened, hopened, hsequence, hcore⟩
  · exact ⟨fun _ => hfenced, .fenced (hfenced.append _)⟩
  · -- the claim is held: the completion keeps it held or fences it, and cannot release it
    obtain ⟨hafter, hrelease⟩ := hholds.complete hrows hnone hvalid' hordered'
    constructor
    · rintro ⟨request, hreleases, hclaim⟩
      exact absurd hclaim (hrelease request (heffect.symm.trans hreleases))
    · rcases hafter with hfence | hholds'
      · refine .fenced ⟨_, mem_append_right _ (mem_singleton.2 rfl),
          heffect.trans hfence, ?_⟩
        exact hsettled.lt h.node.valid h.tail hentry hnone
      · exact .held hholds' (hsettled.keeps hkeeps)
  · -- the open command is the one in execution, and its completion is the success that binds its
    -- claim
    obtain ⟨hpayload', hnone'⟩ := Prod.mk.injEq .. ▸ hcore
    obtain rfl : entry = opened := inj_on_of_nodup_map h.node.valid.nodup hentry hopened
      ((h.tail entry hentry hnone).trans (h.tail opened hopened hnone').symm)
    rw [← hpayload'] at hbound
    obtain ⟨completion', bound, -, -, hphase', houtcome, -⟩ := h.running _ _ _ _ hphase hbound
      ⟨_, happlied, congrArg some hsequence.symm⟩
    rw [hphase, Phase.dispatched.injEq] at hphase'
    obtain ⟨-, rfl, -⟩ := hphase'
    obtain ⟨request, hbind⟩ := effect_complete_bound (X := X) hbound houtcome
    constructor
    · rintro ⟨release, hreleases, -⟩
      rw [heffect, hbind] at hreleases
      cases hreleases
    · refine .held (journalHolds_of_bind hrows hnone h.node.valid h.node.ordered hvalid'
        hordered' hbind) ⟨entry.complete completion, ?_, hsequence, Option.some_ne_none _⟩
      rw [CommandJournal.rows_complete_last hrows]
      simp

theorem FencedStep.inOrder (h : FencedStep X s action) : InOrderStep s action := by
  cases action with
  | begin => exact h
  | _ => trivial

theorem journaled_step (hstep : NodeStep X s action s') (hs : NodeInv X s)
    (htail : TailOpen s.journal) (h : Journaled s) : Journaled s' := by
  have hkeeps := keeps_step hstep
  intro envelope completion hevent
  cases hstep with
  | dispatched =>
    rw [dispatchEvents, mem_append, mem_cons] at hevent
    rcases hevent with hevent | hevent | hevent
    · exact h.keeps hkeeps hevent
    · cases hevent
    · split_ifs at hevent
      · cases mem_singleton.1 hevent
      · cases hevent
  | completed envelope' completion' applied acknowledgement journal hphase hcomplete =>
    rw [mem_append, mem_singleton] at hevent
    rcases hevent with hevent | hevent
    · exact h.keeps hkeeps hevent
    · cases hevent
      obtain ⟨entry, entries, rfl, hnone, hrows, rfl⟩ := completed_entry hs htail hphase hcomplete
      refine ⟨entry.complete completion, ?_, rfl, rfl⟩
      rw [CommandJournal.rows_complete_last hrows]
      simp
  | _ => exact h.keeps hkeeps hevent

theorem fencingInv_init (h : nodeId ≠ 0) : FencingInv X (init nodeId) where
  node := nodeInv_init h
  claims := claimInv_empty nodeId
  tail := tailOpen_empty nodeId
  journaled := by intro envelope completion hevent; cases hevent
  running := by intro envelope completion applied binding hphase; cases hphase
  applied := by
    intro before envelope after binding hsplit
    exact absurd hsplit (by simp [init])

theorem fencingInv_step (hstep : NodeStep X s action s') (h : FencingInv X s)
    (hok : FencedStep X s action) : FencingInv X s' := by
  have hnode := nodeInv_step hstep h.node
  refine ⟨hnode, claimInv_step hstep h.node h.claims,
    tailOpen_step hstep h.node h.tail hok.inOrder,
    journaled_step hstep h.node h.tail h.journaled, ?_, ?_⟩
  · -- the only step into a dispatched command is its dispatch
    intro envelope completion applied binding hphase' hbound happlied
    cases hstep with
    | stay => exact h.running envelope completion applied binding hphase' hbound happlied
    | dispatched envelope' io hphase =>
      obtain ⟨rfl, -, -⟩ := Phase.dispatched.injEq .. ▸ hphase'
      refine And.right (h.dispatched hphase hok ?_ ?_ ?_ hbound
        (appliedBefore_dispatched happlied)) <;> rfl
    | replayed envelope' acknowledgement journal hphase | acknowledged receipt journal hphase =>
      simp only [hphase] at hphase'
      cases hphase'
    | _ => cases hphase'
  · cases hstep with
    | stay | refused | crashed => exact h.applied
    | begun envelope journal hphase hbegin
    | replayed envelope acknowledgement journal hphase hbegin =>
      obtain ⟨-, -, -, -, hvalid', hbegun⟩ := beginSync_ok hbegin
      exact h.applied.mono fun _ _ _ _ hguarded => hguarded.begun hbegun hvalid' hnode.ordered
    | dispatched envelope io hphase =>
      refine h.applied_dispatched hphase fun happlied binding hbound => ?_
      have hphase' : (AgentState.dispatch X s io).phase = .dispatched envelope
          (executionCompletion X s.nodeId s.journal envelope io)
          (applyReturned X s.nodeId s.journal envelope io) := by
        simp [AgentState.dispatch, hphase]
      refine And.left (h.dispatched hphase hok ?_ ?_ hphase' hbound (.inl happlied)) <;>
        simp [AgentState.dispatch, hphase]
    | completed envelope completion applied acknowledgement journal hphase hcomplete =>
      refine h.applied.concat (fun envelope' binding after hbound hmem hguarded => ?_)
        fun envelope' binding hbound hevent => by cases hevent
      exact h.completed hphase hcomplete hbound hguarded hmem
    | acknowledged receipt journal hphase hmark =>
      obtain ⟨-, -, -, entry, -, -, rfl⟩ := markAcknowledgedSync_ok hmark
      exact h.applied.mono fun _ _ _ _ hguarded => hguarded.acknowledge receipt.commandId _

/-- **A claim is released behind its Runtime**, in every run of a node whose steps meet the
condition. -/
theorem releaseFenced_run (h : nodeId ≠ 0) {actions : List NodeAction}
    (hall : Allowed (step X) (FencedStep X) (init nodeId) actions) :
    ReleaseFenced X (run (step X) (init nodeId) actions).history := by
  have hinv : FencingInv X (run (step X) (init nodeId) actions) :=
    invariant (fun s action hs hok => fencingInv_step (nodeStep_step s action) hs hok)
      (fencingInv_init h) hall
  intro before envelope after binding hsplit hbound
  exact (hinv.applied before envelope after binding hsplit hbound).1

end

namespace Sample

def boundApply : NodeCommandEnvelope :=
  command 2 workloadId (.runtimeApply (applyRequest none) (some binding))

/-- The claim is prepared, and released after the given commands. -/
def prepareAndRelease (between : List NodeAction) (sequence : ℕ) : List NodeAction :=
  attempt (command 1 claimId (.resourceClaimPrepare prepare)) (io (seconds 11)) ++ between ++
    attempt (command sequence claimId (.resourceClaimRelease (release 2)))
      (io (seconds (10 * sequence + 1)))

/-- The process crashes after the Runtime is applied, applies it once more in time when the command
is redelivered, stops it, and releases its claim. -/
def releaseAfterStop : List NodeAction :=
  prepareAndRelease ([.begin boundApply, .dispatch (io (seconds 21)), .crash] ++
    attempt boundApply (io (seconds 22)) ++
    attempt (command 3 workloadId (.runtimeStop actionRequest)) (io (seconds 31))) 4

/-- The Runtime is applied ten seconds late, and its claim released at once. -/
def releaseAfterLateApply : List NodeAction :=
  prepareAndRelease (attempt boundApply
    { io (seconds 21) with checkedAt := seconds 31, completedAt := seconds 31 }) 3

end Sample

theorem releaseFenced_after_stop :
    Allowed (step external) (FencedStep external)
        (init Sample.nodeId) releaseAfterStop ∧
      ReleaseFenced external (run (step external)
        (init Sample.nodeId) releaseAfterStop).history := by
  have hallowed : Allowed (step external) (FencedStep external)
      (init Sample.nodeId) releaseAfterStop := by decide +kernel
  exact ⟨hallowed, releaseFenced_run (by decide) hallowed⟩

/-- **The fence is not complete**: an apply that returns after the deadline of its command is
journaled as failed, its claim stays unbound, and the next release succeeds with the Runtime
running. -/
theorem release_after_late_apply :
    ¬ ReleaseFenced external (run (step external)
      (init Sample.nodeId) releaseAfterLateApply).history := by
  intro h
  generalize hhistory : (run (step external) (init Sample.nodeId)
    releaseAfterLateApply).history = history at h
  -- the fourth event is the application, the last one the release, and no event is a fence
  have happlied : history = history.take 3 ++ .runtimeApplied boundApply ::
      ((history.drop 4).take 2 ++ history.drop 6) := by
    rw [← hhistory]
    decide +kernel
  have hreleased : (history.drop 6).map (NodeEvent.effect external) =
      [.release (Sample.release 2)] := by
    rw [← hhistory]
    decide +kernel
  have hunfenced : ∀ event ∈ (history.drop 4).take 2,
      event.effect external ≠ .fence "u" 1 := by
    rw [← hhistory]
    decide +kernel
  obtain ⟨event, hevent, heffect⟩ := map_eq_singleton_iff.1 hreleased
  obtain ⟨fence, hfence, hfences, -⟩ := (h _ _ _ _ happlied rfl).fenced _ event [] (by rw [hevent])
    ⟨_, heffect, rfl⟩
  exact hunfenced fence hfence hfences

end A3SCloud
