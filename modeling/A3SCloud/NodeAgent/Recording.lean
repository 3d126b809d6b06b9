import A3SCloud.Agents.ExecutionFlow
import A3SCloud.NodeAgent.InOrder

/-!
# Recording the success of a command

A command that was executed is recorded by `complete_sync`, which refuses a completion with which the
journal would not pass its own check. The check replays three projections of the whole journal. The
replay of the provider runs lets an execution of a provider other than the native one keep one
binding only (`ChangesRun`), although a process recovery gives the execution a new run.

* `completeSync_iff`: the success of an Agent or deployment command that was executed in order is
  recorded exactly when it does not change the run of its execution.
* `success_recorded` puts this together with the streams that the flows enqueue.
-/

namespace A3SCloud

open Checks Runs ResourceClaimJournalProjection List CommandJournal NodeAgentProviderRuntimeBinding
  NodeCommandPayload

variable (X : External)

/-- What the content checks of provider commands look at. -/
structure External.ChecksProviders : Prop where
  /-- A provider command that passes its check has a binding with a profile. -/
  profile : ∀ binding command,
    X.adapterRequestValidate (.agentProviderCommand binding command) = .ok () →
      ∃ profile, X.providerProfile binding = .ok profile
  /-- Only a receipt answers a provider command. -/
  receipt : ∀ binding command result,
    X.adapterResultValidateFor (.agentProviderCommand binding command) result = .ok () →
      ∃ receipt, result = .agentProviderCommandAccepted receipt

/-- The commands of the Agent execution and deployment flows. -/
def NodeCommandPayload.InFlows : NodeCommandPayload → Prop
  | .adapter (.agentProviderCommand _ _) | .runtimeApply _ _ | .runtimeStop _ | .runtimeRemove _ =>
    True
  | _ => False

/-- A command to a provider other than the native one, for an execution which has another binding in
the journal. -/
def ChangesRun (journal : CommandJournal) (payload : NodeCommandPayload) : Prop :=
  ∃ binding bindings existing, payload.providerBinding? = some binding ∧ binding.Foreign X ∧
    journal.providerRunBindingsProjection X = .ok bindings ∧
      bindings.get? binding.executionId = some existing ∧ existing ≠ binding

/-- The journal accepts the completion of a command. -/
def Recorded (s : AgentState) (envelope : NodeCommandEnvelope) (completion : JournalCompletion) :
    Prop :=
  ∃ acknowledgement journal, completeSync X s.nodeId s.journal envelope.commandId
    completion.completedAt completion.outcome = .ok (acknowledgement, journal)

variable {X}

/-! ### The replay of a completed command -/

variable {binding : NodeAgentProviderRuntimeBinding}

theorem NodeCommandPayload.providerBinding?_eq_some {payload : NodeCommandPayload} :
    payload.providerBinding? = some binding ↔
      ∃ command, payload = .adapter (.agentProviderCommand binding command) := by
  unfold providerBinding?
  split <;> simp_all

variable {entry : JournalEntry} {completion : JournalCompletion} {result : NodeCommandResult}
  {journal : CommandJournal} {bindings : Table executionId}
  {s : AgentState}

theorem success?_complete (houtcome : completion.outcome = .succeeded result) :
    (entry.complete completion).success? = some result := by
  obtain ⟨completedAt, outcome⟩ := completion
  cases houtcome
  rfl

/-- The replay of the claims accepts the success of a command of the flows that matches it; an apply
has to be admitted. -/
theorem apply_flow_completion {before : ResourceClaimJournalProjection}
    (hflow : entry.envelope.payload.InFlows) (houtcome : completion.outcome = .succeeded result)
    (hmatches : result.matchesCommand X entry.envelope = .ok ())
    (hadmitted : ∀ request binding, entry.envelope.payload = .runtimeApply request binding →
      before.validateRuntimeApply X request.spec binding = .ok ()) :
    ∃ after, before.apply X (entry.complete completion) = .ok after := by
  have hpayload : (entry.complete completion).envelope.payload = entry.envelope.payload := rfl
  have hregister : before.register (entry.complete completion) = .ok before := by
    unfold register
    rw [hpayload]
    split
    · simp_all [InFlows]
    · simp_all [InFlows]
    · rfl
  have hsettle : ∃ after, before.settle X entry.envelope.payload result = .ok after := by
    unfold NodeCommandResult.matchesCommand at hmatches
    cases hcommand : entry.envelope.payload with
    | runtimeApply request binding =>
      have hadmit := hadmitted request binding hcommand
      rw [hcommand] at hmatches
      cases result with
      | runtimeApplied =>
        cases binding with
        | none => exact ⟨before, by simp only [settle, hadmit]; rfl⟩
        | some =>
          simp only [ok_rules] at hmatches
          obtain ⟨claim, hclaim, -⟩ := validateRuntimeApply_bound hadmit
          exact ⟨_, settle_bind hadmit hmatches.2 (by rw [hclaim]; rfl)⟩
      | _ => cases hmatches
    | runtimeStop =>
      cases result with
      | runtimeStopped =>
        simp only [settle]
        split_ifs
        · exact ⟨_, rfl⟩
        · exact ⟨_, rfl⟩
      | _ => exact ⟨before, rfl⟩
    | runtimeRemove => cases result <;> exact ⟨_, rfl⟩
    | adapter => cases result <;> exact ⟨before, rfl⟩
    | _ =>
      rw [hcommand] at hflow
      exact hflow.elim
  obtain ⟨after, hafter⟩ := hsettle
  refine ⟨after, ?_⟩
  simp only [ResourceClaimJournalProjection.apply, hregister, success?_complete houtcome]
  exact hafter

/-- The open last command of a journal binds no provider run. -/
theorem providerRuns_open (hordered : journal.Ordered) {entries : List JournalEntry}
    (hrows : journal.entries.rows = entries ++ [entry]) (hnone : entry.completion = none) :
    journal.providerRunBindingsProjection X = entries.foldlM (applyProviderRun X) Table.empty := by
  have hopen : entry.success? = none := by
    unfold JournalEntry.success?
    rw [hnone]
  rw [providerRunBindingsProjection, hordered.bySequence, hrows, foldlM_append]
  simp only [foldlM_cons, applyProviderRun_of_none hopen, foldlM_nil]
  cases entries.foldlM (applyProviderRun X) Table.empty <;> rfl

/-- The replay of the Code runs accepts every success that matches its command. -/
theorem applyCodeRun_ok {bindings : Table NodeCodeAgentRuntimeBinding.executionId}
    (houtcome : completion.outcome = .succeeded result)
    (hmatches : result.matchesCommand X entry.envelope = .ok ()) :
    ∃ bindings', applyCodeRun X bindings (entry.complete completion) = .ok bindings' := by
  have hsame : (entry.complete completion).envelope.payload = entry.envelope.payload := rfl
  unfold NodeCommandResult.matchesCommand at hmatches
  unfold applyCodeRun
  rw [hsame, success?_complete houtcome]
  split
  · rename_i hpayload hresult
    cases hresult
    rw [hpayload] at hmatches
    simp only [AdapterResult.unstamped] at hmatches
    simp only [hmatches, Except.mapError, bind, Except.bind]
    split
    · exact ⟨_, rfl⟩
    · exact ⟨_, rfl⟩
  · rename_i hpayload hresult
    cases hresult
    rw [hpayload] at hmatches
    simp only [AdapterResult.unstamped] at hmatches
    exact ⟨_, by simp only [hmatches, Except.mapError, bind, Except.bind]; rfl⟩
  · split_ifs
    · exact ⟨_, rfl⟩
    · exact ⟨_, rfl⟩
  · exact ⟨_, rfl⟩

/-- A command that is not sent to a provider changes no provider run, or removes some. -/
theorem applyProviderRun_ok_of_none {entry : JournalEntry}
    (hnone : entry.envelope.payload.providerBinding? = none) (bindings : Table executionId) :
    ∃ bindings', applyProviderRun X bindings entry = .ok bindings' := by
  unfold applyProviderRun
  split
  · rename_i hpayload _
    rw [hpayload] at hnone
    cases hnone
  · split_ifs
    · exact ⟨_, rfl⟩
    · exact ⟨_, rfl⟩
  · exact ⟨_, rfl⟩

/-- The replay of the provider runs accepts the success of a provider command exactly when it finds
no other binding for an execution of another provider. -/
theorem applyProviderRun_ok_iff (hX : X.ChecksProviders) {command : AgentCommand}
    (hpayload : entry.envelope.payload = .adapter (.agentProviderCommand binding command))
    (hvalid : entry.envelope.Valid X) (houtcome : completion.outcome = .succeeded result)
    (hmatches : result.matchesCommand X entry.envelope = .ok ()) :
    (∃ bindings', applyProviderRun X bindings (entry.complete completion) = .ok bindings') ↔
      (binding.Foreign X → ∀ existing, bindings.get? binding.executionId = some existing →
        existing = binding) := by
  have hcheck := hvalid.payload
  rw [hpayload] at hcheck
  obtain ⟨profile, hprofile⟩ := hX.profile binding command hcheck
  unfold NodeCommandResult.matchesCommand at hmatches
  rw [hpayload] at hmatches
  have hforeign : binding.Foreign X ↔ profile.kind ≠ "a3s.code" := by
    simp [Foreign, hprofile]
  cases result with
  | adapter answer =>
    obtain ⟨receipt, hreceipt⟩ := hX.receipt _ _ _ hmatches
    have hanswer : answer = .agentProviderCommandAccepted receipt := by
      cases answer <;> simp_all [AdapterResult.unstamped]
    subst hanswer
    have hsame : (entry.complete completion).envelope.payload = entry.envelope.payload := rfl
    simp only [AdapterResult.unstamped] at hmatches
    simp only [applyProviderRun, hsame, hpayload, success?_complete houtcome, hmatches, hprofile,
      hforeign]
    by_cases hkind : profile.kind = "a3s.code"
    · simp [hkind, Except.mapError, bind, Except.bind, pure, Except.pure]
    · simp only [hkind, ne_eq, not_false_eq_true, if_true, ok_rules, Except.ok.injEq,
        exists_eq_left', forall_const]
      cases hget : bindings.get? binding.executionId <;> simp
  | _ => cases hmatches

/-! ### The completion of a command executed in order -/

/-- **The success of a command of the flows that was executed in order is recorded exactly when it
does not change the run of its execution.** -/
theorem completeSync_iff (hX : X.ChecksProviders) (hs : NodeInv X s) (htail : TailOpen s.journal)
    {envelope : NodeCommandEnvelope} (hphase : s.phase = .begun envelope)
    (hflow : envelope.payload.InFlows) {io : ExecutionIo}
    (houtcome : (executionCompletion X s.nodeId s.journal envelope io).outcome = .succeeded result)
    (hack : (JournalEntry.report envelope
      (executionCompletion X s.nodeId s.journal envelope io)).validateAgainst X envelope = .ok ()) :
    Recorded X s envelope (executionCompletion X s.nodeId s.journal envelope io) ↔
      ¬ ChangesRun X s.journal envelope.payload := by
  obtain ⟨entry, hget, rfl, hnone⟩ := hs.running envelope (by rw [hphase]; rfl)
  have hentry := (Table.get?_eq_some_iff.1 hget).1
  obtain ⟨entries, hrows⟩ := rows_eq_concat hs.valid hs.ordered hentry (htail entry hentry hnone)
  have henvelope := (hs.valid.entries entry hentry).envelope
  have hopen := providerRuns_open (X := X) hs.ordered hrows hnone
  have hdispatch := ((executionOutcome_succeeded_iff X).1 houtcome).2.1
  generalize executionCompletion X s.nodeId s.journal entry.envelope io = completion at *
  have hmatches : result.matchesCommand X entry.envelope = .ok () :=
    ((NodeCommandAck.validateAgainst_ok_iff.1 hack).2.2.2.2.2 result houtcome).matchesCommand
  constructor
  · rintro ⟨acknowledgement, journal, hcomplete⟩ ⟨binding, bindings, existing, hbinding, hforeign,
      hbindings, hexisting, hne⟩
    obtain ⟨command, hpayload⟩ := providerBinding?_eq_some.1 hbinding
    have hvalid := (completeSync_ok hcomplete).2.2.1
    obtain ⟨entry', hget', henvelope', -, rfl⟩ := hs.completeSync_ok (by rw [hphase]; rfl) hcomplete
    have hid : entry'.commandId = entry.commandId := congrArg (·.commandId) henvelope'
    obtain ⟨after, hafter⟩ := hvalid.providerRuns
    rw [hid, providerRunBindingsProjection,
      (hs.ordered.complete entry.commandId completion).bySequence,
      rows_complete_last hrows, foldlM_append, ← hopen, hbindings] at hafter
    have hstep : applyProviderRun X bindings (entry.complete completion) = .ok after := by
      simpa using hafter
    exact hne ((applyProviderRun_ok_iff hX hpayload henvelope houtcome hmatches).1 ⟨after, hstep⟩
      hforeign existing hexisting)
  · intro hchanges
    refine ⟨_, _, completeSync_recorded hs.journalNode hs.valid hget hnone hack ?_⟩
    refine hs.valid.complete_last hs.ordered hrows hack (fun before hbefore => ?_)
      (fun bindings => applyCodeRun_ok houtcome hmatches) (fun bindings hbindings => ?_)
    · refine apply_flow_completion hflow houtcome hmatches fun request binding hpayload => ?_
      simp only [dispatch, hpayload, ok_rules] at hdispatch
      exact validateRuntimeApply_of_admit hs.ordered hrows hnone hpayload hdispatch.1 hbefore
    · cases hbinding : entry.envelope.payload.providerBinding? with
      | none => exact @applyProviderRun_ok_of_none X (entry.complete completion) hbinding bindings
      | some binding =>
        obtain ⟨command, hpayload⟩ := providerBinding?_eq_some.1 hbinding
        refine (applyProviderRun_ok_iff hX hpayload henvelope houtcome hmatches).2 ?_
        intro hforeign existing hexisting
        by_contra hne
        exact hchanges ⟨binding, bindings, existing, hbinding, hforeign, hopen.trans hbindings,
          hexisting, hne⟩

/-! ### The commands of a stream -/

/-- The node begins its commands in order, and the one it begins stands in the stream under its
sequence. -/
def DeliveredStep (stream : List NodeCommandPayload) (s : AgentState) : NodeAction → Prop
  | .begin envelope =>
    BegunInOrder s.journal envelope ∧ stream[envelope.sequence - 1]? = some envelope.payload
  | .dispatch _ | .complete | .crash | .markAcknowledged _ => True

instance (stream : List NodeCommandPayload) (s : AgentState) (action : NodeAction) :
    Decidable (DeliveredStep stream s action) :=
  match action with
  | .begin envelope => inferInstanceAs (Decidable ((∀ entry ∈ s.journal.entries.rows,
      entry.sequence < envelope.sequence → entry.completion ≠ none) ∧
        stream[envelope.sequence - 1]? = some envelope.payload))
  | .dispatch _ | .complete | .crash | .markAcknowledged _ => isTrue trivial

/-- A state of a node to which the commands of a stream are delivered in order. -/
def Reached (X : External) (stream : List NodeCommandPayload) (nodeId : Uuid) (s : AgentState) :
    Prop :=
  ∃ actions, Allowed (AgentState.step X) (DeliveredStep stream) (AgentState.init nodeId) actions ∧
    run (AgentState.step X) (AgentState.init nodeId) actions = s

theorem payload_step {s' : AgentState} {action : NodeAction} (hstep : NodeStep X s action s')
    (hentry : entry ∈ s'.journal.entries.rows) :
    (∃ before ∈ s.journal.entries.rows, before.envelope.payload = entry.envelope.payload) ∨
      ∃ envelope, action = .begin envelope ∧ envelope.payload = entry.envelope.payload := by
  -- a change of the rows one by one that keeps their payloads
  have hmap : ∀ f : JournalEntry → JournalEntry,
      (∀ e, (f e).envelope.payload = e.envelope.payload) →
        entry ∈ s.journal.entries.rows.map f →
          ∃ before ∈ s.journal.entries.rows, before.envelope.payload = entry.envelope.payload := by
    intro f hf hmem
    obtain ⟨before, hbefore, rfl⟩ := mem_map.1 hmem
    exact ⟨before, hbefore, (hf before).symm⟩
  have hbegun : ∀ {envelope decision journal}, Begun (X := X) s.journal envelope decision journal →
      entry ∈ journal.entries.rows →
        (∃ before ∈ s.journal.entries.rows, before.envelope.payload = entry.envelope.payload) ∨
          envelope.payload = entry.envelope.payload := by
    intro envelope decision journal hbegun hmem
    cases hbegun with
    | redelivered =>
      refine .inl (hmap _ (fun e => ?_) hmem)
      split_ifs <;> rfl
    | received fenced hget hsequence hfence =>
      rw [rows_receive hfence hget, mem_append, mem_singleton] at hmem
      rcases hmem with hmem | rfl
      · exact .inl ⟨entry, hmem, rfl⟩
      · exact .inr rfl
  cases hstep with
  | stay => exact .inl ⟨entry, hentry, rfl⟩
  | begun envelope journal hphase hbegin
  | replayed envelope acknowledgement journal hphase hbegin =>
    exact (hbegun (beginSync_ok hbegin).2.2.2.2.2 hentry).imp_right fun h => ⟨envelope, rfl, h⟩
  | dispatched => exact .inl ⟨entry, hentry, rfl⟩
  | completed envelope completion applied acknowledgement journal hphase hcomplete =>
    have hcompleted := (completeSync_ok hcomplete).2.2.2
    cases hcompleted with
    | replayed => exact .inl ⟨entry, hentry, rfl⟩
    | recorded =>
      refine .inl (hmap _ (fun e => ?_) hentry)
      split_ifs <;> rfl
  | refused | crashed => exact .inl ⟨entry, hentry, rfl⟩
  | acknowledged receipt journal hphase hmark =>
    obtain ⟨-, -, -, _, -, -, rfl⟩ := markAcknowledgedSync_ok hmark
    refine .inl (hmap _ (fun e => ?_) hentry)
    split_ifs <;> rfl

/-- What the steps of a node keep to which the commands of a stream are delivered in order. -/
structure DeliveryInv (X : External) (stream : List NodeCommandPayload) (s : AgentState) : Prop where
  node : NodeInv X s
  tail : TailOpen s.journal
  payloads : ∀ entry ∈ s.journal.entries.rows, entry.envelope.payload ∈ stream

theorem deliveryInv_reached {stream : List NodeCommandPayload} {nodeId : Uuid} (hnode : nodeId ≠ 0)
    (hs : Reached X stream nodeId s) : DeliveryInv X stream s := by
  obtain ⟨actions, hactions, rfl⟩ := hs
  refine invariant (fun s action h hok => ?_) ?_ hactions
  · have hstep := nodeStep_step (X := X) s action
    refine ⟨nodeInv_step hstep h.node, tailOpen_step hstep h.node h.tail ?_, fun entry hentry => ?_⟩
    · cases action <;> first | exact hok.1 | trivial
    · rcases payload_step hstep hentry with ⟨before, hbefore, hsame⟩ | ⟨envelope, rfl, hsame⟩
      · exact hsame ▸ h.payloads before hbefore
      · exact hsame ▸ mem_of_getElem? hok.2
  · refine ⟨nodeInv_init hnode, tailOpen_empty nodeId, fun entry hentry => ?_⟩
    cases hentry

/-- Every provider run of a journal is the binding of a command sent to another provider. -/
theorem sent_providerRuns (hordered : journal.Ordered)
    (h : journal.providerRunBindingsProjection X = .ok bindings) (hbinding : binding ∈ bindings.rows) :
    binding.Foreign X ∧ ∃ entry ∈ journal.entries.rows,
      entry.envelope.payload.providerBinding? = some binding := by
  rw [providerRunBindingsProjection, hordered.bySequence] at h
  refine (foldlM_ok (P := fun bindings => ∀ b ∈ bindings.rows, b.Foreign X ∧
    ∃ entry ∈ journal.entries.rows, entry.envelope.payload.providerBinding? = some b)
    (Q := fun _ _ => True) (fun entry hentry bindings bindings' hP hstep => ⟨?_, trivial, ?_⟩)
    (by simp) h).1 binding hbinding
  · unfold applyProviderRun at hstep
    split at hstep
    · rename_i current _ _ hpayload _
      simp only [ok_rules] at hstep
      obtain ⟨-, profile, hprofile, hstep⟩ := hstep
      split_ifs at hstep with hkind
      · simp only [ok_rules] at hstep
        obtain ⟨-, rfl⟩ := hstep
        intro b hb
        rcases Table.mem_insert.1 hb with rfl | ⟨hb, -⟩
        · exact ⟨⟨profile, hprofile, hkind⟩, entry, hentry, by rw [hpayload]; rfl⟩
        · exact hP b hb
      · cases hstep
        exact hP
    · split_ifs at hstep
      · cases hstep
        exact fun b hb => hP b (mem_of_mem_filter hb)
      · cases hstep
        exact hP
    · cases hstep
      exact hP
  · exact fun _ _ => trivial

/-- **A command that took effect is recorded**, unless it changes the run of its execution; in a
stream in which no execution of another provider is recovered, it always is. -/
theorem success_recorded (hX : X.ChecksProviders) {plan : List AgentFlowAction} {nodeId : Uuid}
    (hnode : nodeId ≠ 0) {s : AgentState} (hs : Reached X (enqueued X plan) nodeId s)
    {envelope : NodeCommandEnvelope} (hphase : s.phase = .begun envelope)
    (hflow : envelope.payload.InFlows) {io : ExecutionIo} {result : NodeCommandResult}
    (houtcome : (executionCompletion X s.nodeId s.journal envelope io).outcome = .succeeded result)
    (hack : (JournalEntry.report envelope
      (executionCompletion X s.nodeId s.journal envelope io)).validateAgainst X envelope = .ok ()) :
    (Recorded X s envelope (executionCompletion X s.nodeId s.journal envelope io) ↔
        ¬ ChangesRun X s.journal envelope.payload) ∧
      (Allowed (AgentFlow.step X) (NativeRecovery X) .init plan →
        Recorded X s envelope (executionCompletion X s.nodeId s.journal envelope io)) := by
  have h := deliveryInv_reached hnode hs
  have hiff := completeSync_iff hX h.node h.tail hphase hflow houtcome hack
  refine ⟨hiff, fun hplan => hiff.2 ?_⟩
  rintro ⟨binding, bindings, existing, hbinding, hforeign, hbindings, hexisting, hne⟩
  obtain ⟨hrow, hid⟩ := Table.get?_eq_some_iff.1 hexisting
  obtain ⟨hforeign', entry, hentry, hpayload⟩ := sent_providerRuns h.node.ordered hbindings hrow
  obtain ⟨current, hget, rfl, -⟩ := h.node.running envelope (by rw [hphase]; rfl)
  have hcurrent := h.payloads current (Table.get?_eq_some_iff.1 hget).1
  exact hne (sameRuns_enqueued hplan existing binding ⟨_, h.payloads entry hentry, hpayload⟩
    ⟨_, hcurrent, hbinding⟩ hforeign' hforeign hid)

/-! ### A recovered execution of another provider -/

namespace Sample

/-- A world in which a profile names the kind of its provider and a receipt answers a command. -/
def providerWorld : External :=
  { external with
    providerProfile := fun binding =>
      .ok { kind := binding.providerProfileAcl, nativeProtocol := "agent", body := "" }
    adapterResultValidateFor := fun request result =>
      match request, result with
      | .agentProviderCommand _ _, .agentProviderCommandAccepted _ => .ok ()
      | .agentProviderCommand _ _, _ => .error "node command result kind does not match its payload"
      | _, _ => .ok () }

theorem checksProviders_providerWorld : providerWorld.ChecksProviders where
  profile binding _ _ := ⟨_, rfl⟩
  receipt binding command result h := by
    cases result with
    | agentProviderCommandAccepted receipt => exact ⟨receipt, rfl⟩
    | _ => cases h

def codeRun (kind : String) : AgentCodeRunBinding where
  provider := { profileAcl := kind, profileDigest := .sha256 1 }
  workloadId := workloadId
  workloadRevisionId := 31
  deploymentId := 32
  replicaId := 33
  runtimeUnitId := "u"
  runtimeGeneration := 1
  runtimeSpecDigest := .sha256 190
  servicePortName := "agent"
  identity := { agentReleaseIdentity := "release", sessionId := "session", runId := "run" }
  boundAt := seconds 1

/-- An execution of another provider is started, and after some actions gets a second command. -/
def executionPlan (between : List AgentFlowAction) : List AgentFlowAction :=
  [.bindCodeRun 20 (codeRun "acme"), .enqueueCommand 20 ⟨"start"⟩] ++ between ++
    [.enqueueCommand 20 ⟨"second"⟩]

def planned (plan : List AgentFlowAction) (sequence : ℕ) : NodeCommandEnvelope :=
  command sequence 20 ((enqueued providerWorld plan)[sequence - 1]?.getD (.runtimeInspect "" 0))

/-- The provider accepts a command one second after it was issued. -/
def accepted (sequence : ℕ) : ExecutionIo :=
  { io (seconds (10 * sequence + 1)) with
    adapter := .ok (.agentProviderCommandAccepted
      { observedAtMs := 1000 * (10 * sequence + 1), replayed := false, body := "" }) }

/-- The node after the first command of a plan was executed and the second one begun. -/
def secondBegun (plan : List AgentFlowAction) : AgentState :=
  run (AgentState.step providerWorld) (AgentState.init nodeId)
    (attempt (planned plan 1) (accepted 1) ++ [.begin (planned plan 2)])

def secondCompletion (plan : List AgentFlowAction) : JournalCompletion :=
  executionCompletion providerWorld (secondBegun plan).nodeId (secondBegun plan).journal
    (planned plan 2) (accepted 2)

end Sample

open Sample in
/-- The cancellation of a started execution is recorded. -/
theorem success_recorded_cancel :
    Recorded providerWorld (secondBegun (executionPlan [])) (planned (executionPlan []) 2)
      (secondCompletion (executionPlan [])) :=
  (@success_recorded providerWorld checksProviders_providerWorld (executionPlan []) nodeId (by decide)
    (secondBegun (executionPlan [])) ⟨_, by decide +kernel, rfl⟩ (planned (executionPlan []) 2)
    (by decide +kernel) trivial (accepted 2)
    (.adapter (.agentProviderCommandAccepted
      { observedAtMs := 21000, replayed := false, body := "" }))
    (by decide +kernel) (by decide +kernel)).2 ⟨trivial, trivial, trivial, trivial⟩

open Sample in
/-- The recovery of a started execution of another provider is accepted by the provider and answered
with a valid receipt, and the journal refuses its completion. -/
theorem recovery_not_recorded :
    let plan := executionPlan [.recoverCodeRun 20 (seconds 15)]
    Reached providerWorld (enqueued providerWorld plan) nodeId (secondBegun plan) ∧
      (secondBegun plan).phase = .begun (planned plan 2) ∧
      (secondCompletion plan).outcome = .succeeded (.adapter (.agentProviderCommandAccepted
        { observedAtMs := 21000, replayed := false, body := "" })) ∧
      (JournalEntry.report (planned plan 2) (secondCompletion plan)).validateAgainst providerWorld
        (planned plan 2) = .ok () ∧
      (completeSync providerWorld (secondBegun plan).nodeId (secondBegun plan).journal
          (planned plan 2).commandId (secondCompletion plan).completedAt
          (secondCompletion plan).outcome).map (fun _ => ()) =
        .error (.conflict "one Agent execution changed its provider Runtime binding") :=
  ⟨⟨_, by decide +kernel, rfl⟩, by decide +kernel, by decide +kernel, by decide +kernel,
    by decide +kernel⟩

end A3SCloud
