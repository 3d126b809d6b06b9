import A3SCloud.Contracts.Command

/-!
# Commands of the control plane

The model of `modules/fleet/domain/entities/node_command.rs`. The control plane keeps times in whole
microseconds, so it truncates those of a command when it issues it (`NodeCommand.issue`) and those of
an acknowledgement when it receives it (`canonicalizeAcknowledgement`).

* `NodeCommand.Issued` is what holds of an issued command.
* `canonicalize_validateAgainst_iff`: truncation keeps a valid acknowledgement valid, up to the order
  of the times a Gateway reports (`NodeCommandResult.KeepsOrder`).
-/

namespace A3SCloud

open Checks NodeCommandResult

variable (X : External)

structure NodeCommandDraft where
  proposedCommandId : Uuid
  nodeId : Uuid
  aggregateId : Uuid
  payload : NodeCommandPayload
  issuedAt : ℤ
  notAfter : ℤ
  correlationId : Uuid
  deriving DecidableEq

structure NodeCommand where
  id : Uuid
  nodeId : Uuid
  sequence : ℕ
  aggregateId : Uuid
  payload : NodeCommandPayload
  issuedAt : ℤ
  notAfter : ℤ
  correlationId : Uuid
  deriving DecidableEq

open NodeCommand

/-- The payload of an issued command: the times of a snapshot are truncated. -/
def NodeCommandPayload.canonical : NodeCommandPayload → NodeCommandPayload
  | .gatewaySnapshotInstall snapshot => .gatewaySnapshotInstall { snapshot with
      issuedAt := canonicalTimestamp snapshot.issuedAt
      expiresAt := canonicalTimestamp snapshot.expiresAt }
  | payload => payload

namespace NodeCommand

def issue (draft : NodeCommandDraft) (sequence : ℕ) : Except String NodeCommand := do
  refuseIf (draft.proposedCommandId = 0 ∨ draft.nodeId = 0 ∨ draft.aggregateId = 0 ∨
      draft.correlationId = 0)
    "node command identity must not contain nil UUIDs"
  refuseIf (sequence = 0) "node command sequence must be positive"
  let issuedAt := canonicalTimestamp draft.issuedAt
  let notAfter := canonicalTimestamp draft.notAfter
  refuseIf (notAfter ≤ issuedAt) "node command expiry must follow issue time"
  let payload := draft.payload.canonical
  payload.validate X
  pure {
    id := draft.proposedCommandId
    nodeId := draft.nodeId
    sequence := sequence
    aggregateId := draft.aggregateId
    payload := payload
    issuedAt := issuedAt
    notAfter := notAfter
    correlationId := draft.correlationId }

def kind (command : NodeCommand) : String := command.payload.kind

def generation (command : NodeCommand) : ℕ := command.payload.generation

def envelope (command : NodeCommand) (leaseId : Uuid) : Except String NodeCommandEnvelope :=
  NodeCommandEnvelope.new X command.id leaseId command.nodeId command.sequence command.aggregateId
    command.issuedAt command.notAfter command.correlationId command.payload

end NodeCommand

/-! ### Issued commands -/

/-- What holds of an issued command. -/
structure NodeCommand.Issued (command : NodeCommand) : Prop where
  id : command.id ≠ 0
  nodeId : command.nodeId ≠ 0
  aggregateId : command.aggregateId ≠ 0
  correlationId : command.correlationId ≠ 0
  sequence : command.sequence ≠ 0
  issuedAt : IsCanonical command.issuedAt
  notAfter : IsCanonical command.notAfter
  window : command.issuedAt < command.notAfter
  payload : command.payload.validate X = .ok ()

/-- The envelope of a command before it is checked. -/
def NodeCommand.toEnvelope (command : NodeCommand) (leaseId : Uuid) : NodeCommandEnvelope where
  schema := .current
  commandId := command.id
  leaseId := leaseId
  nodeId := command.nodeId
  sequence := command.sequence
  aggregateId := command.aggregateId
  generation := command.payload.generation
  payloadSchema := command.payload.schema
  payloadDigest := X.digest (.payload command.payload)
  issuedAt := command.issuedAt
  notAfter := command.notAfter
  correlationId := command.correlationId
  payload := command.payload

variable {X}

namespace NodeCommand

variable {command : NodeCommand}

theorem issue_ok {draft : NodeCommandDraft} {sequence : ℕ}
    (h : issue X draft sequence = .ok command) :
    command.Issued X ∧ command.id = draft.proposedCommandId ∧ command.nodeId = draft.nodeId ∧
      command.sequence = sequence ∧ command.aggregateId = draft.aggregateId ∧
      command.payload = draft.payload.canonical := by
  simp only [issue, ok_rules, not_or, not_le] at h
  obtain ⟨⟨hid, hnode, haggregate, hcorrelation⟩, hsequence, hwindow, hpayload, rfl⟩ := h
  exact ⟨⟨hid, hnode, haggregate, hcorrelation, hsequence, isCanonical_canonicalTimestamp _,
    isCanonical_canonicalTimestamp _, hwindow, hpayload⟩, rfl, rfl, rfl, rfl, rfl⟩

theorem envelope_ok_iff {leaseId : Uuid} {envelope : NodeCommandEnvelope} :
    command.envelope X leaseId = .ok envelope ↔
      (command.toEnvelope X leaseId).Valid X ∧ envelope = command.toEnvelope X leaseId := by
  simp only [NodeCommand.envelope, NodeCommandEnvelope.new, ok_rules,
    NodeCommandPayload.digest_ok_iff, NodeCommandEnvelope.validate_ok_iff]
  constructor
  · rintro ⟨digest, ⟨-, rfl⟩, hvalid, rfl⟩
    exact ⟨hvalid, rfl⟩
  · rintro ⟨hvalid, rfl⟩
    exact ⟨_, ⟨hvalid.payload, rfl⟩, hvalid, rfl⟩

@[simp] theorem withLease_toEnvelope (command : NodeCommand) (leaseId leaseId' : Uuid) :
    (command.toEnvelope X leaseId).withLease leaseId' = command.toEnvelope X leaseId' := rfl

end NodeCommand

variable (X)

/-! ### Acknowledgements -/

def AppliedGatewaySnapshot.canonical (applied : AppliedGatewaySnapshot) : AppliedGatewaySnapshot :=
  { applied with
    issuedAt := canonicalTimestamp applied.issuedAt
    expiresAt := canonicalTimestamp applied.expiresAt
    appliedAt := canonicalTimestamp applied.appliedAt }

def NodeGatewaySnapshotObservation.canonical (observation : NodeGatewaySnapshotObservation) :
    NodeGatewaySnapshotObservation :=
  { observation with
    observedAt := canonicalTimestamp observation.observedAt
    applied := observation.applied.map AppliedGatewaySnapshot.canonical }

def NodeCommandResult.canonical : NodeCommandResult → NodeCommandResult
  | .resourceClaimPrepared prepared => .resourceClaimPrepared { prepared with
      observedAt := canonicalTimestamp prepared.observedAt }
  | .resourceClaimReleased released => .resourceClaimReleased { released with
      observedAt := canonicalTimestamp released.observedAt }
  | .gatewaySnapshotInstalled acknowledgement => .gatewaySnapshotInstalled { acknowledgement with
      acknowledgedAt := canonicalTimestamp acknowledgement.acknowledgedAt }
  | .gatewaySnapshotObserved observation => .gatewaySnapshotObserved observation.canonical
  | .adapter (.pluginHostTrustAuthorized authorizedAt body) =>
    .adapter (.pluginHostTrustAuthorized (canonicalTimestamp authorizedAt) body)
  | result => result

def NodeCommandOutcome.canonical : NodeCommandOutcome → NodeCommandOutcome
  | .succeeded result => .succeeded result.canonical
  | outcome => outcome

namespace NodeCommand

def canonicalizeAcknowledgement (acknowledgement : NodeCommandAck) : NodeCommandAck :=
  { acknowledgement with
    completedAt := canonicalTimestamp acknowledgement.completedAt
    outcome := acknowledgement.outcome.canonical }

theorem outcome_canonicalizeAcknowledgement (acknowledgement : NodeCommandAck) :
    (canonicalizeAcknowledgement acknowledgement).outcome = acknowledgement.outcome.canonical := rfl

end NodeCommand

/-! ### Truncation keeps an acknowledgement valid -/

/-- The times of an applied snapshot that have to differ still do so in microseconds. -/
structure NodeGatewaySnapshotObservation.KeepsOrder (observation : NodeGatewaySnapshotObservation)
    (applied : AppliedGatewaySnapshot) : Prop where
  issuedOrder : canonicalTimestamp applied.issuedAt < canonicalTimestamp applied.expiresAt
  appliedOrder : canonicalTimestamp applied.appliedAt < canonicalTimestamp applied.expiresAt
  observedOrder : observation.state = .applied →
    canonicalTimestamp observation.observedAt < canonicalTimestamp applied.expiresAt

/-- The times a Gateway reports in a result keep their order in microseconds. -/
def NodeCommandResult.KeepsOrder : NodeCommandResult → Prop
  | .gatewaySnapshotObserved observation =>
    ∀ applied, observation.applied = some applied → observation.KeepsOrder applied
  | _ => True

variable {X}

namespace NodeGatewaySnapshotObservation

theorem requestedIsApplied_canonical (observation : NodeGatewaySnapshotObservation) :
    observation.canonical.requestedIsApplied = observation.requestedIsApplied := by
  unfold requestedIsApplied canonical
  cases observation.applied <;> rfl

variable {observation : NodeGatewaySnapshotObservation}

theorem validateApplied_canonical_iff (h : observation.validateApplied = .ok ()) :
    observation.canonical.validateApplied = .ok () ↔ ∀ applied, observation.applied = some applied →
      canonicalTimestamp applied.issuedAt < canonicalTimestamp applied.expiresAt ∧
        canonicalTimestamp applied.appliedAt < canonicalTimestamp applied.expiresAt := by
  cases happlied : observation.applied with
  | none => simp [validateApplied, canonical, happlied]
  | some =>
    simp only [validateApplied, happlied, AppliedGatewaySnapshot.validate, ok_rules, not_or, not_le,
      not_lt] at h
    obtain ⟨⟨hid, hrevision, hdigest, -, hissued, -⟩, hgateway, hobserved⟩ := h
    simp only [validateApplied, canonical, happlied, Option.map_some,
      AppliedGatewaySnapshot.canonical, AppliedGatewaySnapshot.validate, ok_rules, not_or, not_le,
      not_lt, Option.some.injEq, forall_eq']
    constructor
    · rintro ⟨⟨-, -, -, hexpires, -, happlied⟩, -⟩
      exact ⟨hexpires, happlied⟩
    · rintro ⟨hexpires, happlied⟩
      exact ⟨⟨hid, hrevision, hdigest, hexpires, canonicalTimestamp_mono hissued, happlied⟩,
        hgateway, canonicalTimestamp_mono hobserved⟩

theorem validateState_canonical_iff (h : observation.validateState = .ok ()) :
    observation.canonical.validateState = .ok () ↔ ∀ applied, observation.applied = some applied →
      observation.state = .applied →
        canonicalTimestamp observation.observedAt < canonicalTimestamp applied.expiresAt := by
  have hstate : observation.canonical.state = observation.state := rfl
  have hready : observation.canonical.ready = observation.ready := rfl
  have happlied' : observation.canonical.applied =
      observation.applied.map AppliedGatewaySnapshot.canonical := rfl
  unfold validateState at h ⊢
  rw [hstate, hready, requestedIsApplied_canonical, happlied']
  cases hs : observation.state <;> rw [hs] at h
  case applied =>
    simp only [refuseIf_ok_iff, not_or, not_not] at h ⊢
    cases ha : observation.applied with
    | none => simpa [ha] using h
    | some => simp [h.1, h.2.1, canonical, AppliedGatewaySnapshot.canonical]
  case expired =>
    simp only [refuseIf_ok_iff, not_or] at h ⊢
    obtain ⟨hnot, hrequested, hexpired⟩ := h
    cases ha : observation.applied with
    | none => simp [ha] at hexpired
    | some =>
      simp only [ha, Option.all_some, decide_eq_true_eq, not_lt] at hexpired
      refine iff_of_true ⟨hnot, hrequested, ?_⟩ (by simp)
      simp only [Option.map_some, Option.all_some, decide_eq_true_eq, not_lt]
      exact canonicalTimestamp_mono hexpired
  case uninitialized =>
    simp only [refuseIf_ok_iff, Option.isSome_map] at h ⊢
    simpa using h
  all_goals simpa using h

/-- A valid observation stays valid exactly when its times keep their order. -/
theorem canonical_validate_iff (h : observation.validate = .ok ()) :
    observation.canonical.validate = .ok () ↔
      (NodeCommandResult.gatewaySnapshotObserved observation).KeepsOrder := by
  simp only [validate, ok_rules] at h
  obtain ⟨h1, h2, h3, h4, h5, h6, h7, h8, happlied, hstate⟩ := h
  simp only [validate, ok_rules]
  rw [validateApplied_canonical_iff happlied, validateState_canonical_iff hstate]
  constructor
  · rintro ⟨-, -, -, -, -, -, -, -, ha, hs⟩ applied hsome
    exact ⟨(ha applied hsome).1, (ha applied hsome).2, hs applied hsome⟩
  · intro horder
    refine ⟨h1, h2, h3, h4, h5, h6, h7, h8, fun applied hsome => ?_, fun applied hsome => ?_⟩
    · exact ⟨(horder applied hsome).issuedOrder, (horder applied hsome).appliedOrder⟩
    · exact (horder applied hsome).observedOrder

end NodeGatewaySnapshotObservation

/-- The check of claim evidence reads its time in milliseconds. -/
theorem claimEvidenceValidate_canonical (unsupported invalid : String)
    (evidence : NodeResourceClaimEvidence) :
    claimEvidenceValidate unsupported invalid
        { evidence with observedAt := canonicalTimestamp evidence.observedAt } =
      claimEvidenceValidate unsupported invalid evidence := by
  simp only [claimEvidenceValidate, timestampMillis_canonicalTimestamp]

/-- An acknowledgement of a snapshot stays valid at an earlier time. -/
theorem NodeGatewayAck.validate_canonical {acknowledgement : NodeGatewayAck}
    (h : acknowledgement.validate = .ok ()) :
    ({ acknowledgement with
      acknowledgedAt := canonicalTimestamp acknowledgement.acknowledgedAt } : NodeGatewayAck).validate =
      .ok () := by
  simp only [validate, ok_rules] at h
  obtain ⟨h1, h2, h3, h4, h5, h6, h7, hstate⟩ := h
  simp only [validate, ok_rules]
  refine ⟨h1, h2, h3, h4, h5, h6, h7, ?_⟩
  have hle := canonicalTimestamp_le acknowledgement.acknowledgedAt
  unfold validateState at hstate ⊢
  simp only
  split at hstate
  · rw [refuseIf_ok_iff, not_le] at hstate ⊢
    exact lt_of_le_of_lt hle hstate
  · exact hstate
  · cases hstate
  · cases hstate

namespace NodeCommandResult

variable {result : NodeCommandResult} {time issuedAt completedAt : ℤ} {replayed : Bool}

theorem canonical_validate_iff (h : result.validate X = .ok ()) :
    result.canonical.validate X = .ok () ↔ result.KeepsOrder := by
  cases result with
  | resourceClaimPrepared prepared =>
    exact iff_of_true ((claimEvidenceValidate_canonical _ _ prepared).trans h) trivial
  | resourceClaimReleased released =>
    exact iff_of_true ((claimEvidenceValidate_canonical _ _ released).trans h) trivial
  | gatewaySnapshotInstalled =>
    exact iff_of_true (NodeGatewayAck.validate_canonical h) trivial
  | gatewaySnapshotObserved =>
    exact NodeGatewaySnapshotObservation.canonical_validate_iff h
  | adapter result => cases result <;> exact iff_of_true h trivial
  | runtimeApplied | runtimeInspected | runtimeStopped | runtimeRemoved =>
    exact iff_of_true h trivial

/-- A truncated result that is valid answers the same commands. -/
theorem canonical_matchesCommand {command : NodeCommandEnvelope}
    (h : result.matchesCommand X command = .ok ()) (hvalid : result.canonical.validate X = .ok ()) :
    result.canonical.matchesCommand X command = .ok () := by
  unfold matchesCommand at h
  split at h
  · rename_i request prepared hpayload
    simp only [matchesCommand, hpayload, canonical, NodeResourceClaimPrepared.validateFor,
      ok_rules] at h ⊢
    exact ⟨hvalid, h.2⟩
  · rename_i request resourceClaim observation hpayload
    simpa only [matchesCommand, hpayload, canonical] using h
  · rename_i unitId generation inspection hpayload
    simpa only [matchesCommand, hpayload, canonical] using h
  · rename_i request inspection hpayload
    simpa only [matchesCommand, hpayload, canonical] using h
  · rename_i request removal hpayload
    simpa only [matchesCommand, hpayload, canonical] using h
  · rename_i request released hpayload
    simp only [matchesCommand, hpayload, canonical, NodeResourceClaimReleased.validateFor,
      ok_rules] at h ⊢
    exact ⟨hvalid, h.2⟩
  · rename_i snapshot acknowledgement hpayload
    simp only [matchesCommand, hpayload, canonical, NodeGatewayAck.validateFor, ok_rules] at h ⊢
    exact ⟨hvalid, h.2⟩
  · rename_i request observation hpayload
    simp only [matchesCommand, hpayload, canonical, NodeGatewaySnapshotObservation.validateFor,
      ok_rules] at h ⊢
    exact ⟨hvalid, h.2⟩
  · rename_i request result hpayload
    cases result <;>
      · simp only [matchesCommand, hpayload, canonical]
        exact h
  · cases h

/-- The evidence of an adapter is given in milliseconds. -/
theorem isCanonical_of_adapter_evidence {result : AdapterResult}
    (h : result.evidence = .ok (some (time, replayed))) : IsCanonical time := by
  cases result <;>
    simp only [AdapterResult.evidence, adapterTimestamp, ok_rules, Option.some.injEq, Prod.mk.injEq,
      reduceCtorEq] at h
  all_goals
    obtain ⟨_, htime, rfl, -⟩ := h
    exact isCanonical_of_fromTimestampMillis htime

theorem withinExecution_canonical (htime : IsCanonical time)
    (h : withinExecution issuedAt completedAt (some (time, replayed)) = true) :
    withinExecution issuedAt (canonicalTimestamp completedAt) (some (time, replayed)) = true := by
  simp only [withinExecution, Bool.and_eq_true, decide_eq_true_eq] at h ⊢
  exact ⟨h.1, htime.le_canonicalTimestamp_iff.2 h.2⟩

theorem withinExecution_canonical_evidence (hissued : IsCanonical issuedAt)
    (h : withinExecution issuedAt completedAt (some (time, false)) = true) :
    withinExecution issuedAt (canonicalTimestamp completedAt)
      (some (canonicalTimestamp time, false)) = true := by
  simp only [withinExecution, Bool.false_or, Bool.and_eq_true, decide_eq_true_eq] at h ⊢
  exact ⟨hissued.le_canonicalTimestamp_iff.2 h.1, canonicalTimestamp_mono h.2⟩

/-- The evidence of a truncated result lies within the truncated execution. -/
theorem canonical_evidence (hissued : IsCanonical issuedAt)
    (h : ∃ evidence, result.evidence = .ok evidence ∧
      withinExecution issuedAt completedAt evidence = true) :
    ∃ evidence, result.canonical.evidence = .ok evidence ∧
      withinExecution issuedAt (canonicalTimestamp completedAt) evidence = true := by
  obtain ⟨evidence, hevidence, hwithin⟩ := h
  cases result with
  | resourceClaimPrepared | resourceClaimReleased =>
    cases hevidence
    exact ⟨_, rfl, withinExecution_canonical_evidence hissued hwithin⟩
  | adapter result =>
    refine ⟨evidence, ?_, ?_⟩
    · rw [← hevidence]
      cases result <;> rfl
    · cases evidence with
      | none => rfl
      | some evidence =>
        obtain ⟨time, replayed⟩ := evidence
        exact withinExecution_canonical (isCanonical_of_adapter_evidence hevidence) hwithin
  | gatewaySnapshotInstalled | gatewaySnapshotObserved | runtimeApplied | runtimeInspected
  | runtimeStopped | runtimeRemoved => exact ⟨none, rfl, rfl⟩

end NodeCommandResult

variable {ack : NodeCommandAck}

theorem validateGatewayResult_canonical {issuedAt : ℤ} (hissued : IsCanonical issuedAt)
    {result : NodeCommandResult} (h : ack.validateGatewayResult issuedAt result = .ok ()) :
    (canonicalizeAcknowledgement ack).validateGatewayResult issuedAt result.canonical =
      .ok () := by
  cases result with
  | gatewaySnapshotInstalled | gatewaySnapshotObserved =>
    rw [NodeCommandResult.canonical]
    simp only [NodeCommandAck.validateGatewayResult, ok_rules, not_or, not_lt] at h ⊢
    exact ⟨h.1, hissued.le_canonicalTimestamp_iff.2 h.2.1, canonicalTimestamp_mono h.2.2⟩
  | adapter result => cases result <;> rfl
  | resourceClaimPrepared | resourceClaimReleased | runtimeApplied | runtimeInspected
  | runtimeStopped | runtimeRemoved => rfl

/-- **Truncation keeps a valid acknowledgement valid** exactly when it keeps the order of the times a
Gateway reports. -/
theorem canonicalize_validateAgainst_iff {command : NodeCommandEnvelope}
    (hissued : IsCanonical command.issuedAt) (h : ack.validateAgainst X command = .ok ()) :
    (canonicalizeAcknowledgement ack).validateAgainst X command = .ok () ↔
      ∀ result, ack.outcome = .succeeded result → result.KeepsOrder := by
  obtain ⟨hcommand, hschema, hidentifies, hcompleted, houtcome, hsuccess⟩ :=
    NodeCommandAck.validateAgainst_ok_iff.1 h
  rw [NodeCommandAck.validateAgainst_ok_iff]
  constructor
  · rintro ⟨-, -, -, -, houtcome', -⟩ result hresult
    rw [outcome_canonicalizeAcknowledgement, hresult] at houtcome'
    exact (canonical_validate_iff (hsuccess result hresult).wellFormed).1 houtcome'
  · intro horder
    refine ⟨hcommand, hschema, hidentifies, hissued.le_canonicalTimestamp_iff.2 hcompleted, ?_, ?_⟩
    · cases hresult : ack.outcome with
      | succeeded result =>
        rw [outcome_canonicalizeAcknowledgement, hresult]
        exact (canonical_validate_iff (hsuccess result hresult).wellFormed).2
          (horder result hresult)
      | rejected | failed =>
        rw [outcome_canonicalizeAcknowledgement, hresult]
        rw [hresult] at houtcome
        exact houtcome
    · intro result' hresult'
      cases hresult : ack.outcome with
      | succeeded result =>
        have hs := hsuccess result hresult
        have hcanonical := (canonical_validate_iff hs.wellFormed).2
          (horder result hresult)
        rw [outcome_canonicalizeAcknowledgement, hresult] at hresult'
        cases hresult'
        exact ⟨hcanonical, canonical_matchesCommand hs.matchesCommand hcanonical,
          canonical_evidence hissued hs.evidence, hs.currentAck,
          validateGatewayResult_canonical hissued hs.gateway⟩
      | rejected | failed =>
        rw [outcome_canonicalizeAcknowledgement, hresult] at hresult'
        cases hresult'

end A3SCloud
