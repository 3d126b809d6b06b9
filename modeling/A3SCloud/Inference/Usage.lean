import Mathlib.Data.List.Induction
import Mathlib.Data.List.Nodup
import A3SCloud.Contracts.Basic

/-!
# Usage batches of a Gateway

The messages of `crates/contracts/src/inference/usage.rs` and `lifecycle.rs`, with which a Gateway
reports what its requests used.

* `InferenceUsageCursor` is the position of a record in the spool of a Gateway: the boot epoch and
  the sequence within it.
* `UsageCodec` stands for what the contract calls but does not define: the base64 and JSON decoders
  and SHA-256.
* `InferenceUsageBatch.validate` is the check of a batch, with its scan of the records;
  `InferenceUsageBatch.Valid` says what a batch that passes it satisfies, and
  `InferenceUsageBatch.validate_ok_iff` that this is exactly what it checks.
-/

namespace A3SCloud

open Checks List

/-! ### Lifecycle events -/

inductive InferenceUsageEndpoint
  | models
  | chatCompletions
  | completions
  | embeddings
  deriving DecidableEq

inductive InferenceUsageLifecycleKind
  | requestStarted
  | attemptStarted
  | attemptTerminal
  | requestTerminal
  deriving DecidableEq

inductive InferenceUsageTerminalOutcome
  | succeeded
  | failed
  | fallback
  | cancelled
  | disconnected
  deriving DecidableEq

inductive InferenceUsageMeasurementCompleteness
  | unknown
  | upstreamUsage
  deriving DecidableEq

structure InferenceUsageRequestEvidence where
  requestId : Uuid
  correlationId : String
  environmentId : Uuid
  credentialId : Uuid
  credentialGeneration : ℕ
  routeId : Uuid
  routePolicyRevision : ℕ
  endpoint : InferenceUsageEndpoint
  modelAlias : String
  modelId : Uuid
  deriving DecidableEq

structure InferenceUsageAttemptEvidence where
  attemptId : Uuid
  targetId : Uuid
  deriving DecidableEq

/-- What happened to a request of a Gateway. -/
structure InferenceUsageLifecycleEvent where
  schema : SchemaText
  kind : InferenceUsageLifecycleKind
  occurredAt : ℤ
  request : InferenceUsageRequestEvidence
  attempt : Option InferenceUsageAttemptEvidence
  outcome : Option InferenceUsageTerminalOutcome
  httpStatus : Option ℕ
  durationMs : Option ℕ
  measurementCompleteness : Option InferenceUsageMeasurementCompleteness
  totalTokens : Option ℕ
  deriving DecidableEq

def u64Max : ℕ := 2 ^ 64 - 1

/-- Addition of unsigned 64-bit numbers that stops at the largest one. -/
def saturatingAdd (a b : ℕ) : ℕ := min (a + b) u64Max

/-- The check of an identifier in a lifecycle event. -/
def validateUsageUuid (label : String) (value : Uuid) : Except String Unit :=
  refuseIf (value = 0) (label ++ " is invalid")

def requireNone {α : Type} (label : String) (value : Option α) : Except String Unit :=
  refuseIf value.isSome ("usage lifecycle " ++ label ++ " must be absent for this kind")

def InferenceUsageRequestEvidence.validate (request : InferenceUsageRequestEvidence) :
    Except String Unit := do
  validateUsageUuid "usage request ID" request.requestId
  refuseIf (request.correlationId.utf8ByteSize = 0 ∨ 256 < request.correlationId.utf8ByteSize)
    "usage correlation ID is invalid"
  validateUsageUuid "usage environment ID" request.environmentId
  validateUsageUuid "usage credential ID" request.credentialId
  refuseIf (request.credentialGeneration = 0 ∨ request.credentialGeneration = u64Max)
    "usage credential generation is invalid"
  validateUsageUuid "usage route ID" request.routeId
  refuseIf (request.routePolicyRevision = 0 ∨ request.routePolicyRevision = u64Max)
    "usage route policy revision is invalid"
  refuseIf (request.modelAlias.utf8ByteSize = 0 ∨ 256 < request.modelAlias.utf8ByteSize)
    "usage model alias is invalid"
  validateUsageUuid "usage model ID" request.modelId

def InferenceUsageAttemptEvidence.validate (attempt : InferenceUsageAttemptEvidence) :
    Except String Unit := do
  validateUsageUuid "usage attempt ID" attempt.attemptId
  validateUsageUuid "usage target ID" attempt.targetId

namespace InferenceUsageLifecycleEvent

variable (event : InferenceUsageLifecycleEvent)

/-- The fields that only a terminal event carries. -/
def requireNoOutcome : Except String Unit := do
  requireNone "outcome" event.outcome
  requireNone "http_status" event.httpStatus
  requireNone "duration_ms" event.durationMs
  requireNone "measurement_completeness" event.measurementCompleteness
  requireNone "total_tokens" event.totalTokens

/-- The fields that every terminal event carries. -/
def requireOutcome : Except String Unit := do
  refuseIf event.outcome.isNone "terminal usage lifecycle requires an outcome"
  refuseIf event.durationMs.isNone "terminal usage lifecycle requires duration_ms"
  refuseIf event.measurementCompleteness.isNone
    "terminal usage lifecycle requires measurement_completeness"
  refuseIf (event.totalTokens = some u64Max) "usage total_tokens sentinel is invalid"

def validateAttemptIfAny : Except String Unit :=
  match event.attempt with
  | some attempt => attempt.validate
  | none => .ok ()

def validate (event : InferenceUsageLifecycleEvent) : Except String Unit := do
  validateSchema "unsupported usage lifecycle schema" event.schema
  event.request.validate
  match event.kind with
  | .requestStarted => do
    requireNone "attempt" event.attempt
    event.requireNoOutcome
  | .attemptStarted => do
    let attempt ← orElse "attempt_started requires attempt evidence" event.attempt
    attempt.validate
    event.requireNoOutcome
  | .attemptTerminal => do
    let attempt ← orElse "attempt_terminal requires attempt evidence" event.attempt
    attempt.validate
    event.requireOutcome
  | .requestTerminal => do
    event.validateAttemptIfAny
    event.requireOutcome

/-- An event that ends a request says how. -/
theorem outcome_isSome_of_validate {event : InferenceUsageLifecycleEvent}
    (h : event.validate = .ok ()) (hkind : event.kind = .requestTerminal) :
    event.outcome.isSome := by
  simp only [validate, hkind, requireOutcome, ok_rules] at h
  obtain ⟨-, -, -, houtcome, -⟩ := h
  cases ho : event.outcome with
  | none => simp [ho] at houtcome
  | some => rfl

end InferenceUsageLifecycleEvent

/-! ### The decoders -/

/-- The decoders and the digest that the contract calls. -/
structure UsageCodec where
  /-- The standard base64 engine; the error is its text. -/
  decodeBase64 : String → Except String (List UInt8)
  /-- `format!("{:x}", Sha256::digest(bytes))`. -/
  sha256Hex : List UInt8 → String
  /-- `reject_forbidden_keys` and the JSON decoder of an event. -/
  parseEvent : List UInt8 → Except String InferenceUsageLifecycleEvent

namespace UsageCodec

variable (codec : UsageCodec)

def decodePayload (payloadBase64 : String) : Except String (List UInt8) :=
  (codec.decodeBase64 payloadBase64).mapError ("usage event payload is invalid base64: " ++ ·)

/-- `InferenceUsageLifecycleEventV1::decode`. -/
def decodeEvent (bytes : List UInt8) : Except String InferenceUsageLifecycleEvent := do
  let event ← codec.parseEvent bytes
  event.validate
  pure event

theorem decodeEvent_ok_iff {bytes : List UInt8} {event : InferenceUsageLifecycleEvent} :
    codec.decodeEvent bytes = .ok event ↔
      codec.parseEvent bytes = .ok event ∧ event.validate = .ok () := by
  simp only [decodeEvent, ok_rules]
  constructor
  · rintro ⟨_, hparse, hvalid, rfl⟩
    exact ⟨hparse, hvalid⟩
  · rintro ⟨hparse, hvalid⟩
    exact ⟨event, hparse, hvalid, rfl⟩

end UsageCodec

/-! ### Cursors and records -/

/-- A position in the spool of a Gateway. -/
structure InferenceUsageCursor where
  bootEpoch : Uuid
  sequence : ℕ
  deriving DecidableEq

def InferenceUsageCursor.validate (cursor : InferenceUsageCursor) (label : String) :
    Except String Unit :=
  refuseIf (cursor.bootEpoch = 0 ∨ cursor.sequence = 0 ∨ cursor.sequence = u64Max)
    (label ++ " cursor is invalid")

structure InferenceUsageRecord where
  cursor : InferenceUsageCursor
  eventId : Uuid
  payloadBase64 : String
  payloadSha256 : String
  deriving DecidableEq

open InferenceUsageRecord

/-- The check of an identifier in a batch. -/
def validateBatchUuid (label : String) (value : Uuid) : Except String Unit :=
  refuseIf (value = 0) (label ++ " must not be the nil UUID")

def isHexDigit (c : Char) : Bool :=
  ('0' ≤ c ∧ c ≤ '9') ∨ ('a' ≤ c ∧ c ≤ 'f') ∨ ('A' ≤ c ∧ c ≤ 'F')

def validateHexSha256 (label value : String) : Except String Unit := do
  refuseIf (value.utf8ByteSize ≠ 64 ∨ ¬ value.toList.all isHexDigit)
    (label ++ " SHA-256 must be 64 hexadecimal characters")
  refuseIf (value.toList.any (fun c => 'A' ≤ c ∧ c ≤ 'Z'))
    (label ++ " SHA-256 must use lowercase hexadecimal")

def inferenceUsageMaxRecords : ℕ := 512

def inferenceUsageMaxEventBytes : ℕ := 64 * 1024

def inferenceUsageMaxBatchBytes : ℕ := 16 * 1024 * 1024

namespace InferenceUsageRecord

variable (codec : UsageCodec)

def validate (record : InferenceUsageRecord) : Except String Unit := do
  validateBatchUuid "usage event ID" record.eventId
  record.cursor.validate "usage event"
  let payload ← codec.decodePayload record.payloadBase64
  refuseIf (inferenceUsageMaxEventBytes < payload.length) "usage event exceeds 65536 bytes"
  validateHexSha256 "usage event payload" record.payloadSha256
  refuseIf (record.payloadSha256 ≠ codec.sha256Hex payload)
    "usage event payload SHA-256 does not match its bytes"

def payload (record : InferenceUsageRecord) : Except String (List UInt8) := do
  record.validate codec
  codec.decodePayload record.payloadBase64

def payloadBytes (record : InferenceUsageRecord) : ℕ :=
  match codec.decodePayload record.payloadBase64 with
  | .ok payload => payload.length
  | .error _ => 0

def event (record : InferenceUsageRecord) : Except String InferenceUsageLifecycleEvent := do
  let payload ← record.payload codec
  codec.decodeEvent payload

variable {codec} {record : InferenceUsageRecord}

/-- A record that passes its check has a payload. -/
theorem payload_of_validate (h : record.validate codec = .ok ()) :
    ∃ bytes, record.payload codec = .ok bytes ∧ bytes.length = record.payloadBytes codec := by
  have hvalid := h
  simp only [validate, ok_rules] at h
  obtain ⟨-, -, bytes, hdecode, -⟩ := h
  refine ⟨bytes, ?_, ?_⟩
  · simp only [payload, ok_rules]
    exact ⟨hvalid, hdecode⟩
  · simp only [payloadBytes, hdecode]

theorem validate_of_payload {bytes : List UInt8}
    (h : record.payload codec = .ok bytes) : record.validate codec = .ok () := by
  simp only [payload, ok_rules] at h
  exact h.1

theorem cursor_of_validate (h : record.validate codec = .ok ()) :
    record.cursor.bootEpoch ≠ 0 ∧ record.cursor.sequence ≠ 0 ∧ record.cursor.sequence ≠ u64Max := by
  simp only [validate, InferenceUsageCursor.validate, ok_rules, not_or] at h
  exact h.2.1

end InferenceUsageRecord

/-! ### Batches -/

structure InferenceUsageBatch where
  schema : SchemaText
  gatewayId : Uuid
  batchId : Uuid
  after : Option InferenceUsageCursor
  records : List InferenceUsageRecord
  deriving DecidableEq

/-- What the check of a batch has seen of its records. -/
structure UsageBatchScan where
  index : ℕ
  totalPayloadBytes : ℕ
  cursors : List InferenceUsageCursor
  epochs : List Uuid
  currentEpoch : Option Uuid
  lastSequence : Option ℕ
  eventIds : List Uuid

open UsageBatchScan

namespace UsageBatchScan

def empty : UsageBatchScan := ⟨0, 0, [], [], none, none, []⟩

/-- The first record continues the epoch of the cursor that the batch comes after. -/
def checkAfter (scan : UsageBatchScan) (after : Option InferenceUsageCursor)
    (record : InferenceUsageRecord) : Except String Unit :=
  match after with
  | none => .ok ()
  | some cursor =>
    if scan.index = 0 ∧ cursor.bootEpoch = record.cursor.bootEpoch then do
      let expected ← orElse "usage batch after cursor overflows" (checkedAdd cursor.sequence 1)
      refuseIf (record.cursor.sequence ≠ expected)
        "inference usage batch does not immediately follow its after cursor"
    else .ok ()

/-- The scan in the epoch of a record. -/
def enterEpoch (scan : UsageBatchScan) (epoch : Uuid) : Except String UsageBatchScan :=
  if scan.currentEpoch ≠ some epoch then do
    refuseIf (epoch ∈ scan.epochs) "inference usage batch revisits a boot epoch"
    pure { scan with
      epochs := epoch :: scan.epochs
      currentEpoch := some epoch
      lastSequence := none }
  else .ok scan

/-- A record continues the epoch of the record before it. -/
def checkSequence (scan : UsageBatchScan) (record : InferenceUsageRecord) : Except String Unit :=
  match scan.lastSequence with
  | none => .ok ()
  | some sequence => do
    let expected ← orElse "usage batch cursor sequence overflows" (checkedAdd sequence 1)
    refuseIf (record.cursor.sequence ≠ expected)
      "inference usage batch cursor sequence is not contiguous"

/-- One turn of the loop over the records. -/
def record (codec : UsageCodec) (after : Option InferenceUsageCursor) (scan : UsageBatchScan)
    (record : InferenceUsageRecord) : Except String UsageBatchScan := do
  record.validate codec
  refuseIf (after = some record.cursor) "inference usage batch repeats its after cursor"
  scan.checkAfter after record
  refuseIf (record.cursor ∈ scan.cursors) "inference usage batch contains duplicate cursors"
  let entered ← scan.enterEpoch record.cursor.bootEpoch
  entered.checkSequence record
  refuseIf (record.eventId ∈ scan.eventIds) "inference usage batch contains duplicate event IDs"
  let payload ← record.payload codec
  let total ← orElse "inference usage batch payload size overflows"
    (checkedAdd scan.totalPayloadBytes payload.length)
  pure { entered with
    index := scan.index + 1
    totalPayloadBytes := total
    cursors := record.cursor :: scan.cursors
    lastSequence := some record.cursor.sequence
    eventIds := record.eventId :: scan.eventIds }

def records (codec : UsageCodec) (after : Option InferenceUsageCursor) :
    UsageBatchScan → List InferenceUsageRecord → Except String UsageBatchScan
  | scan, [] => .ok scan
  | scan, record :: rest => do
    let scan ← scan.record codec after record
    scan.records codec after rest

end UsageBatchScan

namespace InferenceUsageBatch

variable (codec : UsageCodec)

def validateAfter (batch : InferenceUsageBatch) : Except String Unit :=
  match batch.after with
  | some cursor => cursor.validate "usage batch after"
  | none => .ok ()

def validate (batch : InferenceUsageBatch) : Except String Unit := do
  validateSchema "unsupported inference usage batch schema" batch.schema
  validateBatchUuid "usage batch Gateway ID" batch.gatewayId
  validateBatchUuid "usage batch ID" batch.batchId
  batch.validateAfter
  refuseIf (batch.records = [] ∨ inferenceUsageMaxRecords < batch.records.length)
    "inference usage batch must contain 1 to 512 records"
  let scan ← empty.records codec batch.after batch.records
  refuseIf (inferenceUsageMaxBatchBytes < scan.totalPayloadBytes)
    "inference usage batch exceeds 16777216 bytes of payload"

/-- The positions of the records. -/
def cursors (batch : InferenceUsageBatch) : List InferenceUsageCursor :=
  batch.records.map (·.cursor)

end InferenceUsageBatch

/-! ### What a valid batch satisfies -/

/-- What the check of a batch asks of a record, given the records before it. -/
structure InferenceUsageRecord.Follows (codec : UsageCodec) (after : Option InferenceUsageCursor)
    (done : List InferenceUsageRecord) (record : InferenceUsageRecord) : Prop where
  valid : record.validate codec = .ok ()
  notAfter : after ≠ some record.cursor
  first : done = [] → ∀ cursor, after = some cursor →
    cursor.bootEpoch = record.cursor.bootEpoch →
      cursor.sequence + 1 < 2 ^ 64 ∧ record.cursor.sequence = cursor.sequence + 1
  fresh : record.cursor ∉ done.map (·.cursor)
  epoch : ∀ last, done.getLast? = some last → last.cursor.bootEpoch ≠ record.cursor.bootEpoch →
    record.cursor.bootEpoch ∉ done.map (·.cursor.bootEpoch)
  next : ∀ last, done.getLast? = some last → last.cursor.bootEpoch = record.cursor.bootEpoch →
    last.cursor.sequence + 1 < 2 ^ 64 ∧ record.cursor.sequence = last.cursor.sequence + 1
  event : record.eventId ∉ done.map (·.eventId)

/-- What a batch that passes its check satisfies. -/
structure InferenceUsageBatch.Valid (codec : UsageCodec) (batch : InferenceUsageBatch) : Prop where
  schema : batch.schema = .current
  gatewayId : batch.gatewayId ≠ 0
  batchId : batch.batchId ≠ 0
  after : batch.validateAfter = .ok ()
  nonempty : batch.records ≠ []
  bounded : batch.records.length ≤ inferenceUsageMaxRecords
  follows : ∀ done record rest, batch.records = done ++ record :: rest →
    record.Follows codec batch.after done
  payload : (batch.records.map (·.payloadBytes codec)).sum ≤ inferenceUsageMaxBatchBytes

/-! ### The scan of the records -/

namespace UsageBatchScan

variable {codec : UsageCodec} {after : Option InferenceUsageCursor}
  {done : List InferenceUsageRecord} {scan scan' : UsageBatchScan} {r : InferenceUsageRecord}

/-- The scan after the records `done`. -/
structure Scanned (codec : UsageCodec) (done : List InferenceUsageRecord) (scan : UsageBatchScan) :
    Prop where
  index : scan.index = 0 ↔ done = []
  total : scan.totalPayloadBytes = (done.map (·.payloadBytes codec)).sum
  cursors : ∀ cursor, cursor ∈ scan.cursors ↔ cursor ∈ done.map (·.cursor)
  epochs : ∀ epoch, epoch ∈ scan.epochs ↔ epoch ∈ done.map (·.cursor.bootEpoch)
  currentEpoch : scan.currentEpoch = done.getLast?.map (·.cursor.bootEpoch)
  lastSequence : scan.lastSequence = done.getLast?.map (·.cursor.sequence)
  eventIds : ∀ id, id ∈ scan.eventIds ↔ id ∈ done.map (·.eventId)

theorem scanned_empty : Scanned codec [] empty := by
  constructor <;> simp [empty]

theorem checkAfter_ok_iff (hscan : Scanned codec done scan) {u : Unit} :
    scan.checkAfter after r = .ok u ↔ (done = [] → ∀ cursor, after = some cursor →
      cursor.bootEpoch = r.cursor.bootEpoch →
        cursor.sequence + 1 < 2 ^ 64 ∧ r.cursor.sequence = cursor.sequence + 1) := by
  cases after with
  | none => simp [checkAfter]
  | some cursor =>
    by_cases h : scan.index = 0 ∧ cursor.bootEpoch = r.cursor.bootEpoch
    · simp only [checkAfter, if_pos h, ok_rules, checkedAdd_eq_some, ne_eq, not_not]
      have hdone : done = [] := hscan.index.1 h.1
      constructor
      · rintro ⟨expected, ⟨rfl, hlt⟩, hseq⟩ - _ ⟨⟩ -
        exact ⟨hlt, hseq⟩
      · intro hfirst
        obtain ⟨hlt, hseq⟩ := hfirst hdone cursor rfl h.2
        exact ⟨_, ⟨rfl, hlt⟩, hseq⟩
    · simp only [checkAfter, if_neg h, true_iff]
      rintro hdone _ ⟨⟩ hepoch
      exact absurd ⟨hscan.index.2 hdone, hepoch⟩ h

theorem enterEpoch_ok_iff {epoch : Uuid} : scan.enterEpoch epoch = .ok scan' ↔
    (scan.currentEpoch ≠ some epoch → epoch ∉ scan.epochs) ∧
      scan' = if scan.currentEpoch = some epoch then scan else
        { scan with
          epochs := epoch :: scan.epochs
          currentEpoch := some epoch
          lastSequence := none } := by
  by_cases h : scan.currentEpoch = some epoch
  · simp [enterEpoch, h, eq_comm]
  · simp only [enterEpoch, ne_eq, h, not_false_eq_true, if_true, ok_rules, if_false, true_implies]
    exact and_congr_right fun _ => eq_comm

/-- The epoch of a record is the one of the record before it, or one that was not seen. -/
theorem epoch_iff (hscan : Scanned codec done scan) :
    (scan.currentEpoch ≠ some r.cursor.bootEpoch → r.cursor.bootEpoch ∉ scan.epochs) ↔
      ∀ last, done.getLast? = some last → last.cursor.bootEpoch ≠ r.cursor.bootEpoch →
        r.cursor.bootEpoch ∉ done.map (·.cursor.bootEpoch) := by
  rw [hscan.currentEpoch, hscan.epochs]
  cases hlast : done.getLast? with
  | none =>
    obtain rfl := getLast?_eq_none_iff.1 hlast
    simp
  | some => simp

/-- The sequence of a record goes on from the record before it in its epoch. -/
theorem checkSequence_ok_iff (hscan : Scanned codec done scan) {entered : UsageBatchScan}
    (hentered : entered = if scan.currentEpoch = some r.cursor.bootEpoch then scan else
        { scan with
          epochs := r.cursor.bootEpoch :: scan.epochs
          currentEpoch := some r.cursor.bootEpoch
          lastSequence := none }) {u : Unit} :
    entered.checkSequence r = .ok u ↔ ∀ last, done.getLast? = some last →
      last.cursor.bootEpoch = r.cursor.bootEpoch →
        last.cursor.sequence + 1 < 2 ^ 64 ∧ r.cursor.sequence = last.cursor.sequence + 1 := by
  rw [hscan.currentEpoch] at hentered
  cases hlast : done.getLast? with
  | none =>
    have hnone : entered.lastSequence = none := by
      rw [hentered, hlast]
      rfl
    simp [checkSequence, hnone]
  | some last =>
    by_cases hepoch : last.cursor.bootEpoch = r.cursor.bootEpoch
    · have hsome : entered.lastSequence = some last.cursor.sequence := by
        rw [hentered, hlast, if_pos (by simp [hepoch]), hscan.lastSequence, hlast]
        rfl
      simp only [checkSequence, hsome, ok_rules, checkedAdd_eq_some, ne_eq, not_not,
        Option.some.injEq]
      constructor
      · rintro ⟨expected, ⟨rfl, hlt⟩, hseq⟩ _ rfl -
        exact ⟨hlt, hseq⟩
      · intro hnext
        obtain ⟨hlt, hseq⟩ := hnext last rfl hepoch
        exact ⟨_, ⟨rfl, hlt⟩, hseq⟩
    · have hnone : entered.lastSequence = none := by
        rw [hentered, hlast, if_neg (by simp [hepoch])]
      simp [checkSequence, hnone, hepoch]

/-- One turn of the loop: what it asks of the record. -/
theorem record_ok_iff (hscan : Scanned codec done scan) :
    (∃ scan', scan.record codec after r = .ok scan') ↔
      r.Follows codec after done ∧ scan.totalPayloadBytes + r.payloadBytes codec < 2 ^ 64 := by
  simp only [record, ok_rules, checkAfter_ok_iff hscan, hscan.cursors, hscan.eventIds]
  constructor
  · rintro ⟨_, hvalid, hafter, hfirst, hfresh, entered, hentered, hsequence, hevent, payload,
      hpayload, total, htotal, -⟩
    obtain ⟨hepoch, hentered⟩ := enterEpoch_ok_iff.1 hentered
    obtain ⟨bytes, hbytes, hlength⟩ := payload_of_validate hvalid
    rw [hbytes] at hpayload
    cases hpayload
    rw [hlength] at htotal
    exact ⟨⟨hvalid, hafter, hfirst, hfresh, (epoch_iff hscan).1 hepoch,
      (checkSequence_ok_iff hscan hentered).1 hsequence, hevent⟩, (checkedAdd_eq_some.1 htotal).2⟩
  · rintro ⟨hfollows, hlt⟩
    obtain ⟨bytes, hbytes, hlength⟩ := payload_of_validate hfollows.valid
    refine ⟨_, hfollows.valid, hfollows.notAfter, hfollows.first, hfollows.fresh, _,
      enterEpoch_ok_iff.2 ⟨(epoch_iff hscan).2 hfollows.epoch, rfl⟩,
      (checkSequence_ok_iff hscan rfl).2 hfollows.next, hfollows.event, bytes, hbytes,
      scan.totalPayloadBytes + bytes.length, ?_, rfl⟩
    rw [hlength]
    exact checkedAdd_eq_some.2 ⟨rfl, hlt⟩

/-- One turn of the loop: the scan it leaves. -/
theorem record_scanned (hscan : Scanned codec done scan)
    (h : scan.record codec after r = .ok scan') : Scanned codec (done ++ [r]) scan' := by
  simp only [record, ok_rules] at h
  obtain ⟨hvalid, -, -, -, entered, hentered, -, -, payload, hpayload, total, htotal, rfl⟩ := h
  obtain ⟨-, hentered⟩ := enterEpoch_ok_iff.1 hentered
  obtain ⟨bytes, hbytes, hlength⟩ := payload_of_validate hvalid
  rw [hbytes] at hpayload
  cases hpayload
  have hcurrent : entered.currentEpoch = some r.cursor.bootEpoch := by
    rw [hentered]
    split_ifs with hepoch
    · exact hepoch
    · rfl
  have hepochs : ∀ epoch, epoch ∈ entered.epochs ↔
      epoch = r.cursor.bootEpoch ∨ epoch ∈ scan.epochs := by
    intro epoch
    rw [hentered]
    split_ifs with hepoch
    · -- The epoch of the record before is among those that were seen.
      rw [hscan.currentEpoch, Option.map_eq_some_iff] at hepoch
      obtain ⟨last, hlast, hlastEpoch⟩ := hepoch
      have hmem : r.cursor.bootEpoch ∈ scan.epochs :=
        (hscan.epochs _).2 (mem_map.2 ⟨last, mem_of_getLast? hlast, hlastEpoch⟩)
      constructor
      · exact .inr
      · rintro (rfl | h)
        · exact hmem
        · exact h
    · exact mem_cons
  constructor
  · simp
  · simp only [map_append, sum_append, map_singleton, sum_singleton,
      ← hscan.total, ← hlength]
    exact (checkedAdd_eq_some.1 htotal).1.symm
  · intro cursor
    rw [mem_cons, hscan.cursors, map_append, mem_append, map_singleton,
      mem_singleton, or_comm]
  · intro epoch
    rw [hepochs, hscan.epochs, map_append, mem_append, map_singleton,
      mem_singleton, or_comm]
  · simp [hcurrent]
  · simp
  · intro id
    rw [mem_cons, hscan.eventIds, map_append, mem_append, map_singleton,
      mem_singleton, or_comm]

/-- The whole loop, within a bound on the bytes of payload. -/
theorem records_ok_iff {bound : ℕ} (hbound : bound < 2 ^ 64) {rest : List InferenceUsageRecord}
    (hscan : Scanned codec done scan) :
    (∃ scan', scan.records codec after rest = .ok scan' ∧ scan'.totalPayloadBytes ≤ bound) ↔
      (∀ front record back, rest = front ++ record :: back →
        record.Follows codec after (done ++ front)) ∧
      scan.totalPayloadBytes + (rest.map (·.payloadBytes codec)).sum ≤ bound := by
  induction rest generalizing done scan with
  | nil => simp [records]
  | cons r rest ih =>
    simp only [records, bind_ok_iff, map_cons, sum_cons]
    constructor
    · rintro ⟨scan', ⟨next, hnext, hrest⟩, hle⟩
      obtain ⟨hfollows, -⟩ := (record_ok_iff hscan).1 ⟨next, hnext⟩
      have hscanned := record_scanned hscan hnext
      obtain ⟨hall, hsum⟩ := (ih hscanned).1 ⟨scan', hrest, hle⟩
      rw [hscanned.total] at hsum
      simp only [map_append, sum_append, map_singleton, sum_singleton,
        ← hscan.total] at hsum
      refine ⟨fun front record back heq => ?_, by omega⟩
      cases front with
      | nil =>
        simp only [nil_append, cons.injEq] at heq
        rw [← heq.1, append_nil]
        exact hfollows
      | cons x front =>
        simp only [cons_append, cons.injEq] at heq
        have hrecord := hall front record back heq.2
        rw [← heq.1]
        simpa using hrecord
    · rintro ⟨hall, hsum⟩
      have hfollows : r.Follows codec after done := by simpa using hall [] r rest rfl
      obtain ⟨next, hnext⟩ := (record_ok_iff hscan).2 ⟨hfollows, by omega⟩
      have hscanned := record_scanned hscan hnext
      have htotal : next.totalPayloadBytes =
          scan.totalPayloadBytes + r.payloadBytes codec := by
        simp [hscanned.total, hscan.total]
      obtain ⟨scan', hrest, hle⟩ := (ih hscanned).2 ⟨fun front record back heq => by
        simpa using hall (r :: front) record back (by rw [heq]; rfl), by omega⟩
      exact ⟨scan', ⟨next, hnext, hrest⟩, hle⟩

end UsageBatchScan

/-- The check of a batch accepts exactly the valid ones. -/
theorem InferenceUsageBatch.validate_ok_iff {codec : UsageCodec} {batch : InferenceUsageBatch}
    {u : Unit} : batch.validate codec = .ok u ↔ batch.Valid codec := by
  have hscan : (∃ scan, empty.records codec batch.after batch.records = .ok scan ∧
      scan.totalPayloadBytes ≤ inferenceUsageMaxBatchBytes) ↔ _ :=
    records_ok_iff (by decide) (scanned_empty)
  simp only [empty, nil_append, Nat.zero_add] at hscan
  simp only [validate, validateSchema_ok_iff, validateBatchUuid, ok_rules, not_or, not_lt,
    empty]
  constructor
  · rintro ⟨hschema, hgateway, hbatch, hafter, ⟨hne, hle⟩, scan, hrecords, htotal⟩
    obtain ⟨hfollows, hsum⟩ := hscan.1 ⟨scan, hrecords, htotal⟩
    exact ⟨hschema, hgateway, hbatch, hafter, hne, hle, hfollows, hsum⟩
  · intro h
    exact ⟨h.schema, h.gatewayId, h.batchId, h.after, ⟨h.nonempty, h.bounded⟩,
      hscan.2 ⟨h.follows, h.payload⟩⟩

end A3SCloud
