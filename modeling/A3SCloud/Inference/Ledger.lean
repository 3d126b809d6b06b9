import A3SCloud.Inference.Usage
import A3SCloud.Lib.Table
import A3SCloud.Lib.Runs

/-!
# The usage ledger of a Gateway

`apply_inference_usage_batch` of `inference/domain/services/usage_ledger.rs`, which decides how far
a batch of usage records is acknowledged, and the receipt of `crates/contracts/src/inference/usage.rs`
with which it answers.

* `applyInferenceUsageBatch` holds the watermark when the batch does not come after it, and
  otherwise goes through the records with `applyRecords` until one of them leaves a gap.
-/

namespace A3SCloud

open Checks List

/-! ### Receipts -/

structure InferenceUsageReceipt where
  schema : SchemaText
  gatewayId : Uuid
  batchId : Uuid
  acknowledgedThrough : Option InferenceUsageCursor
  gaps : List InferenceUsageCursor
  deriving DecidableEq

namespace InferenceUsageReceipt

def validateAcknowledgement (receipt : InferenceUsageReceipt) (batch : InferenceUsageBatch) :
    Except String Unit :=
  match receipt.acknowledgedThrough with
  | none => .ok ()
  | some cursor => do
    cursor.validate "inference usage acknowledgement"
    refuseIf (receipt.acknowledgedThrough ≠ batch.after ∧ cursor ∉ batch.cursors)
      "inference usage receipt acknowledges a cursor outside its batch"

/-- The gaps of a receipt are valid and pairwise different. -/
def validateGaps : List InferenceUsageCursor → List InferenceUsageCursor → Except String Unit
  | _, [] => .ok ()
  | seen, gap :: rest => do
    gap.validate "inference usage gap"
    refuseIf (gap ∈ seen) "inference usage receipt contains duplicate gaps"
    validateGaps (gap :: seen) rest

def validateFor (codec : UsageCodec) (receipt : InferenceUsageReceipt)
    (batch : InferenceUsageBatch) : Except String Unit := do
  batch.validate codec
  validateSchema "unsupported inference usage receipt schema" receipt.schema
  refuseIf (receipt.gatewayId ≠ batch.gatewayId ∨ receipt.batchId ≠ batch.batchId)
    "inference usage receipt changed batch identity"
  receipt.validateAcknowledgement batch
  refuseIf (inferenceUsageMaxRecords < receipt.gaps.length)
    "inference usage receipt contains too many gaps"
  validateGaps [] receipt.gaps
  refuseIf (receipt.acknowledgedThrough.any (fun cursor => cursor ∈ receipt.gaps))
    "inference usage receipt acknowledges a reported gap"

end InferenceUsageReceipt

/-! ### The ledger -/

/-- The digest under which an event was recorded. -/
structure UsageEventDigest where
  eventId : Uuid
  payloadSha256 : String
  deriving DecidableEq

structure InferenceUsageLedgerState where
  watermark : Option InferenceUsageCursor
  events : Table UsageEventDigest.eventId

def InferenceUsageLedgerState.initial : InferenceUsageLedgerState := ⟨none, .empty⟩

structure InferenceUsageLedgerApply where
  receipt : InferenceUsageReceipt
  next : InferenceUsageLedgerState
  insertedEventIds : List Uuid

inductive InferenceUsageLedgerError
  | contract (message : String)
  | conflict (message : String)
  deriving DecidableEq

/-- The acknowledgement of a batch that does not come after the watermark. -/
def contractValidHoldAck (watermark : Option InferenceUsageCursor) (batch : InferenceUsageBatch) :
    Option InferenceUsageCursor :=
  if watermark = batch.after ∨ watermark.any (fun tip => tip ∈ batch.cursors) then watermark
  else batch.after

variable (acknowledged : Option InferenceUsageCursor)

/-- The cursor the loop expects at a record. -/
def expectedCursor (cursor : InferenceUsageCursor) : InferenceUsageCursor :=
  match acknowledged with
  | none => ⟨cursor.bootEpoch, 1⟩
  | some tip =>
    if tip.bootEpoch = cursor.bootEpoch then ⟨tip.bootEpoch, saturatingAdd tip.sequence 1⟩
    else cursor

/-- Whether a record is the first of another epoch. -/
def newEpochStart (cursor : InferenceUsageCursor) : Bool :=
  acknowledged.any (fun tip => tip.bootEpoch ≠ cursor.bootEpoch ∧ cursor.sequence = 1)

/-- The variables of the loop over the records. -/
structure UsageLedgerLoop where
  acknowledgedThrough : Option InferenceUsageCursor
  gaps : List InferenceUsageCursor
  events : Table UsageEventDigest.eventId
  insertedEventIds : List Uuid

/-- The loop over the records of a batch that comes after the watermark. -/
def applyRecords : UsageLedgerLoop → List InferenceUsageRecord →
    Except InferenceUsageLedgerError UsageLedgerLoop
  | loop, [] => .ok loop
  | loop, record :: rest =>
    let expected := expectedCursor loop.acknowledgedThrough record.cursor
    if record.cursor ≠ expected ∧ ¬ newEpochStart loop.acknowledgedThrough record.cursor then
      .ok { loop with gaps := loop.gaps ++ [expected] }
    else match loop.events.get? record.eventId with
    | some recorded =>
      if recorded.payloadSha256 ≠ record.payloadSha256 then
        .error (.conflict ("usage event " ++ toString record.eventId ++
          " payload digest conflicts with the ledger"))
      else applyRecords { loop with acknowledgedThrough := some record.cursor } rest
    | none =>
      applyRecords { loop with
        acknowledgedThrough := some record.cursor
        events := loop.events.insert ⟨record.eventId, record.payloadSha256⟩
        insertedEventIds := loop.insertedEventIds ++ [record.eventId] } rest

def InferenceUsageBatch.receipt (batch : InferenceUsageBatch)
    (acknowledgedThrough : Option InferenceUsageCursor) (gaps : List InferenceUsageCursor) :
    InferenceUsageReceipt :=
  ⟨.current, batch.gatewayId, batch.batchId, acknowledgedThrough, gaps⟩

def applyInferenceUsageBatch (codec : UsageCodec) (state : InferenceUsageLedgerState)
    (batch : InferenceUsageBatch) : Except InferenceUsageLedgerError InferenceUsageLedgerApply := do
  (batch.validate codec).mapError .contract
  (checkAll (fun record => (record.event codec).map (fun _ => ())) batch.records).mapError .contract
  if batch.after ≠ state.watermark then do
    let receipt := batch.receipt (contractValidHoldAck state.watermark batch) []
    (receipt.validateFor codec batch).mapError .contract
    pure ⟨receipt, state, []⟩
  else do
    let loop ← applyRecords ⟨state.watermark, [], state.events, []⟩ batch.records
    let receipt := batch.receipt loop.acknowledgedThrough loop.gaps
    (receipt.validateFor codec batch).mapError .contract
    pure ⟨receipt, ⟨loop.acknowledgedThrough, loop.events⟩, loop.insertedEventIds⟩

/-! ### The records the loop goes through -/

/-- Whether the loop goes on at a record. -/
def Continues (cursor : InferenceUsageCursor) : Prop :=
  cursor = expectedCursor acknowledged cursor ∨ newEpochStart acknowledged cursor

/-- The acknowledged cursor after some records. -/
def lastCursor (covered : List InferenceUsageRecord) :
    Option InferenceUsageCursor := (covered.getLast?.map (·.cursor)).or acknowledged

@[simp] theorem lastCursor_nil : lastCursor acknowledged [] = acknowledged := rfl

theorem lastCursor_cons (record : InferenceUsageRecord) (covered : List InferenceUsageRecord) :
    lastCursor acknowledged (record :: covered) = lastCursor (some record.cursor) covered := by
  cases covered with
  | nil => rfl
  | cons r covered =>
    have hlast := getLast?_eq_some_getLast (cons_ne_nil r covered)
    simp only [lastCursor, getLast?_cons_cons, hlast, Option.map_some, Option.some_or]

/-- What the loop does with the records: it goes through the first of them, and stops at the end or
at one at which it cannot go on. -/
structure UsageLedgerLoop.Covers (loop loop' : UsageLedgerLoop)
    (covered rest : List InferenceUsageRecord) : Prop where
  continues : ∀ front record back, covered = front ++ record :: back →
    Continues (lastCursor loop.acknowledgedThrough front) record.cursor
  acknowledged : loop'.acknowledgedThrough = lastCursor loop.acknowledgedThrough covered
  stops : (rest = [] ∧ loop'.gaps = loop.gaps) ∨ ∃ record back, rest = record :: back ∧
    ¬ Continues loop'.acknowledgedThrough record.cursor ∧
      loop'.gaps = loop.gaps ++ [expectedCursor loop'.acknowledgedThrough record.cursor]

/-- A record more in front of those the loop goes through. -/
theorem UsageLedgerLoop.Covers.cons {loop next loop' : UsageLedgerLoop}
    {record : InferenceUsageRecord} {covered rest : List InferenceUsageRecord}
    (hcontinues : Continues loop.acknowledgedThrough record.cursor)
    (hnext : next.acknowledgedThrough = some record.cursor) (hgaps : next.gaps = loop.gaps)
    (h : next.Covers loop' covered rest) : loop.Covers loop' (record :: covered) rest where
  continues front r back heq := by
    cases front with
    | nil =>
      simp only [nil_append, List.cons.injEq] at heq
      rw [← heq.1]
      exact hcontinues
    | cons x front =>
      simp only [cons_append, List.cons.injEq] at heq
      have hr := h.continues front r back heq.2
      rw [hnext, heq.1, ← lastCursor_cons loop.acknowledgedThrough x front] at hr
      exact hr
  acknowledged := by rw [h.acknowledged, hnext, lastCursor_cons]
  stops := by rw [← hgaps]; exact h.stops

theorem applyRecords_ok {loop loop' : UsageLedgerLoop} {records : List InferenceUsageRecord}
    (h : applyRecords loop records = .ok loop') :
    ∃ covered rest, records = covered ++ rest ∧ loop.Covers loop' covered rest := by
  induction records generalizing loop with
  | nil =>
    cases h
    exact ⟨[], [], rfl, ⟨by simp, rfl, .inl ⟨rfl, rfl⟩⟩⟩
  | cons record records ih =>
    rw [applyRecords] at h
    by_cases hstop : record.cursor ≠ expectedCursor loop.acknowledgedThrough record.cursor ∧
        ¬ newEpochStart loop.acknowledgedThrough record.cursor
    · rw [if_pos hstop] at h
      cases h
      refine ⟨[], record :: records, rfl, ⟨by simp, rfl, .inr ⟨record, records, rfl, ?_, rfl⟩⟩⟩
      rintro (hexpected | hstart)
      · exact hstop.1 hexpected
      · exact hstop.2 hstart
    · rw [if_neg hstop] at h
      have hcontinues : Continues loop.acknowledgedThrough record.cursor := by
        unfold Continues
        by_contra hnot
        push Not at hnot
        exact hstop hnot
      have hrest : ∃ next : UsageLedgerLoop, next.acknowledgedThrough = some record.cursor ∧
          next.gaps = loop.gaps ∧ applyRecords next records = .ok loop' := by
        cases hget : loop.events.get? record.eventId with
        | none =>
          simp only [hget] at h
          refine ⟨_, ?_, ?_, h⟩ <;> rfl
        | some =>
          simp only [hget] at h
          split_ifs at h
          refine ⟨_, ?_, ?_, h⟩ <;> rfl
      obtain ⟨next, hack, hgaps, hnext⟩ := hrest
      obtain ⟨covered, rest, rfl, hcovers⟩ := ih hnext
      exact ⟨record :: covered, rest, rfl, hcovers.cons hcontinues hack hgaps⟩

/-- What `apply_inference_usage_batch` returns: the watermark is held, or the loop went through
some of the records. -/
theorem applyInferenceUsageBatch_ok {codec : UsageCodec} {state : InferenceUsageLedgerState}
    {batch : InferenceUsageBatch} {applied : InferenceUsageLedgerApply}
    (h : applyInferenceUsageBatch codec state batch = .ok applied) :
    batch.Valid codec ∧
      ((batch.after ≠ state.watermark ∧ applied.next = state ∧ applied.insertedEventIds = [] ∧
          applied.receipt = batch.receipt (contractValidHoldAck state.watermark batch) []) ∨
        (batch.after = state.watermark ∧ ∃ loop,
          applyRecords ⟨state.watermark, [], state.events, []⟩ batch.records = .ok loop ∧
            applied.next = ⟨loop.acknowledgedThrough, loop.events⟩ ∧
            applied.insertedEventIds = loop.insertedEventIds ∧
            applied.receipt = batch.receipt loop.acknowledgedThrough loop.gaps)) := by
  simp only [applyInferenceUsageBatch, ok_rules] at h
  obtain ⟨hvalid, -, h⟩ := h
  refine ⟨InferenceUsageBatch.validate_ok_iff.1 hvalid, ?_⟩
  by_cases hafter : batch.after = state.watermark
  · rw [if_neg (by simpa using hafter)] at h
    simp only [ok_rules] at h
    obtain ⟨loop, hloop, -, rfl⟩ := h
    exact .inr ⟨hafter, loop, hloop, rfl, rfl, rfl⟩
  · rw [if_pos hafter] at h
    simp only [ok_rules] at h
    obtain ⟨-, rfl⟩ := h
    exact .inl ⟨hafter, rfl, rfl, rfl⟩

end A3SCloud
