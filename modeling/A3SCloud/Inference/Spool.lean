import A3SCloud.Inference.Contiguity
import A3SCloud.Inference.UsageDatabase

/-!
# The spools of honest Gateways

What a Gateway has to keep to for its usage records to be accepted, and that a batch which continues
its spool where the ledger stands goes through the ledger and the projections.

* `HonestSpools` are the rules for the Gateways of an organization, and `StorableSpools` says that
  what they report fits the columns of the tables.
* `applyInferenceUsageBatch_new` and `applyInferenceUsageBatch_held` are what the ledger makes of a
  batch that comes after the watermark, and of one that it has already seen in part.
* `HonestSpools.projected` says that the records of such a batch are projected without an error,
  given the facts of the requests that started before.
-/

namespace A3SCloud

open Checks List InferenceUsageBatch InferenceUsageDailyRollup InferenceUsageRecord UsageProjections

/-! ### Honest spools -/

/-- The descriptors of a request that its events must not change. -/
structure SameDescriptors (a b : InferenceUsageRequestEvidence) : Prop where
  requestId : a.requestId = b.requestId
  environmentId : a.environmentId = b.environmentId
  credentialId : a.credentialId = b.credentialId
  routeId : a.routeId = b.routeId
  modelId : a.modelId = b.modelId
  endpoint : a.endpoint = b.endpoint

def InferenceUsageRecord.Starts (codec : UsageCodec) (record : InferenceUsageRecord)
    (requestId : Uuid) (event : InferenceUsageLifecycleEvent) : Prop :=
  record.event codec = .ok event ∧ event.kind = .requestStarted ∧
    event.request.requestId = requestId

/-- The Gateways of an organization follow the rules: the positions of a spool are in order, its
events are different ones and can be decoded, a request starts before anything else happens to it,
all its events are in one spool and describe it in the same way. -/
structure HonestSpools (codec : UsageCodec) (spool : Uuid → List InferenceUsageRecord) : Prop where
  decodes : ∀ g, ∀ record ∈ spool g, ∃ event, record.event codec = .ok event
  orderly : ∀ g, Orderly ((spool g).map (·.cursor))
  eventIds : ∀ g, ((spool g).map (·.eventId)).Nodup
  started : ∀ g front record back event, spool g = front ++ record :: back →
    record.event codec = .ok event → event.kind ≠ .requestStarted →
      ∃ first ∈ front, ∃ begun, first.Starts codec event.request.requestId begun
  descriptors : ∀ g g' r r' event event', r ∈ spool g → r' ∈ spool g' →
    r.event codec = .ok event → r'.event codec = .ok event' →
      event.request.requestId = event'.request.requestId →
        g = g' ∧ SameDescriptors event.request event'.request

/-- What a record reports fits the columns of the tables. -/
structure InferenceUsageRecord.Storable (codec : UsageCodec) (record : InferenceUsageRecord)
    (event : InferenceUsageLifecycleEvent) : Prop where
  sequence : record.cursor.sequence ≤ i64Max
  payload : record.payloadBytes codec ≠ 0
  credentialGeneration : event.request.credentialGeneration ≤ i64Max
  routePolicyRevision : event.request.routePolicyRevision ≤ i64Max
  modelAlias : ¬ containsAny event.request.modelAlias ['\x00']
  httpStatus : ∀ status, event.httpStatus = some status → 100 ≤ status ∧ status ≤ 599

def StorableSpools (codec : UsageCodec) (spool : Uuid → List InferenceUsageRecord) : Prop :=
  ∀ g, ∀ record ∈ spool g, ∀ event, record.event codec = .ok event → record.Storable codec event

/-! ### A stretch of a spool is a valid batch -/

variable {codec : UsageCodec} {record : InferenceUsageRecord}

theorem InferenceUsageRecord.validate_of_event {event : InferenceUsageLifecycleEvent}
    (h : record.event codec = .ok event) :
    record.validate codec = .ok () ∧ event.validate = .ok () := by
  simp only [InferenceUsageRecord.event, bind_ok_iff, UsageCodec.decodeEvent_ok_iff] at h
  obtain ⟨bytes, hpayload, -, hevent⟩ := h
  exact ⟨validate_of_payload hpayload, hevent⟩

namespace HonestSpools

variable {codec : UsageCodec} {spool : Uuid → List InferenceUsageRecord} {g : Uuid}
  {batch : InferenceUsageBatch} {sent rest : List InferenceUsageRecord}

/-- A batch that continues a spool after the records that were sent. -/
structure Stretch (codec : UsageCodec) (spool : Uuid → List InferenceUsageRecord)
    (batch : InferenceUsageBatch) (sent rest : List InferenceUsageRecord) : Prop where
  split : spool batch.gatewayId = sent ++ batch.records ++ rest
  after : batch.after = sent.getLast?.map (·.cursor)
  schema : batch.schema = .current
  gatewayId : batch.gatewayId ≠ 0
  batchId : batch.batchId ≠ 0
  nonempty : batch.records ≠ []
  bounded : batch.records.length ≤ inferenceUsageMaxRecords
  payload : (batch.records.map (·.payloadBytes codec)).sum ≤ inferenceUsageMaxBatchBytes

variable {record : InferenceUsageRecord} {done tail : List InferenceUsageRecord}

theorem valid_of_mem (h : HonestSpools codec spool) (hmem : record ∈ spool g) :
    record.validate codec = .ok () := by
  obtain ⟨event, hevent⟩ := h.decodes g record hmem
  exact (validate_of_event hevent).1

/-- The position of a record extends those before it. -/
theorem extends_of_split (h : HonestSpools codec spool) {front back : List InferenceUsageRecord}
    (hsplit : spool g = front ++ record :: back) :
    Orderly (front.map (·.cursor)) ∧ Extends (front.map (·.cursor)) record.cursor := by
  have horderly := h.orderly g
  rw [hsplit, map_append, map_cons, append_cons] at horderly
  exact orderly_concat_iff.1 horderly.of_append

theorem follows (h : HonestSpools codec spool) (hstorable : StorableSpools codec spool)
    (hbatch : Stretch codec spool batch sent rest)
    (hsplit : batch.records = done ++ record :: tail) : record.Follows codec batch.after done := by
  have hspool : spool batch.gatewayId = (sent ++ done) ++ record :: (tail ++ rest) := by
    rw [hbatch.split, hsplit]
    simp
  have hmem : record ∈ spool batch.gatewayId := by
    rw [hspool]
    simp
  obtain ⟨event, hevent⟩ := h.decodes _ record hmem
  have hsequence := (hstorable _ record hmem event hevent).sequence
  obtain ⟨horderly, hextends⟩ := h.extends_of_split hspool
  have hfresh := hextends.fresh horderly
  rw [map_append, mem_append, not_or] at hfresh
  have hlt : i64Max < 2 ^ 64 := by decide
  have hnext : ∀ tip, ((sent ++ done).map (·.cursor)).getLast? = some tip →
      tip.bootEpoch = record.cursor.bootEpoch →
        tip.sequence + 1 < 2 ^ 64 ∧ record.cursor.sequence = tip.sequence + 1 := by
    intro tip htip hepoch
    have hsucc := hextends.succ horderly htip hepoch
    exact ⟨by omega, hsucc⟩
  have hlast : ∀ last, done.getLast? = some last →
      ((sent ++ done).map (·.cursor)).getLast? = some last.cursor := by
    intro last hlast
    rw [getLast?_map, getLast?_append, hlast]
    rfl
  refine ⟨h.valid_of_mem hmem, ?_, ?_, hfresh.2, ?_, fun last hl => hnext _ (hlast last hl), ?_⟩
  · intro hafter
    rw [hbatch.after] at hafter
    obtain ⟨last, hl, hcursor⟩ := Option.map_eq_some_iff.1 hafter
    exact hfresh.1 (mem_map.2 ⟨last, mem_of_getLast? hl, hcursor⟩)
  · rintro rfl cursor hafter hepoch
    rw [append_nil, getLast?_map, ← hbatch.after] at hnext
    exact hnext cursor hafter hepoch
  · intro last hl hepoch hreturn
    have hback := hextends.noReturn (by
      rw [map_append, map_append, map_map]
      exact mem_append_right _ (by simpa using hreturn))
    rw [hlast last hl] at hback
    exact hepoch (Option.some.inj hback)
  · intro hevents
    have hnodup := h.eventIds batch.gatewayId
    rw [hspool, map_append, map_cons, nodup_append'] at hnodup
    exact hnodup.2.2 (by rw [map_append]; exact mem_append_right _ hevents)
      mem_cons_self

theorem batch_valid (h : HonestSpools codec spool) (hstorable : StorableSpools codec spool)
    (hbatch : Stretch codec spool batch sent rest) : batch.Valid codec := by
  refine ⟨hbatch.schema, hbatch.gatewayId, hbatch.batchId, ?_, hbatch.nonempty, hbatch.bounded,
    fun done record tail hsplit => h.follows hstorable hbatch hsplit, hbatch.payload⟩
  rw [validateAfter, hbatch.after]
  cases hlast : sent.getLast? with
  | none => rfl
  | some last =>
    have hmem : last ∈ spool batch.gatewayId := by
      rw [hbatch.split]
      exact mem_append_left _ (mem_append_left _ (mem_of_getLast? hlast))
    have hvalid := h.valid_of_mem hmem
    have hcursor := cursor_of_validate hvalid
    simp only [Option.map_some, InferenceUsageCursor.validate, refuseIf_ok_iff, not_or]
    exact hcursor

/-- The ledger goes on at every record. -/
theorem continues (h : HonestSpools codec spool) (hstorable : StorableSpools codec spool)
    (hbatch : Stretch codec spool batch sent rest)
    (hsplit : batch.records = done ++ record :: tail) :
    Continues (lastCursor batch.after done) record.cursor := by
  by_contra hstop
  obtain ⟨rfl, hafter⟩ :=
    acknowledged_none_of_stop (h.batch_valid hstorable hbatch) hsplit hstop
  have hsent : sent = [] := by
    rw [hbatch.after, Option.map_eq_none_iff] at hafter
    exact getLast?_eq_none_iff.1 hafter
  have hspool : spool batch.gatewayId = [] ++ record :: (tail ++ rest) := by
    rw [hbatch.split, hsplit, hsent]
    simp
  have hfirst := (h.extends_of_split hspool).2.sequence
  refine hstop (.inl ?_)
  rw [lastCursor_nil, hafter]
  exact congrArg (InferenceUsageCursor.mk record.cursor.bootEpoch) hfirst

end HonestSpools

/-! ### The ledger accepts it -/

/-- The loop goes through records at each of which it can go on and whose events are new. -/
theorem applyRecords_all {loop : UsageLedgerLoop} {records : List InferenceUsageRecord}
    (hcontinues : ∀ front record back, records = front ++ record :: back →
      Continues (lastCursor loop.acknowledgedThrough front) record.cursor)
    (hnew : ∀ record ∈ records, loop.events.get? record.eventId = none)
    (hnodup : (records.map (·.eventId)).Nodup) :
    ∃ events, applyRecords loop records = .ok ⟨lastCursor loop.acknowledgedThrough records,
      loop.gaps, events, loop.insertedEventIds ++ records.map (·.eventId)⟩ := by
  induction records generalizing loop with
  | nil => exact ⟨loop.events, by simp [applyRecords]⟩
  | cons record records ih =>
    obtain ⟨hnone, hrest⟩ := forall_mem_cons.1 hnew
    rw [map_cons, nodup_cons] at hnodup
    have hgo : ¬ (record.cursor ≠ expectedCursor loop.acknowledgedThrough record.cursor ∧
        ¬ newEpochStart loop.acknowledgedThrough record.cursor) := by
      have hfirst := hcontinues [] record records rfl
      rw [lastCursor_nil] at hfirst
      rintro ⟨hne, hstart⟩
      exact hfirst.elim hne hstart
    obtain ⟨events, hevents⟩ := @ih { loop with
        acknowledgedThrough := some record.cursor
        events := loop.events.insert ⟨record.eventId, record.payloadSha256⟩
        insertedEventIds := loop.insertedEventIds ++ [record.eventId] }
      (fun front r back heq => by
        rw [← lastCursor_cons loop.acknowledgedThrough record front]
        exact hcontinues (record :: front) r back (by rw [heq]; rfl))
      (fun r hr => by
        rw [Table.get?_insert, if_neg, hrest r hr]
        exact fun heq => hnodup.1 (mem_map.2 ⟨r, hr, heq⟩))
      hnodup.2
    refine ⟨events, ?_⟩
    rw [applyRecords, if_neg hgo]
    simp only [hnone, hevents, lastCursor_cons, map_cons, append_assoc,
      singleton_append]

/-- A receipt without gaps that acknowledges a position of its batch is valid. -/
theorem InferenceUsageBatch.Valid.receipt {batch : InferenceUsageBatch} (hvalid : batch.Valid codec)
    (hmem : record ∈ batch.records) :
    (batch.receipt (some record.cursor) []).validateFor codec batch = .ok () := by
  obtain ⟨front, back, hsplit⟩ := append_of_mem hmem
  have hcursor := cursor_of_validate
    (hvalid.follows front record back hsplit).valid
  have hin : record.cursor ∈ batch.cursors := mem_map.2 ⟨record, hmem, rfl⟩
  simp only [InferenceUsageReceipt.validateFor, InferenceUsageBatch.receipt,
    InferenceUsageReceipt.validateAcknowledgement, InferenceUsageReceipt.validateGaps,
    InferenceUsageCursor.validate, ok_rules, validateSchema, validate_ok_iff, hin]
  simp [hvalid, hcursor, inferenceUsageMaxRecords]

section apply

variable {codec : UsageCodec} {state : InferenceUsageLedgerState} {batch : InferenceUsageBatch}

/-- A batch that the ledger has seen up to a position in it is acknowledged up to there. -/
theorem applyInferenceUsageBatch_held (hvalid : batch.Valid codec)
    (hdecodes : ∀ record ∈ batch.records, ∃ event, record.event codec = .ok event)
    {record : InferenceUsageRecord} (hmem : record ∈ batch.records)
    (hwatermark : state.watermark = some record.cursor) :
    applyInferenceUsageBatch codec state batch =
      .ok ⟨batch.receipt (some record.cursor) [], state, []⟩ := by
  obtain ⟨front, back, hsplit⟩ := append_of_mem hmem
  have hafter : batch.after ≠ state.watermark := by
    rw [hwatermark]
    exact (hvalid.follows front record back hsplit).notAfter
  have hack : contractValidHoldAck state.watermark batch = some record.cursor := by
    rw [contractValidHoldAck, hwatermark, if_pos]
    exact .inr (decide_eq_true (mem_map.2 ⟨record, hmem, rfl⟩))
  rw [applyInferenceUsageBatch, if_pos hafter]
  simp only [ok_rules, checkAll_ok_iff, hack, validate_ok_iff]
  refine ⟨hvalid, fun r hr => ?_, hvalid.receipt hmem, trivial⟩
  obtain ⟨event, hevent⟩ := hdecodes r hr
  rw [hevent]
  rfl

/-- A batch after the watermark at every record of which the ledger can go on is acknowledged as a
whole. -/
theorem applyInferenceUsageBatch_new (hvalid : batch.Valid codec)
    (hdecodes : ∀ record ∈ batch.records, ∃ event, record.event codec = .ok event)
    (hafter : batch.after = state.watermark)
    (hcontinues : ∀ front record back, batch.records = front ++ record :: back →
      Continues (lastCursor batch.after front) record.cursor)
    (hnew : ∀ record ∈ batch.records, state.events.get? record.eventId = none)
    (hnodup : (batch.records.map (·.eventId)).Nodup) {last : InferenceUsageRecord}
    (hlast : batch.records.getLast? = some last) :
    ∃ events, applyInferenceUsageBatch codec state batch =
      .ok ⟨batch.receipt (some last.cursor) [], ⟨some last.cursor, events⟩,
        batch.records.map (·.eventId)⟩ := by
  obtain ⟨events, hevents⟩ := @applyRecords_all ⟨state.watermark, [], state.events, []⟩
    batch.records (by rw [← hafter]; exact hcontinues) hnew hnodup
  have hack : lastCursor state.watermark batch.records = some last.cursor := by
    rw [lastCursor, hlast]
    rfl
  refine ⟨events, ?_⟩
  rw [applyInferenceUsageBatch, if_neg (not_not.2 hafter)]
  simp only [ok_rules, checkAll_ok_iff, validate_ok_iff]
  refine ⟨hvalid, fun r hr => ?_, _, hevents, ?_, ?_⟩
  · obtain ⟨event, hevent⟩ := hdecodes r hr
    rw [hevent]
    rfl
  · rw [hack]
    exact hvalid.receipt (mem_of_getLast? hlast)
  · simp only [hack, nil_append]

end apply

/-! ### Its records are projected -/

def InferenceUsageRequestFact.DescribedBy (fact : InferenceUsageRequestFact)
    (request : InferenceUsageRequestEvidence) : Prop :=
  fact.environmentId = request.environmentId ∧ fact.credentialId = request.credentialId ∧
    fact.routeId = request.routeId ∧ fact.modelId = request.modelId ∧
      fact.endpoint = request.endpoint

/-- A fact is about a request that some records say has started, and fits its table. -/
structure InferenceUsageRequestFact.StartedIn (codec : UsageCodec)
    (records : List InferenceUsageRecord) (fact : InferenceUsageRequestFact) : Prop where
  starts : ∃ first ∈ records, ∃ begun, first.Starts codec fact.requestId begun ∧
    fact.DescribedBy begun.request ∧
      canonicalTimestamp fact.startedAt = canonicalTimestamp begun.occurredAt
  credentialGeneration : fact.credentialGeneration ≤ i64Max
  routePolicyRevision : fact.routePolicyRevision ≤ i64Max
  modelAlias : ¬ containsAny fact.modelAlias ['\x00']
  httpStatus : ∀ status, fact.httpStatus = some status → 100 ≤ status ∧ status ≤ 599

/-- The most that a record can add to a counter. -/
def InferenceUsageRecord.weight (codec : UsageCodec) (record : InferenceUsageRecord) : ℕ :=
  match record.event codec with
  | .ok event => 1 + event.totalTokens.getD 0
  | .error _ => 0

theorem projectLifecycleEvent_returns {existing : Option InferenceUsageRequestFact}
    {gatewayId : Uuid} {event : InferenceUsageLifecycleEvent} (hvalid : event.validate = .ok ())
    (hgateway : gatewayId ≠ 0) (hstarted : event.kind ≠ .requestStarted → existing.isSome)
    (hsame : ∀ fact, existing = some fact →
      fact.requestId = event.request.requestId ∧ fact.DescribedBy event.request) :
    ∃ result, projectLifecycleEvent existing gatewayId event = .ok result := by
  have hensure : ∀ fact, existing = some fact → ensureSameRequest fact event = .ok () := by
    intro fact hfact
    obtain ⟨hid, henvironment, hcredential, hroute, hmodel, hendpoint⟩ := hsame fact hfact
    simp [ensureSameRequest, bind_ok_iff, hid, henvironment, hcredential, hroute, hmodel,
      hendpoint]
  simp only [projectLifecycleEvent, ok_rules]
  cases hkind : event.kind with
  | requestStarted =>
    cases existing with
    | none => exact ⟨_, hvalid, hgateway, rfl⟩
    | some fact =>
      have hid := (hsame fact rfl).1
      refine ⟨(fact, false), hvalid, hgateway, ?_⟩
      simp only [ok_rules]
      exact ⟨not_not.2 hid, trivial⟩
  | attemptStarted | attemptTerminal | requestTerminal =>
    obtain ⟨fact, rfl⟩ := Option.isSome_iff_exists.1 (hstarted (by simp [hkind]))
    simp only [ok_rules]
    exact ⟨_, hvalid, hgateway, fact, rfl, hensure fact rfl, rfl⟩

namespace InferenceUsageRequestFact.StartedIn

variable {codec : UsageCodec} {records : List InferenceUsageRecord}
  {fact : InferenceUsageRequestFact} {record : InferenceUsageRecord}
  {event : InferenceUsageLifecycleEvent}

theorem started (hmem : record ∈ records) (hevent : record.event codec = .ok event)
    (hkind : event.kind = .requestStarted) (hstorable : record.Storable codec event)
    (gatewayId : Uuid) : (event.startedFact gatewayId).StartedIn codec records where
  starts := ⟨record, hmem, event, ⟨hevent, hkind, rfl⟩, ⟨rfl, rfl, rfl, rfl, rfl⟩, rfl⟩
  credentialGeneration := hstorable.credentialGeneration
  routePolicyRevision := hstorable.routePolicyRevision
  modelAlias := hstorable.modelAlias
  httpStatus _ h := by cases h

theorem countAttempt (h : fact.StartedIn codec records) :
    fact.countAttempt.StartedIn codec records :=
  ⟨h.starts, h.credentialGeneration, h.routePolicyRevision, h.modelAlias, h.httpStatus⟩

theorem terminate (h : fact.StartedIn codec records) (hstorable : record.Storable codec event) :
    (fact.terminate event).StartedIn codec records :=
  ⟨h.starts, h.credentialGeneration, h.routePolicyRevision, h.modelAlias, hstorable.httpStatus⟩

theorem stored (h : fact.StartedIn codec records) :
    (OrganizationRows.storedFact fact).StartedIn codec records := by
  obtain ⟨first, hfirst, begun, hstarts, hdescribed, htime⟩ := h.starts
  refine ⟨⟨first, hfirst, begun, hstarts, hdescribed, ?_⟩, h.credentialGeneration,
    h.routePolicyRevision, h.modelAlias, h.httpStatus⟩
  rw [← htime]
  exact canonicalTimestamp_idem fact.startedAt

end InferenceUsageRequestFact.StartedIn

/-- The projections at some place of a spool: every fact is about a request that starts in it and
that is one of the given requests, all of these requests that have started have their facts, and the
counters are bounded by what was projected. -/
structure Projected (codec : UsageCodec) (records : List InferenceUsageRecord) (ids : List Uuid)
    (before : List InferenceUsageRecord) (weight : ℕ) (projections : UsageProjections) : Prop where
  facts : ∀ fact ∈ projections.facts.rows, fact.StartedIn codec records ∧ fact.requestId ∈ ids
  started : ∀ first ∈ before, ∀ id ∈ ids, ∀ begun, first.Starts codec id begun →
    (projections.facts.get? id).isSome
  counters : ∀ key counter, (projections.rollup key).counter counter ≤ weight

/-- A request adds no more than one or its tokens. -/
theorem InferenceUsageRequestFact.contribution_le (fact : InferenceUsageRequestFact)
    (counter : RollupCounter) : fact.contribution counter ≤ 1 + fact.totalTokens.getD 0 := by
  cases counter with
  | requests => exact Nat.le_add_right _ _
  | tokens => exact Nat.le_add_left _ _
  | outcome | unknownMeasurement | upstreamUsage =>
    simp only [contribution]
    split_ifs <;> omega

namespace HonestSpools

variable {codec : UsageCodec} {spool : Uuid → List InferenceUsageRecord} {g : Uuid}
  {ids : List Uuid} {before back : List InferenceUsageRecord} {weight : ℕ}
  {projections : UsageProjections} {record : InferenceUsageRecord}
  {event : InferenceUsageLifecycleEvent}

theorem agrees (h : HonestSpools codec spool) {fact : InferenceUsageRequestFact}
    (hfact : fact.StartedIn codec (spool g)) (hmem : record ∈ spool g)
    (hevent : record.event codec = .ok event) (hid : fact.requestId = event.request.requestId) :
    fact.DescribedBy event.request := by
  obtain ⟨first, hfirst, begun, ⟨hbegun, -, hrequest⟩, hdescribed, -⟩ := hfact.starts
  obtain ⟨-, hsame⟩ :=
    h.descriptors g g first record begun event hfirst hmem hbegun hevent (hrequest.trans hid)
  obtain ⟨henvironment, hcredential, hroute, hmodel, hendpoint⟩ := hdescribed
  exact ⟨henvironment.trans hsame.environmentId, hcredential.trans hsame.credentialId,
    hroute.trans hsame.routeId, hmodel.trans hsame.modelId, hendpoint.trans hsame.endpoint⟩

theorem projectRecord_returns (h : HonestSpools codec spool)
    (hprojected : Projected codec (spool g) ids before weight projections) (hgateway : g ≠ 0)
    (hsplit : spool g = before ++ record :: back) (hevent : record.event codec = .ok event)
    (hid : event.request.requestId ∈ ids) :
    ∃ next, projections.projectRecord codec g record = .ok next := by
  have hmem : record ∈ spool g := by simp [hsplit]
  have hvalid := (validate_of_event hevent).2
  obtain ⟨⟨fact, newlyTerminal⟩, hproject⟩ := @projectLifecycleEvent_returns
    (projections.facts.get? event.request.requestId) g event hvalid hgateway
    (fun hkind => by
      obtain ⟨first, hfirst, begun, hstarts⟩ :=
        h.started g before record back event hsplit hevent hkind
      exact hprojected.started first hfirst _ hid begun hstarts)
    (fun fact hfact => by
      obtain ⟨hrow, hrequest⟩ := Table.get?_eq_some_iff.1 hfact
      exact ⟨hrequest, h.agrees (hprojected.facts fact hrow).1 hmem hevent hrequest⟩)
  have hcount : ∃ rollups, projections.countTerminal fact newlyTerminal = .ok rollups := by
    rw [countTerminal]
    rcases projectLifecycleEvent_ok hproject with _ | _ | _ | ⟨ended, -, -, houtcome⟩
    case ended =>
      obtain ⟨outcome, ho⟩ := Option.isSome_iff_exists.1 houtcome
      simp only [if_true, ok_rules, applyTerminalRequest, InferenceUsageRequestFact.terminate]
      exact ⟨_, _, ⟨outcome, ho, rfl⟩, rfl⟩
    all_goals exact ⟨projections.rollups, rfl⟩
  obtain ⟨rollups, hrollups⟩ := hcount
  refine ⟨⟨projections.facts.insert fact, rollups⟩, ?_⟩
  simp only [projectRecord, bind_ok_iff]
  exact ⟨event, hevent, (fact, newlyTerminal), hproject, rollups, hrollups, rfl⟩

theorem projected_concat (h : HonestSpools codec spool) (hstorable : StorableSpools codec spool)
    (hprojected : Projected codec (spool g) ids before weight projections)
    (hsplit : spool g = before ++ record :: back) (hevent : record.event codec = .ok event)
    (hid : event.request.requestId ∈ ids) (hweight : weight ≤ u64Max) {next : UsageProjections}
    (hnext : projections.projectRecord codec g record = .ok next) :
    Projected codec (spool g) ids (before ++ [record]) (weight + record.weight codec) next := by
  have hmem : record ∈ spool g := by simp [hsplit]
  have hstored := hstorable g record hmem event hevent
  obtain ⟨event', fact, newlyTerminal, hevent', hprojects, hfacts, hrollups⟩ :=
    projectRecord_ok hnext
  obtain rfl : event = event' := Except.ok.inj (hevent.symm.trans hevent')
  have hexisting : ∀ existing, projections.facts.get? event.request.requestId = some existing →
      existing.StartedIn codec (spool g) ∧ existing.requestId = event.request.requestId :=
    fun existing hget => by
      obtain ⟨hrow, hrequest⟩ := Table.get?_eq_some_iff.1 hget
      exact ⟨(hprojected.facts existing hrow).1, hrequest⟩
  -- A request has no fact only when this record starts it.
  have hstarts : projections.facts.get? event.request.requestId = none →
      event.kind = .requestStarted := by
    intro hnone
    by_contra hkind
    obtain ⟨first, hfirst, begun, hbegun⟩ :=
      h.started g before record back event hsplit hevent hkind
    have hsome := hprojected.started first hfirst _ hid begun hbegun
    rw [hnone] at hsome
    cases hsome
  have hfact : fact.StartedIn codec (spool g) ∧ fact.requestId = event.request.requestId := by
    cases hprojects with
    | seen _ hget => exact hexisting fact hget
    | started hget => exact ⟨.started hmem hevent (hstarts hget) hstored g, rfl⟩
    | attempt old hget => exact ⟨(hexisting old hget).1.countAttempt, (hexisting old hget).2⟩
    | ended old hget => exact ⟨(hexisting old hget).1.terminate hstored, (hexisting old hget).2⟩
  have hrecord : record.weight codec = 1 + event.totalTokens.getD 0 := by
    rw [InferenceUsageRecord.weight, hevent]
  refine ⟨fun f hf => ?_, fun first hfirst id hids begun hbegun => ?_, fun key counter => ?_⟩
  · rw [hfacts] at hf
    rcases Table.mem_insert.1 hf with rfl | ⟨hf, -⟩
    · exact ⟨hfact.1, by rw [hfact.2]; exact hid⟩
    · exact hprojected.facts f hf
  · rw [hfacts, Table.get?_insert]
    split_ifs with hkey
    · rfl
    · rcases mem_append.1 hfirst with hfirst | hfirst
      · exact hprojected.started first hfirst id hids begun hbegun
      · obtain rfl := mem_singleton.1 hfirst
        obtain ⟨hb, -, hrequest⟩ := hbegun
        obtain rfl := Except.ok.inj (hevent.symm.trans hb)
        exact absurd (hrequest.symm.trans hfact.2.symm) hkey
  · have hold := hprojected.counters key counter
    rcases hrollups with ⟨-, hsame⟩ | ⟨hterminal, rollup, happly, hinsert⟩
    · rw [UsageProjections.rollup, hsame]
      exact hold.trans (Nat.le_add_right _ _)
    · have hrollupKey : rollup.key = fact.rollupKey := by
        rw [key_applyTerminalRequest happly]
        exact projections.rollup_key fact.rollupKey
      rw [UsageProjections.rollup, hinsert, Table.get?_insert]
      split_ifs with hkey
      · have hle := hprojected.counters fact.rollupKey counter
        have hcontribution := fact.contribution_le counter
        have htokens : fact.totalTokens = event.totalTokens := by
          cases hprojects with
          | ended => rfl
          | _ => cases hterminal
        rw [Option.getD_some,
          counter_applyTerminalRequest happly (hle.trans hweight),
          saturatingAdd]
        rw [htokens] at hcontribution
        omega
      · exact hold.trans (Nat.le_add_right _ _)

theorem projected (h : HonestSpools codec spool) (hstorable : StorableSpools codec spool)
    (hgateway : g ≠ 0) {inserted : List Uuid} {records rest : List InferenceUsageRecord}
    (hprojected : Projected codec (spool g) ids before weight projections)
    (hsplit : spool g = before ++ records ++ rest) (hinserted : ∀ r ∈ records, r.eventId ∈ inserted)
    (hids : ∀ r ∈ records, ∀ event, r.event codec = .ok event → event.request.requestId ∈ ids)
    (hweight : weight + (records.map (·.weight codec)).sum ≤ u64Max) :
    ∃ next, projections.projectInsertedUsageRecords codec g inserted records = (next, .ok ()) ∧
      Projected codec (spool g) ids (before ++ records)
        (weight + (records.map (·.weight codec)).sum) next := by
  induction records generalizing before weight projections with
  | nil => exact ⟨projections, rfl, by simpa using hprojected⟩
  | cons record records ih =>
    obtain ⟨hin, hinserted⟩ := forall_mem_cons.1 hinserted
    obtain ⟨hid, hids⟩ := forall_mem_cons.1 hids
    have hspool : spool g = before ++ record :: (records ++ rest) := by simp [hsplit]
    rw [map_cons, sum_cons, ← Nat.add_assoc] at hweight
    obtain ⟨event, hevent⟩ := h.decodes g record (by simp [hspool])
    obtain ⟨middle, hmiddle⟩ :=
      h.projectRecord_returns hprojected hgateway hspool hevent (hid event hevent)
    have hconcat := h.projected_concat hstorable hprojected hspool hevent (hid event hevent)
      (by omega) hmiddle
    obtain ⟨next, hnext, hdone⟩ := ih hconcat (by simp [hsplit]) hinserted hids hweight
    refine ⟨next, ?_, ?_⟩
    · rw [projectInsertedUsageRecords, if_pos hin, hmiddle]
      exact hnext
    · rw [append_assoc, singleton_append, Nat.add_assoc] at hdone
      exact hdone

end HonestSpools

/-! ### The tables take what is projected -/

namespace OrganizationRows

variable {rows : OrganizationRows}

theorem upsertRequestFacts_returns {codec : UsageCodec} {records : List InferenceUsageRecord}
    {facts : List InferenceUsageRequestFact} (hfacts : ∀ fact ∈ facts,
      fact.StartedIn codec records ∧ ∀ retained, rows.retention.recordsAvailableFrom = some retained →
        retained ≤ canonicalTimestamp fact.startedAt) :
    upsertAll upsertRequestFact rows facts = .ok { rows with projections :=
      { rows.projections with
        facts := rows.projections.facts.insertAll (facts.map storedFact) } } := by
  induction facts generalizing rows with
  | nil => rfl
  | cons fact facts ih =>
    obtain ⟨⟨hfact, hretained⟩, hrest⟩ := forall_mem_cons.1 hfacts
    have hstored : upsertRequestFact rows fact = .ok { rows with projections :=
        { rows.projections with facts := rows.projections.facts.insert (storedFact fact) } } := by
      simp only [upsertRequestFact, ok_rules, toI64, not_lt]
      refine ⟨hfact.credentialGeneration, hfact.routePolicyRevision, ?_, ?_, hfact.modelAlias,
        trivial⟩
      · rintro ⟨retained, hsome, hlt⟩
        exact absurd (hretained retained hsome) (not_le.2 hlt)
      · rintro ⟨status, hstatus, hrange⟩
        have hok := hfact.httpStatus status hstatus
        omega
    rw [upsertAll, hstored]
    exact ih hrest

/-- The counters of a delta can be added to the stored ones. -/
theorem upsertDailyRollupDelta_returns {delta : InferenceUsageDailyRollup}
    (hfit : ∀ counter, (rows.projections.rollup delta.key).counter counter +
      delta.counter counter ≤ i64Max) :
    ∃ rollup, upsertDailyRollupDelta rows delta = .ok { rows with
      projections := { rows.projections with
        rollups := rows.projections.rollups.insert rollup } } ∧ rollup.key = delta.key := by
  have hadd : ∀ stored delta, stored + delta ≤ i64Max →
      addCounter stored delta = .ok (stored + min delta i64Max) := by
    intro stored delta hle
    rw [addCounter, if_pos]
    omega
  simp only [upsertDailyRollupDelta, ok_rules]
  exact ⟨_, ⟨_, hadd _ _ (hfit .requests), _, hadd _ _ (hfit (.outcome .succeeded)),
    _, hadd _ _ (hfit (.outcome .failed)), _, hadd _ _ (hfit (.outcome .fallback)),
    _, hadd _ _ (hfit (.outcome .cancelled)), _, hadd _ _ (hfit (.outcome .disconnected)),
    _, hadd _ _ (hfit .unknownMeasurement), _, hadd _ _ (hfit .upstreamUsage),
    _, hadd _ _ (hfit .tokens), rfl⟩, rfl⟩

/-- Deltas of different keys that fit are stored. -/
theorem upsertDailyRollupDeltas_returns {deltas : List InferenceUsageDailyRollup}
    (hnodup : (deltas.map (·.key)).Nodup)
    (hfit : ∀ delta ∈ deltas, ∀ counter, (rows.projections.rollup delta.key).counter counter +
      delta.counter counter ≤ i64Max) :
    ∃ rollups, upsertAll upsertDailyRollupDelta rows deltas = .ok { rows with
      projections := { rows.projections with rollups := rollups } } := by
  induction deltas generalizing rows with
  | nil => exact ⟨rows.projections.rollups, rfl⟩
  | cons delta deltas ih =>
    obtain ⟨hfirst, hrest⟩ := forall_mem_cons.1 hfit
    rw [map_cons, nodup_cons] at hnodup
    obtain ⟨rollup, hstored, hkey⟩ := upsertDailyRollupDelta_returns hfirst
    obtain ⟨rollups, hnext⟩ := @ih { rows with projections :=
        { rows.projections with rollups := rows.projections.rollups.insert rollup } } hnodup.2
      (fun other hother counter => by
        have hne : other.key ≠ rollup.key := by
          rw [hkey]
          intro heq
          exact hnodup.1 (mem_map.2 ⟨other, hother, heq⟩)
        simp only [UsageProjections.rollup, Table.get?_insert, if_neg hne]
        exact hrest other hother counter)
    refine ⟨rollups, ?_⟩
    rw [upsertAll, hstored]
    exact hnext

end OrganizationRows

end A3SCloud
