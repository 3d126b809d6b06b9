import A3SCloud.Inference.Usage
import A3SCloud.Lib.Table

/-!
# Request facts and daily rollups

`inference/domain/services/usage_projection.rs`: the events of a request are projected to a fact
about the request, and the moment it ends advances the counters of a daily rollup.

* `projectLifecycleEvent` is the projection of one event, `projectInsertedUsageRecords` the loop
  over the records of a batch. The loop stops at the first error and keeps what it has projected, so
  it returns the projections it leaves besides its result.
* `RollupCounter` names the counters of a rollup; `counter_applyTerminalRequest` says what one
  request adds to each of them.
-/

namespace A3SCloud

open Checks

def dayNanos : ℤ := 86400000000000

/-- The UTC day of a time, counted from the Unix epoch. -/
def dateNaive (t : ℤ) : ℤ := t / dayNanos

theorem dateNaive_mono {s t : ℤ} (h : s ≤ t) : dateNaive s ≤ dateNaive t :=
  Int.ediv_le_ediv (by decide) h

structure InferenceUsageDailyRollupKey where
  day : ℤ
  environmentId : Uuid
  modelId : Uuid
  endpoint : InferenceUsageEndpoint
  deriving DecidableEq

/-- What is known of a request. -/
structure InferenceUsageRequestFact where
  requestId : Uuid
  gatewayId : Uuid
  environmentId : Uuid
  credentialId : Uuid
  credentialGeneration : ℕ
  routeId : Uuid
  routePolicyRevision : ℕ
  endpoint : InferenceUsageEndpoint
  modelAlias : String
  modelId : Uuid
  startedAt : ℤ
  terminatedAt : Option ℤ
  outcome : Option InferenceUsageTerminalOutcome
  httpStatus : Option ℕ
  durationMs : Option ℕ
  measurementCompleteness : Option InferenceUsageMeasurementCompleteness
  totalTokens : Option ℕ
  attemptCount : ℕ
  deriving DecidableEq

open InferenceUsageRequestFact

namespace InferenceUsageRequestFact

variable (fact : InferenceUsageRequestFact)

def isTerminal : Bool := fact.outcome.isSome

def rollupDay : ℤ := dateNaive fact.startedAt

def rollupKey : InferenceUsageDailyRollupKey :=
  ⟨fact.rollupDay, fact.environmentId, fact.modelId, fact.endpoint⟩

end InferenceUsageRequestFact

/-! ### Rollups -/

structure InferenceUsageDailyRollup where
  key : InferenceUsageDailyRollupKey
  requestCount : ℕ
  succeededCount : ℕ
  failedCount : ℕ
  fallbackCount : ℕ
  cancelledCount : ℕ
  disconnectedCount : ℕ
  unknownMeasurementCount : ℕ
  upstreamUsageCount : ℕ
  totalTokens : ℕ
  deriving DecidableEq

namespace InferenceUsageDailyRollup

def empty (key : InferenceUsageDailyRollupKey) : InferenceUsageDailyRollup :=
  ⟨key, 0, 0, 0, 0, 0, 0, 0, 0, 0⟩

variable (rollup : InferenceUsageDailyRollup)

def countOutcome : InferenceUsageTerminalOutcome → InferenceUsageDailyRollup
  | .succeeded => { rollup with succeededCount := saturatingAdd rollup.succeededCount 1 }
  | .failed => { rollup with failedCount := saturatingAdd rollup.failedCount 1 }
  | .fallback => { rollup with fallbackCount := saturatingAdd rollup.fallbackCount 1 }
  | .cancelled => { rollup with cancelledCount := saturatingAdd rollup.cancelledCount 1 }
  | .disconnected => { rollup with disconnectedCount := saturatingAdd rollup.disconnectedCount 1 }

def countMeasurement : Option InferenceUsageMeasurementCompleteness → InferenceUsageDailyRollup
  | some .upstreamUsage =>
    { rollup with upstreamUsageCount := saturatingAdd rollup.upstreamUsageCount 1 }
  | some .unknown | none =>
    { rollup with unknownMeasurementCount := saturatingAdd rollup.unknownMeasurementCount 1 }

def countTokens : Option ℕ → InferenceUsageDailyRollup
  | some tokens => { rollup with totalTokens := saturatingAdd rollup.totalTokens tokens }
  | none => rollup

def applyTerminalRequest (fact : InferenceUsageRequestFact) :
    Except String InferenceUsageDailyRollup := do
  let outcome ← orElse "daily rollup requires a terminal request fact" fact.outcome
  let rollup := { rollup with requestCount := saturatingAdd rollup.requestCount 1 }
  pure (((rollup.countOutcome outcome).countMeasurement fact.measurementCompleteness).countTokens
    fact.totalTokens)

end InferenceUsageDailyRollup

inductive RollupCounter
  | requests
  | outcome (outcome : InferenceUsageTerminalOutcome)
  | unknownMeasurement
  | upstreamUsage
  | tokens
  deriving DecidableEq

def InferenceUsageDailyRollup.counter (rollup : InferenceUsageDailyRollup) : RollupCounter → ℕ
  | .requests => rollup.requestCount
  | .outcome .succeeded => rollup.succeededCount
  | .outcome .failed => rollup.failedCount
  | .outcome .fallback => rollup.fallbackCount
  | .outcome .cancelled => rollup.cancelledCount
  | .outcome .disconnected => rollup.disconnectedCount
  | .unknownMeasurement => rollup.unknownMeasurementCount
  | .upstreamUsage => rollup.upstreamUsageCount
  | .tokens => rollup.totalTokens

variable (fact : InferenceUsageRequestFact)

/-- What a terminal request adds to a counter. -/
def InferenceUsageRequestFact.contribution : RollupCounter → ℕ
  | .requests => 1
  | .outcome outcome => if fact.outcome = some outcome then 1 else 0
  | .unknownMeasurement => if fact.measurementCompleteness = some .upstreamUsage then 0 else 1
  | .upstreamUsage => if fact.measurementCompleteness = some .upstreamUsage then 1 else 0
  | .tokens => fact.totalTokens.getD 0

@[simp] theorem InferenceUsageDailyRollup.counter_empty (key : InferenceUsageDailyRollupKey)
    (counter : RollupCounter) : (InferenceUsageDailyRollup.empty key).counter counter = 0 := by
  cases counter with
  | outcome outcome => cases outcome <;> rfl
  | _ => rfl

/-! ### The projection -/

variable (event : InferenceUsageLifecycleEvent)

def ensureSameRequest : Except String Unit := do
  refuseIf (fact.requestId ≠ event.request.requestId) "usage projection changed request identity"
  refuseIf (fact.environmentId ≠ event.request.environmentId ∨
      fact.credentialId ≠ event.request.credentialId ∨ fact.routeId ≠ event.request.routeId ∨
      fact.modelId ≠ event.request.modelId ∨ fact.endpoint ≠ event.request.endpoint)
    "usage projection changed immutable request descriptors"

def InferenceUsageLifecycleEvent.startedFact (gatewayId : Uuid) : InferenceUsageRequestFact where
  requestId := event.request.requestId
  gatewayId := gatewayId
  environmentId := event.request.environmentId
  credentialId := event.request.credentialId
  credentialGeneration := event.request.credentialGeneration
  routeId := event.request.routeId
  routePolicyRevision := event.request.routePolicyRevision
  endpoint := event.request.endpoint
  modelAlias := event.request.modelAlias
  modelId := event.request.modelId
  startedAt := event.occurredAt
  terminatedAt := none
  outcome := none
  httpStatus := none
  durationMs := none
  measurementCompleteness := none
  totalTokens := none
  attemptCount := 0

/-- The fact of a request that has ended. -/
def InferenceUsageRequestFact.terminate : InferenceUsageRequestFact :=
  { fact with
    terminatedAt := some event.occurredAt
    outcome := event.outcome
    httpStatus := event.httpStatus
    durationMs := event.durationMs
    measurementCompleteness := event.measurementCompleteness
    totalTokens := event.totalTokens }

/-- One attempt more; the counter is an unsigned 32-bit number that saturates. -/
def InferenceUsageRequestFact.countAttempt : InferenceUsageRequestFact :=
  { fact with attemptCount := min (fact.attemptCount + 1) (2 ^ 32 - 1) }

/-- `project_lifecycle_event`: the next fact, and whether the request has just ended. -/
def projectLifecycleEvent (existing : Option InferenceUsageRequestFact) (gatewayId : Uuid)
    (event : InferenceUsageLifecycleEvent) : Except String (InferenceUsageRequestFact × Bool) := do
  event.validate
  refuseIf (gatewayId = 0) "usage projection gateway ID is invalid"
  match event.kind with
  | .requestStarted =>
    match existing with
    | some fact => do
      refuseIf (fact.requestId ≠ event.request.requestId)
        "usage projection changed request identity"
      pure (fact, false)
    | none => pure (event.startedFact gatewayId, false)
  | .attemptStarted => do
    let fact ← orElse "attempt_started without request_started" existing
    ensureSameRequest fact event
    pure (if fact.isTerminal then fact else fact.countAttempt, false)
  | .attemptTerminal => do
    let fact ← orElse "attempt_terminal without request_started" existing
    ensureSameRequest fact event
    pure (fact, false)
  | .requestTerminal => do
    let fact ← orElse "request_terminal without request_started" existing
    ensureSameRequest fact event
    pure (if fact.isTerminal then (fact, false) else (fact.terminate event, true))

/-- The facts and rollups of an organization. -/
structure UsageProjections where
  facts : Table requestId
  rollups : Table InferenceUsageDailyRollup.key

namespace UsageProjections

def empty : UsageProjections := ⟨.empty, .empty⟩

def rollup (projections : UsageProjections) (key : InferenceUsageDailyRollupKey) :
    InferenceUsageDailyRollup := (projections.rollups.get? key).getD (.empty key)

/-- A request that has just ended is counted in the rollup of its key. -/
def countTerminal (projections : UsageProjections) (fact : InferenceUsageRequestFact)
    (newlyTerminal : Bool) : Except String (Table InferenceUsageDailyRollup.key) :=
  if newlyTerminal then do
    let rollup ← (projections.rollup fact.rollupKey).applyTerminalRequest fact
    pure (projections.rollups.insert rollup)
  else .ok projections.rollups

/-- One record that was inserted. -/
def projectRecord (codec : UsageCodec) (gatewayId : Uuid) (projections : UsageProjections)
    (record : InferenceUsageRecord) : Except String UsageProjections := do
  let event ← record.event codec
  let (next, newlyTerminal) ←
    projectLifecycleEvent (projections.facts.get? event.request.requestId) gatewayId event
  let rollups ← projections.countTerminal next newlyTerminal
  pure ⟨projections.facts.insert next, rollups⟩

/-- `project_inserted_usage_records`: the projections it leaves and its result. -/
def projectInsertedUsageRecords (codec : UsageCodec) (gatewayId : Uuid)
    (insertedEventIds : List Uuid) :
    UsageProjections → List InferenceUsageRecord → UsageProjections × Except String Unit
  | projections, [] => (projections, .ok ())
  | projections, record :: rest =>
    if record.eventId ∈ insertedEventIds then
      match projections.projectRecord codec gatewayId record with
      | .ok next => next.projectInsertedUsageRecords codec gatewayId insertedEventIds rest
      | .error message => (projections, .error message)
    else projections.projectInsertedUsageRecords codec gatewayId insertedEventIds rest

end UsageProjections

/-! ### What a request adds to a rollup -/

namespace InferenceUsageDailyRollup

variable (rollup : InferenceUsageDailyRollup) (counter : RollupCounter)

theorem counter_countOutcome (outcome : InferenceUsageTerminalOutcome) :
    (rollup.countOutcome outcome).counter counter =
      if counter = .outcome outcome then saturatingAdd (rollup.counter counter) 1
      else rollup.counter counter := by
  cases outcome <;> rcases counter with _ | o | _ | _ | _ <;> try cases o
  all_goals rfl

theorem counter_countMeasurement (measurement : Option InferenceUsageMeasurementCompleteness) :
    (rollup.countMeasurement measurement).counter counter =
      if counter = (if measurement = some .upstreamUsage then .upstreamUsage
        else .unknownMeasurement) then saturatingAdd (rollup.counter counter) 1
      else rollup.counter counter := by
  rcases measurement with _ | _ | _ <;> rcases counter with _ | o | _ | _ | _ <;> try cases o
  all_goals rfl

theorem counter_countTokens (tokens : Option ℕ) :
    (rollup.countTokens tokens).counter counter =
      if counter = .tokens ∧ tokens.isSome then saturatingAdd (rollup.counter counter)
        (tokens.getD 0)
      else rollup.counter counter := by
  cases tokens <;> rcases counter with _ | o | _ | _ | _ <;> try cases o
  all_goals rfl

variable {rollup counter}

theorem saturatingAdd_zero {n : ℕ} (h : n ≤ u64Max) : saturatingAdd n 0 = n := by
  rw [saturatingAdd, Nat.add_zero, Nat.min_eq_left h]

variable {rollup' : InferenceUsageDailyRollup} {fact : InferenceUsageRequestFact}

/-- A request adds its contribution to each counter, up to the largest number. -/
theorem counter_applyTerminalRequest (h : rollup.applyTerminalRequest fact = .ok rollup')
    (hle : rollup.counter counter ≤ u64Max) :
    rollup'.counter counter =
      saturatingAdd (rollup.counter counter) (fact.contribution counter) := by
  simp only [applyTerminalRequest, ok_rules] at h
  obtain ⟨outcome, houtcome, rfl⟩ := h
  have hrequests : ({ rollup with requestCount := saturatingAdd rollup.requestCount 1 } :
      InferenceUsageDailyRollup).counter counter =
        if counter = .requests then saturatingAdd (rollup.counter counter) 1
        else rollup.counter counter := by
    rcases counter with _ | o | _ | _ | _ <;> try cases o
    all_goals rfl
  rw [counter_countTokens, counter_countMeasurement, counter_countOutcome, hrequests]
  have hzero := saturatingAdd_zero hle
  by_cases hm : fact.measurementCompleteness = some .upstreamUsage
  all_goals
    cases counter with
    | requests => simp [contribution, hm]
    | outcome o =>
      by_cases ho : outcome = o
      · simp [contribution, houtcome, ho, hm]
      · simp [contribution, houtcome, ho, Ne.symm ho, hm, hzero]
    | unknownMeasurement => simp [contribution, hm, hzero]
    | upstreamUsage => simp [contribution, hm, hzero]
    | tokens =>
      cases ht : fact.totalTokens <;>
        simp [contribution, ht, hm, hzero]

theorem key_applyTerminalRequest (h : rollup.applyTerminalRequest fact = .ok rollup') :
    rollup'.key = rollup.key := by
  simp only [applyTerminalRequest, ok_rules] at h
  obtain ⟨outcome, -, rfl⟩ := h
  cases outcome <;> rcases fact.measurementCompleteness with _ | _ | _ <;>
    cases fact.totalTokens <;> rfl

end InferenceUsageDailyRollup

/-! ### What a projection does -/

/-- What an event makes of the fact of its request: nothing, a new fact, one attempt more, or the
end of the request. -/
inductive Projects (existing : Option InferenceUsageRequestFact) (gatewayId : Uuid)
    (event : InferenceUsageLifecycleEvent) : InferenceUsageRequestFact → Bool → Prop
  | seen (fact : InferenceUsageRequestFact) : existing = some fact →
      Projects existing gatewayId event fact false
  | started : existing = none → Projects existing gatewayId event (event.startedFact gatewayId) false
  | attempt (fact : InferenceUsageRequestFact) : existing = some fact → fact.isTerminal = false →
      Projects existing gatewayId event fact.countAttempt false
  | ended (fact : InferenceUsageRequestFact) : existing = some fact → fact.isTerminal = false →
      event.outcome.isSome → Projects existing gatewayId event (fact.terminate event) true

theorem projectLifecycleEvent_ok {existing : Option InferenceUsageRequestFact} {gatewayId : Uuid}
    {event : InferenceUsageLifecycleEvent} {next : InferenceUsageRequestFact} {newlyTerminal : Bool}
    (h : projectLifecycleEvent existing gatewayId event = .ok (next, newlyTerminal)) :
    Projects existing gatewayId event next newlyTerminal := by
  simp only [projectLifecycleEvent, ok_rules] at h
  obtain ⟨hvalid, -, h⟩ := h
  cases hkind : event.kind with
  | requestStarted =>
    simp only [hkind] at h
    cases existing with
    | none =>
      simp only [pure_ok_iff, Prod.mk.injEq] at h
      obtain ⟨rfl, rfl⟩ := h
      exact .started rfl
    | some fact =>
      simp only [ok_rules, Prod.mk.injEq] at h
      obtain ⟨-, rfl, rfl⟩ := h
      exact .seen fact rfl
  | attemptStarted =>
    simp only [hkind, ok_rules, Prod.mk.injEq] at h
    obtain ⟨fact, hexisting, -, hnext, rfl⟩ := h
    cases hterminal : fact.isTerminal with
    | true =>
      rw [hterminal, if_pos rfl] at hnext
      exact hnext ▸ .seen fact hexisting
    | false =>
      rw [hterminal, if_neg (by simp)] at hnext
      exact hnext ▸ .attempt fact hexisting hterminal
  | attemptTerminal =>
    simp only [hkind, ok_rules, Prod.mk.injEq] at h
    obtain ⟨fact, hexisting, -, rfl, rfl⟩ := h
    exact .seen fact hexisting
  | requestTerminal =>
    simp only [hkind, ok_rules] at h
    obtain ⟨fact, hexisting, -, hnext⟩ := h
    cases hterminal : fact.isTerminal with
    | true =>
      rw [hterminal, if_pos rfl, Prod.mk.injEq] at hnext
      obtain ⟨rfl, rfl⟩ := hnext
      exact .seen fact hexisting
    | false =>
      rw [hterminal, if_neg (by simp), Prod.mk.injEq] at hnext
      obtain ⟨rfl, rfl⟩ := hnext
      exact .ended fact hexisting hterminal
        (InferenceUsageLifecycleEvent.outcome_isSome_of_validate hvalid hkind)

namespace UsageProjections

variable {codec : UsageCodec} {gatewayId : Uuid} {projections next : UsageProjections}
  {record : InferenceUsageRecord}

/-- What the projection of a record does: it stores the next fact of its request, and a request that
has just ended is counted. -/
theorem projectRecord_ok (h : projections.projectRecord codec gatewayId record = .ok next) :
    ∃ event fact newlyTerminal, record.event codec = .ok event ∧
      Projects (projections.facts.get? event.request.requestId) gatewayId event fact newlyTerminal ∧
      next.facts = projections.facts.insert fact ∧
      (newlyTerminal = false ∧ next.rollups = projections.rollups ∨
        newlyTerminal = true ∧ ∃ rollup,
          (projections.rollup fact.rollupKey).applyTerminalRequest fact = .ok rollup ∧
            next.rollups = projections.rollups.insert rollup) := by
  simp only [projectRecord, bind_ok_iff] at h
  obtain ⟨event, hevent, ⟨fact, newlyTerminal⟩, hproject, rollups, hrollups, hnext⟩ := h
  simp only [pure_ok_iff] at hnext
  subst hnext
  rw [countTerminal] at hrollups
  refine ⟨event, fact, newlyTerminal, hevent, projectLifecycleEvent_ok hproject, rfl, ?_⟩
  cases newlyTerminal with
  | false =>
    cases hrollups
    exact .inl ⟨rfl, rfl⟩
  | true =>
    simp only [if_true, ok_rules] at hrollups
    obtain ⟨rollup, happly, rfl⟩ := hrollups
    exact .inr ⟨rfl, rollup, happly, rfl⟩

@[simp] theorem rollup_key (projections : UsageProjections) (key : InferenceUsageDailyRollupKey) :
    (projections.rollup key).key = key := by
  rw [rollup]
  cases hget : projections.rollups.get? key with
  | none => rfl
  | some => exact (Table.get?_eq_some_iff.1 hget).2

/-- What every projected record keeps, the loop keeps, whether it succeeds or not. -/
theorem projectInsertedUsageRecords_keeps {P : UsageProjections → Prop}
    (hstep : ∀ projections record next, P projections →
      projections.projectRecord codec gatewayId record = .ok next → P next)
    {insertedEventIds : List Uuid} {records : List InferenceUsageRecord} (h : P projections) :
    P (projections.projectInsertedUsageRecords codec gatewayId insertedEventIds records).1 := by
  induction records generalizing projections with
  | nil => exact h
  | cons record records ih =>
    rw [projectInsertedUsageRecords]
    by_cases hinserted : record.eventId ∈ insertedEventIds
    · rw [if_pos hinserted]
      cases hproject : projections.projectRecord codec gatewayId record with
      | error => exact h
      | ok next => exact ih (hstep projections record next h hproject)
    · rw [if_neg hinserted]
      exact ih h

end UsageProjections

end A3SCloud
