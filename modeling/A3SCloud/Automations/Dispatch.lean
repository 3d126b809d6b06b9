import A3SCloud.Automations.Deduplication
import A3SCloud.Automations.Schedule

/-!
# The dispatch of schedules

The model of `automations/application/schedule_dispatch.rs`, with the factory of the envelopes
(`domain/schedule_invocation.rs`) and the admission service (`application/invocation_admission.rs`).
A dispatch makes one repository call after the other. Between two calls other workers run, and a
worker that has died makes no further call.

* `DispatchPhase` is where a dispatch stands, with its local variables; `DispatchPhase.step` makes
  the next call and computes up to the one after it.
* `ScheduleSystem` holds both repositories, all workers that were ever started and the history of the
  committed cursor advances.
-/

namespace A3SCloud

open Checks

variable (codec : AutomationCodec) (calendar : Calendar)

/-! ### Requests and envelopes -/

structure AutomationScheduleDispatchRequest where
  key : AutomationScheduleStateKey
  revision : AutomationRevision
  ownerId : Uuid
  leaseId : Uuid
  reservedAt : ℤ
  leaseExpiresAt : ℤ
  observedAt : ℤ
  limit : ℕ
  input : AutomationInvocationInput
  authorization : AutomationInvocationAuthorization
  deriving DecidableEq

structure AutomationScheduleDispatchResult where
  admitted : ℕ
  alreadyAdmitted : ℕ
  skipped : ℕ
  evaluatedThrough : Option ℤ
  deriving DecidableEq

def scheduleInvocationId (revisionId : Uuid) (scheduledAt : ℤ) : Uuid :=
  codec.uuidV5 revisionId ("automation.schedule.invocation.v1/" ++ codec.nanosText scheduledAt)

/-- `AutomationScheduleInvocationFactory::build`, for the occurrence as the time of the request. -/
def buildScheduleInvocation (revision : AutomationRevision) (input : AutomationInvocationInput)
    (authorization : AutomationInvocationAuthorization) (scheduledAt : ℤ) :
    Except String AutomationInvocationEnvelope := do
  let invocationId := scheduleInvocationId codec revision.spec.revisionId scheduledAt
  revision.validate codec
  let definition := revision.spec.definition
  refuseIf (definition.trigger.isSchedule = false)
    "Automation due-time invocation requires a schedule revision"
  let deduplicationKey ← definition.policy.deduplication.renderKey codec definition.automationId
    revision.spec.revisionId (.dueTime scheduledAt) none
  let envelope : AutomationInvocationEnvelope :=
    { schema := .current, invocationId, automationId := definition.automationId,
      automationRevisionId := revision.spec.revisionId, automationRevisionDigest := revision.digest,
      organizationId := definition.organizationId, projectId := definition.projectId,
      environmentId := definition.environmentId, target := definition.target,
      origin := .dueTime scheduledAt, subscription := none, deduplicationKey, input, authorization,
      requestedAt := scheduledAt,
      correlationId := codec.uuidV5 invocationId "automation.schedule.correlation.v1",
      causationId := none }
  envelope.validateForRevision codec revision
  pure envelope

/-- The schedule that an envelope belongs to. -/
def AutomationInvocationEnvelope.scheduleKey (envelope : AutomationInvocationEnvelope) :
    AutomationScheduleStateKey :=
  ⟨envelope.organizationId, envelope.projectId, envelope.environmentId, envelope.automationId⟩

def AutomationDefinitionSpec.scheduleKey (spec : AutomationDefinitionSpec) :
    AutomationScheduleStateKey :=
  ⟨spec.organizationId, spec.projectId, spec.environmentId, spec.automationId⟩

/-- An envelope of a schedule names its revision and its occurrence. -/
theorem buildScheduleInvocation_ok {codec : AutomationCodec} {revision : AutomationRevision}
    {input : AutomationInvocationInput} {authorization : AutomationInvocationAuthorization} {t : ℤ}
    {envelope : AutomationInvocationEnvelope}
    (h : buildScheduleInvocation codec revision input authorization t = .ok envelope) :
    envelope.scheduleKey = revision.spec.definition.scheduleKey ∧ envelope.origin = .dueTime t ∧
      envelope.invocationId = scheduleInvocationId codec revision.spec.revisionId t ∧
      envelope.validateForRevision codec revision = .ok () := by
  simp only [buildScheduleInvocation, ok_rules] at h
  obtain ⟨-, -, key, -, hvalid, rfl⟩ := h
  exact ⟨rfl, rfl, rfl, hvalid⟩

/-- `AutomationInvocationAdmissionService::admit_invocation`: whether the envelope was there. -/
def admitInvocation (invocations : InvocationStore) (envelope : AutomationInvocationEnvelope) :
    Except ApplicationError (Bool × InvocationStore) := do
  (envelope.validate codec).mapError .invalid
  let admission ← (invocations.admitEnvelope codec envelope).mapError .ofRepository
  pure (admission.1.2, admission.2)

/-! ### One dispatch -/

/-- Where a dispatch stands: the call that it makes next, with what it has computed. -/
inductive DispatchPhase
  | find (calculator : AutomationScheduleCalculator)
  | reserve (calculator : AutomationScheduleCalculator)
  | admitNext (leaseGeneration : ℕ) (cursor : ℤ) (evaluation : AutomationScheduleDueEvaluation)
      (envelope : AutomationInvocationEnvelope) (rest : List AutomationInvocationEnvelope)
      (admitted alreadyAdmitted : ℕ)
  | commit (leaseGeneration : ℕ) (cursor : ℤ) (evaluation : AutomationScheduleDueEvaluation)
      (evaluatedThrough : ℤ) (admitted alreadyAdmitted : ℕ)
  /-- The lease is released; if this fails, the failure is answered or ignored. -/
  | release (leaseGeneration : ℕ) (mustSucceed : Bool)
      (answer : Except ApplicationError AutomationScheduleDispatchResult)
  | finished (answer : Except ApplicationError AutomationScheduleDispatchResult)

namespace AutomationScheduleDispatchRequest

variable (request : AutomationScheduleDispatchRequest)

/-- The checks before the first call. -/
def prepare : Except ApplicationError AutomationScheduleCalculator := do
  (request.revision.validate codec).mapError .invalid
  refuseIf (request.ownerId = 0 ∨ request.leaseId = 0)
    (.invalid "Automation schedule dispatch identity is invalid")
  refuseIf (request.observedAt < request.reservedAt)
    (.invalid "Automation schedule observation cannot precede lease reservation")
  let definition := request.revision.spec.definition
  let trigger ← orElse (.invalid "Automation schedule dispatch requires a schedule revision")
    (scheduleTrigger definition.trigger)
  (request.input.validate codec).mapError .invalid
  request.authorization.validate.mapError .invalid
  refuseIf (request.authorization.policyDigest ≠ definition.authorization.policyDigest)
    (.conflict "Automation schedule authorization policy drifted")
  refuseIf (request.limit = 0 ∨ automationScheduleMaxOccurrences < request.limit)
    (.invalid "Automation schedule occurrence limit is outside its bound")
  let calculator ← (AutomationScheduleCalculator.new calendar trigger).mapError .invalid
  refuseIf (request.key ≠ definition.scheduleKey)
    (.conflict "Automation schedule state scope does not match the exact revision")
  pure calculator
where
  scheduleTrigger : AutomationTrigger → Option AutomationScheduleTrigger
    | .schedule trigger => some trigger
    | _ => none

def start : DispatchPhase :=
  match request.prepare codec calendar with
  | .ok calculator => .find calculator
  | .error e => .finished (.error e)

def afterFind (calculator : AutomationScheduleCalculator) :
    Option AutomationScheduleState → DispatchPhase
  | none => .finished (.error (.notFound "automation schedule state not found"))
  | some state =>
    if state.revisionId ≠ request.revision.spec.revisionId ∨
        state.revisionDigest ≠ request.revision.digest then
      .finished (.error (.conflict "Automation schedule state is bound to a different revision"))
    else .reserve calculator

/-- The selected occurrences have all been admitted. -/
def afterAdmissions (leaseGeneration : ℕ) (cursor : ℤ)
    (evaluation : AutomationScheduleDueEvaluation) (admitted alreadyAdmitted : ℕ) : DispatchPhase :=
  match evaluation.evaluatedThrough with
  | none => .release leaseGeneration true
      (.ok ⟨admitted, alreadyAdmitted, evaluation.selection.skipped.length, none⟩)
  | some through => .commit leaseGeneration cursor evaluation through admitted alreadyAdmitted

/-- The envelopes that are left are admitted next. -/
def admitting (leaseGeneration : ℕ) (cursor : ℤ) (evaluation : AutomationScheduleDueEvaluation)
    (admitted alreadyAdmitted : ℕ) : List AutomationInvocationEnvelope → DispatchPhase
  | [] => afterAdmissions leaseGeneration cursor evaluation admitted alreadyAdmitted
  | envelope :: rest =>
    .admitNext leaseGeneration cursor evaluation envelope rest admitted alreadyAdmitted

/-- The due occurrences and their envelopes. -/
def evaluate (calculator : AutomationScheduleCalculator) (lease : AutomationScheduleLease)
    (cursor : ℤ) :
    Except String (AutomationScheduleDueEvaluation × List AutomationInvocationEnvelope) := do
  let evaluation ← lease.evaluate request.ownerId request.leaseId calculator
    request.revision.spec.definition.policy.misfire cursor request.observedAt request.limit
  let envelopes ← mapAll
    (buildScheduleInvocation codec request.revision request.input request.authorization)
    evaluation.selection.selected
  pure (evaluation, envelopes)

def afterReserve (calculator : AutomationScheduleCalculator) (reserved : AutomationScheduleState) :
    DispatchPhase :=
  match reserved.lease with
  | none => .finished (.error (.internal "reserved schedule state lost its lease"))
  | some lease =>
    if request.observedAt ≤ reserved.cursorAt then
      match lease.authorize request.ownerId request.leaseId request.observedAt with
      | .error e => .finished (.error (.conflict e))
      | .ok () => .release reserved.leaseGeneration true (.ok ⟨0, 0, 0, none⟩)
    else
      match request.evaluate codec calculator lease reserved.cursorAt with
      | .error e => .release reserved.leaseGeneration false (.error (.invalid e))
      | .ok (evaluation, envelopes) =>
        admitting reserved.leaseGeneration reserved.cursorAt evaluation 0 0 envelopes

end AutomationScheduleDispatchRequest

/-- One worker with the dispatch that it runs. -/
structure DispatchWorker where
  request : AutomationScheduleDispatchRequest
  phase : DispatchPhase

/-- A committed cursor advance with the selection that it was decided with. -/
structure CursorAdvance where
  key : AutomationScheduleStateKey
  mode : AutomationMisfireMode
  start : ℤ
  through : ℤ
  selection : AutomationScheduleDueSelection
  deriving DecidableEq

/-- The repositories, the workers and the history of the cursors. -/
structure ScheduleSystem where
  states : ScheduleStates
  invocations : InvocationStore
  workers : List DispatchWorker
  advances : List CursorAdvance

namespace ScheduleSystem

/-- The next call of a worker: where its dispatch stands then, and what has become of the
repositories and of the history. -/
def call (s : ScheduleSystem) (worker : DispatchWorker) : DispatchPhase × ScheduleSystem :=
  let request := worker.request
  match worker.phase with
  | .find calculator => (request.afterFind calculator (s.states.get? request.key), s)
  | .reserve calculator =>
    match s.states.reserve request.key request.ownerId request.leaseId request.reservedAt
      request.leaseExpiresAt with
    | .error e => (.finished (.error (.ofRepository e)), s)
    | .ok (reserved, states) => (request.afterReserve codec calculator reserved, { s with states })
  | .admitNext leaseGeneration cursor evaluation envelope rest admitted alreadyAdmitted =>
    match admitInvocation codec s.invocations envelope with
    | .error e => (.release leaseGeneration false (.error e), s)
    | .ok (replayed, invocations) =>
      (AutomationScheduleDispatchRequest.admitting leaseGeneration cursor evaluation
        (if replayed then admitted else admitted + 1)
        (if replayed then alreadyAdmitted + 1 else alreadyAdmitted) rest, { s with invocations })
  | .commit leaseGeneration cursor evaluation evaluatedThrough admitted alreadyAdmitted =>
    match s.states.commitCursor request.key request.ownerId request.leaseId leaseGeneration
      evaluatedThrough request.observedAt with
    | .error e => (.finished (.error (.ofRepository e)), s)
    | .ok (_, states) =>
      (.finished (.ok ⟨admitted, alreadyAdmitted, evaluation.selection.skipped.length,
          some evaluatedThrough⟩),
        { s with
          states
          advances := s.advances ++
            [⟨request.key, request.revision.spec.definition.policy.misfire.mode, cursor,
              evaluatedThrough, evaluation.selection⟩] })
  | .release leaseGeneration mustSucceed answer =>
    match s.states.releaseLease request.key request.ownerId request.leaseId leaseGeneration
      request.observedAt with
    | .error e =>
      (.finished (if mustSucceed then .error (.ofRepository e) else answer), s)
    | .ok (_, states) => (.finished answer, { s with states })
  | .finished answer => (.finished answer, s)

inductive Action
  /-- The state of a schedule is created. -/
  | create (state : AutomationScheduleState)
  /-- A worker begins a dispatch. -/
  | start (request : AutomationScheduleDispatchRequest)
  /-- The worker with this number makes its next repository call. -/
  | call (number : ℕ)
  /-- An invocation of another origin is admitted. -/
  | admitEvent (envelope : AutomationInvocationEnvelope)

def empty : ScheduleSystem := ⟨.empty, .empty, [], []⟩

def step (s : ScheduleSystem) : Action → ScheduleSystem
  | .create state => { s with states := Runs.afterResult s.states (s.states.create state) }
  | .start request =>
    { s with workers := s.workers ++ [⟨request, request.start codec calendar⟩] }
  | .call number =>
    match s.workers[number]? with
    | none => s
    | some worker =>
      let (phase, s') := s.call codec worker
      { s' with workers := s.workers.set number { worker with phase } }
  | .admitEvent envelope =>
    if envelope.origin.isDueTime then s
    else match admitInvocation codec s.invocations envelope with
    | .error _ => s
    | .ok (_, invocations) => { s with invocations }

/-- The observation times of the dispatches of a run. -/
def observations (actions : List Action) : List ℤ :=
  actions.filterMap fun
    | .start request => some request.observedAt
    | _ => none

/-- An occurrence of a schedule has been admitted. -/
def Admitted (s : ScheduleSystem) (key : AutomationScheduleStateKey) (t : ℤ) : Prop :=
  ∃ record ∈ s.invocations.byInvocation.rows,
    record.envelope.scheduleKey = key ∧ record.envelope.origin = .dueTime t

instance (s : ScheduleSystem) (key : AutomationScheduleStateKey) (t : ℤ) :
    Decidable (s.Admitted key t) :=
  inferInstanceAs (Decidable (∃ record ∈ s.invocations.byInvocation.rows,
    record.envelope.scheduleKey = key ∧ record.envelope.origin = .dueTime t))

end ScheduleSystem

end A3SCloud
