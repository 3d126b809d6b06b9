import Mathlib.Data.Prod.Lex
import A3SCloud.Automations.Sample

/-!
# The ticks of the schedule worker

The model of the definition repository (`automations/domain/automation.rs`,
`infrastructure/automation_in_memory.rs`), of the discovery of candidates
(`application/schedule_candidates.rs`) and of the worker (`application/schedule_worker.rs`). A tick
discovers the candidates among the heads of all organizations first, and one error there ends it.

* `AutomationCatalog` holds the heads and the schedule states; `AutomationCatalog.step` creates
  definitions, appends revisions and creates states.
* `AutomationCatalog.Harmless` says that a head does not end the discovery, and `candidateFor_ok_iff`
  that this is so for every head that can be reached.
-/

namespace A3SCloud

open Checks List AutomationRevision Runs

variable (codec : AutomationCodec)

/-! ### Definition heads -/

structure AutomationDefinitionRecord where
  definition : AutomationDefinition
  revision : AutomationRevision
  createdAt : ℤ
  updatedAt : ℤ
  deriving DecidableEq

open AutomationDefinitionRecord

def validateIdentityScope (revision : AutomationRevision) (automationId : Uuid) :
    Except String Unit :=
  let definition := revision.spec.definition
  refuseIf (definition.automationId ≠ automationId ∨ definition.automationId = 0 ∨
      definition.organizationId = 0 ∨ definition.projectId = 0 ∨ definition.environmentId = 0)
    "Automation definition identity or scope is invalid"

def validateTimestamps (createdAt updatedAt : ℤ) : Except String Unit := do
  refuseIf (createdAt % 1000000000 ≠ 0 ∨ updatedAt % 1000000000 ≠ 0)
    "Automation definition timestamps must use whole seconds"
  refuseIf (updatedAt < createdAt) "Automation definition update timestamp precedes creation"

namespace AutomationDefinitionRecord

variable (record : AutomationDefinitionRecord)

def key : Uuid × Uuid :=
  (record.definition.spec.organizationId, record.definition.spec.automationId)

def validateForCreation : Except String Unit := do
  record.definition.validate codec
  record.revision.validate codec
  refuseIf (record.revision.spec.revisionNumber ≠ 1 ∨ record.revision.spec.parentRevisionId.isSome ∨
      record.revision.spec.parentDigest.isSome)
    "initial Automation revision must not have a parent"
  refuseIf (record.revision.spec.definition ≠ record.definition.spec)
    "Automation revision definition does not match its head"
  validateIdentityScope record.revision record.definition.spec.automationId
  validateTimestamps record.createdAt record.updatedAt

def new (definition : AutomationDefinition) (revision : AutomationRevision) (createdAt : ℤ) :
    Except String AutomationDefinitionRecord := do
  let record : AutomationDefinitionRecord := ⟨definition, revision, createdAt, createdAt⟩
  record.validateForCreation codec
  pure record

def validate (record : AutomationDefinitionRecord) : Except String Unit := do
  record.revision.validate codec
  refuseIf (record.revision.spec.definition ≠ record.definition.spec)
    "Automation revision definition drifted from its head"
  validateIdentityScope record.revision record.definition.spec.automationId
  validateTimestamps record.createdAt record.updatedAt

def append (revision : AutomationRevision) (expectedRevisionDigest : DigestText) (updatedAt : ℤ) :
    Except String AutomationDefinitionRecord := do
  record.validate codec
  refuseIf (record.revision.digest ≠ expectedRevisionDigest) "Automation definition head is stale"
  revision.validateSuccessorOf codec record.revision
  refuseIf (revision.spec.definition.scheduleKey ≠ record.definition.spec.scheduleKey)
    "Automation successor changed its immutable scope"
  refuseIf (updatedAt < record.updatedAt)
    "Automation definition update timestamp precedes its head"
  let definition ← AutomationDefinition.fromSpec codec revision.spec.definition
  pure ⟨definition, revision, record.createdAt, updatedAt⟩

end AutomationDefinitionRecord

/-- The heads and the revisions of all definitions, and the states of the schedules. -/
structure AutomationCatalog where
  heads : Table AutomationDefinitionRecord.key
  revisions : Table (fun revision : AutomationRevision => revision.spec.revisionId)
  states : ScheduleStates

open AutomationCatalog

namespace AutomationCatalog

def empty : AutomationCatalog := ⟨.empty, .empty, .empty⟩

variable (catalog : AutomationCatalog)

def create (definition : AutomationDefinition) (revision : AutomationRevision) (createdAt : ℤ) :
    Except RepositoryError (AutomationDefinitionRecord × AutomationCatalog) := do
  let record ← (new codec definition revision createdAt).mapError
    .conflict
  refuseIf (catalog.heads.get? record.key).isSome
    (.conflict "Automation definition already exists")
  refuseIf (catalog.revisions.get? record.revision.spec.revisionId).isSome
    (.conflict "Automation revision already exists")
  pure (record, { catalog with
    heads := catalog.heads.insert record, revisions := catalog.revisions.insert record.revision })

/-- The order of the keys in the map of the heads. -/
def headLe (a b : AutomationDefinitionRecord) : Prop :=
  a.key.1 < b.key.1 ∨ (a.key.1 = b.key.1 ∧ a.key.2 ≤ b.key.2)

instance : DecidableRel headLe := fun a b =>
  inferInstanceAs (Decidable (a.key.1 < b.key.1 ∨ (a.key.1 = b.key.1 ∧ a.key.2 ≤ b.key.2)))

def list (limit : ℕ) : List AutomationDefinitionRecord :=
  (catalog.heads.rows.insertionSort headLe).take limit

def appendRevision (organizationId automationId : Uuid)
    (expectedRevisionDigest : DigestText) (revision : AutomationRevision) (updatedAt : ℤ) :
    Except RepositoryError (AutomationDefinitionRecord × AutomationCatalog) := do
  let current ← orElse .notFound (catalog.heads.get? (organizationId, automationId))
  let updated ← (current.append codec revision expectedRevisionDigest updatedAt).mapError .conflict
  refuseIf (catalog.revisions.get? updated.revision.spec.revisionId).isSome
    (.conflict "Automation revision already exists")
  pure (updated, { catalog with
    heads := catalog.heads.insert updated, revisions := catalog.revisions.insert updated.revision })

inductive Action
  | create (definition : AutomationDefinition) (revision : AutomationRevision) (createdAt : ℤ)
  | appendRevision (organizationId automationId : Uuid) (expectedRevisionDigest : DigestText)
      (revision : AutomationRevision) (updatedAt : ℤ)
  | createState (state : AutomationScheduleState)

/-- The catalog after an operation; one that fails leaves it as it is. -/
def step : Action → AutomationCatalog
  | .create definition revision createdAt =>
    afterResult catalog (catalog.create codec definition revision createdAt)
  | .appendRevision organizationId automationId expectedRevisionDigest revision updatedAt =>
    afterResult catalog (catalog.appendRevision codec organizationId automationId
      expectedRevisionDigest revision updatedAt)
  | .createState state =>
    { catalog with states := afterResult catalog.states (catalog.states.create state) }

/-! ### Candidates -/

end AutomationCatalog

structure AutomationScheduleCandidate where
  key : AutomationScheduleStateKey
  revision : AutomationRevision
  input : AutomationInvocationInput
  authorization : AutomationInvocationAuthorization
  limit : ℕ
  deriving DecidableEq

/-- `RepositoryAutomationScheduleCandidateProvider`: the owners of inputs and authorizations, and the
bounds that its constructor has checked. -/
structure CandidateProvider where
  inputs : AutomationRevision → Except String (Option AutomationInvocationInput)
  authorizations : AutomationRevision → Except String (Option AutomationInvocationAuthorization)
  maxCandidates : ℕ
  occurrenceLimit : ℕ
  maxCandidates_bound : 0 < maxCandidates ∧ maxCandidates ≤ 10000
  occurrenceLimit_bound : 0 < occurrenceLimit ∧ occurrenceLimit ≤ automationScheduleMaxOccurrences

namespace CandidateProvider

/-- What the owners resolve for a head, the authorization first. -/
def resolve (provider : CandidateProvider) (key : AutomationScheduleStateKey)
    (revision : AutomationRevision) :
    Except ApplicationError (Option AutomationScheduleCandidate) :=
  match provider.authorizations revision with
  | .error e =>
    .error (.unavailable ("Automation schedule authorization resolution failed: " ++ e))
  | .ok none => .ok none
  | .ok (some authorization) =>
    match provider.inputs revision with
    | .error e => .error (.unavailable ("Automation schedule input resolution failed: " ++ e))
    | .ok none => .ok none
    | .ok (some input) =>
      .ok (some ⟨key, revision, input, authorization, provider.occurrenceLimit⟩)

end CandidateProvider

namespace AutomationCatalog

def candidateFor (catalog : AutomationCatalog) (provider : CandidateProvider)
    (record : AutomationDefinitionRecord) :
    Except ApplicationError (Option AutomationScheduleCandidate) := do
  (record.validate codec).mapError fun e => .internal ("invalid Automation record: " ++ e)
  let definition := record.definition.spec
  if definition.trigger.isSchedule then
    match catalog.states.get? definition.scheduleKey with
    | none => pure none
    | some state =>
      if state.revisionId ≠ record.revision.spec.revisionId ∨
          state.revisionDigest ≠ record.revision.digest then
        .error (.conflict "Automation schedule state is bound to a different definition head")
      else provider.resolve definition.scheduleKey record.revision
  else pure none

/-- The key of a candidate in the order of its fields. -/
def candidateOrder (candidate : AutomationScheduleCandidate) : ℕ ×ₗ ℕ ×ₗ ℕ ×ₗ ℕ :=
  toLex (candidate.key.organizationId, toLex (candidate.key.projectId,
    toLex (candidate.key.environmentId, candidate.key.automationId)))

/-- The order of the candidates; no two of them have one key. -/
def candidateLe (a b : AutomationScheduleCandidate) : Prop := candidateOrder a ≤ candidateOrder b

instance : DecidableRel candidateLe := fun a b =>
  inferInstanceAs (Decidable (candidateOrder a ≤ candidateOrder b))

def candidates (catalog : AutomationCatalog) (provider : CandidateProvider) :
    Except ApplicationError (List AutomationScheduleCandidate) := do
  let found ← mapAll (catalog.candidateFor codec provider) (catalog.list provider.maxCandidates)
  pure ((found.filterMap id).insertionSort candidateLe)

end AutomationCatalog

/-! ### The worker -/

structure AutomationScheduleWorkerReport where
  candidates : ℕ
  dispatched : ℕ
  alreadyAdmitted : ℕ
  failed : List String
  deriving DecidableEq

/-- The worker with its owner, its bounds, and what it calls: the dispatch service, which acts on
the world, and the identities of the leases. -/
structure AutomationScheduleWorker (World : Type) where
  ownerId : Uuid
  leaseDuration : ℤ
  maxCandidates : ℕ
  leaseId : ℕ → Uuid
  dispatch : AutomationScheduleDispatchRequest → World →
    Except ApplicationError AutomationScheduleDispatchResult × World

open AutomationScheduleWorker

namespace AutomationScheduleWorker

variable {World : Type}

def request (worker : AutomationScheduleWorker World) (observedAt : ℤ) (number : ℕ)
    (candidate : AutomationScheduleCandidate) : AutomationScheduleDispatchRequest where
  key := candidate.key
  revision := candidate.revision
  ownerId := worker.ownerId
  leaseId := worker.leaseId number
  reservedAt := observedAt
  leaseExpiresAt := observedAt + worker.leaseDuration
  observedAt := observedAt
  limit := candidate.limit
  input := candidate.input
  authorization := candidate.authorization

def fail (report : AutomationScheduleWorkerReport) (message : String) :
    AutomationScheduleWorkerReport :=
  { report with failed := report.failed ++ [message] }

/-- Adds the answer of a dispatch to the report. -/
def record (report : AutomationScheduleWorkerReport) :
    Except ApplicationError AutomationScheduleDispatchResult → AutomationScheduleWorkerReport
  | .ok result =>
    { report with
      dispatched := report.dispatched + result.admitted
      alreadyAdmitted := report.alreadyAdmitted + result.alreadyAdmitted }
  | .error e => fail report e.message

/-- What a tick has done so far: the report, the requests it has dispatched and the world. -/
structure Progress (World : Type) where
  report : AutomationScheduleWorkerReport
  requests : List AutomationScheduleDispatchRequest
  world : World

/-- Dispatches the candidates one after the other; `seen` are those before. -/
def dispatchAll (worker : AutomationScheduleWorker World) (observedAt : ℤ) :
    List (AutomationScheduleStateKey × DigestText) → Progress World →
    List AutomationScheduleCandidate → Progress World
  | _, progress, [] => progress
  | seen, progress, candidate :: rest =>
    let identity := (candidate.key, candidate.revision.digest)
    if identity ∈ seen then
      worker.dispatchAll observedAt seen { progress with
        report := fail progress.report "duplicate Automation schedule candidate" } rest
    else if candidate.limit = 0 ∨ automationScheduleMaxOccurrences < candidate.limit then
      worker.dispatchAll observedAt (identity :: seen) { progress with
        report := fail progress.report
          "Automation schedule candidate occurrence limit is outside its bound" } rest
    else
      let request := worker.request observedAt progress.requests.length candidate
      let (answer, world) := worker.dispatch request progress.world
      worker.dispatchAll observedAt (identity :: seen)
        ⟨record progress.report answer, progress.requests ++ [request], world⟩ rest

/-- `tick_at`: the answer, with what was dispatched. -/
def tickAt (worker : AutomationScheduleWorker World) (catalog : AutomationCatalog)
    (provider : CandidateProvider) (observedAt : ℤ) (world : World) :
    Except ApplicationError (Progress World) := do
  let candidates ← catalog.candidates codec provider
  refuseIf (worker.maxCandidates < candidates.length)
    (.invalid "Automation schedule candidate result exceeds its bound")
  pure (worker.dispatchAll observedAt [] ⟨⟨candidates.length, 0, 0, []⟩, [], world⟩
    (candidates.insertionSort candidateLe))

variable {codec} {worker : AutomationScheduleWorker World} {observedAt : ℤ}

variable {seen : List (AutomationScheduleStateKey × DigestText)} {progress : Progress World}

theorem mem_dispatchAll_of_mem {candidates : List AutomationScheduleCandidate}
    {request : AutomationScheduleDispatchRequest} (h : request ∈ progress.requests) :
    request ∈ (worker.dispatchAll observedAt seen progress candidates).requests := by
  induction candidates generalizing seen progress with
  | nil => exact h
  | cons candidate rest ih =>
    rw [dispatchAll]
    split_ifs
    · exact ih h
    · exact ih h
    · exact ih (mem_append_left _ h)

/-- Every candidate is dispatched if no two have one key and their limits are within the bound. -/
theorem exists_mem_dispatchAll {candidates : List AutomationScheduleCandidate}
    (hnodup : (candidates.map (·.key)).Nodup)
    (hseen : ∀ candidate ∈ candidates, (candidate.key, candidate.revision.digest) ∉ seen)
    (hlimit : ∀ candidate ∈ candidates, 0 < candidate.limit ∧
      candidate.limit ≤ automationScheduleMaxOccurrences) {candidate : AutomationScheduleCandidate}
    (h : candidate ∈ candidates) :
    ∃ number, worker.request observedAt number candidate ∈
      (worker.dispatchAll observedAt seen progress candidates).requests := by
  induction candidates generalizing seen progress with
  | nil => cases h
  | cons first rest ih =>
    obtain ⟨hfirst, hrest⟩ := forall_mem_cons.1 hseen
    obtain ⟨hpositive, hbound⟩ := hlimit first mem_cons_self
    rw [map_cons, nodup_cons] at hnodup
    have hinside : ¬ (first.limit = 0 ∨ automationScheduleMaxOccurrences < first.limit) := by omega
    rw [dispatchAll, if_neg hfirst, if_neg hinside]
    rcases mem_cons.1 h with rfl | hlater
    · exact ⟨progress.requests.length,
        mem_dispatchAll_of_mem (mem_append_right _ (mem_singleton_self _))⟩
    · refine ih hnodup.2 (fun other hother hmem => ?_)
        (fun other hother => hlimit other (mem_cons_of_mem _ hother)) hlater
      rcases mem_cons.1 hmem with hsame | hmem
      · have hkey : other.key = first.key := congrArg Prod.fst hsame
        exact hnodup.1 (hkey ▸ mem_map_of_mem hother)
      · exact hrest other hother hmem

end AutomationScheduleWorker

namespace AutomationCatalog

variable {codec}

/-! ### Heads that can be reached -/

/-- What creation and appending leave of a head; the time of an append is not checked. -/
structure HeadOk (codec : AutomationCodec) (head : AutomationDefinitionRecord) : Prop where
  revision : head.revision.validate codec = .ok ()
  definition : head.revision.spec.definition = head.definition.spec
  created : head.createdAt % 1000000000 = 0
  order : head.createdAt ≤ head.updatedAt

variable {revision : AutomationRevision}

theorem identityScope_of_validate (h : revision.validate codec = .ok ()) :
    validateIdentityScope revision revision.spec.definition.automationId = .ok () := by
  have hdefinition := definition_of_validate h
  simp only [AutomationDefinitionSpec.validate, validateUuid, ok_rules] at hdefinition
  obtain ⟨-, hautomation, horganization, hproject, henvironment, -⟩ := hdefinition
  simp only [validateIdentityScope, refuseIf_ok_iff, not_or, ne_eq, not_true_eq_false, not_false_eq_true,
    true_and]
  exact ⟨hautomation, horganization, hproject, henvironment⟩

variable {head : AutomationDefinitionRecord} {catalog' : AutomationCatalog}

theorem HeadOk.validate_iff (h : HeadOk codec head) :
    head.validate codec = .ok () ↔ head.updatedAt % 1000000000 = 0 := by
  have hscope := identityScope_of_validate h.revision
  rw [h.definition] at hscope
  simp only [AutomationDefinitionRecord.validate, validateTimestamps, ok_rules, not_or, ne_eq,
    not_not, not_lt]
  exact ⟨fun hall => hall.2.2.2.1.2,
    fun hupdated => ⟨h.revision, h.definition, hscope, ⟨h.created, hupdated⟩, h.order⟩⟩

theorem normalize_of_validate (h : revision.validate codec = .ok ()) :
    revision.spec.definition.normalize = revision.spec.definition := by
  simp only [AutomationRevision.validate, fromSpec, ok_rules, ne_eq, not_not] at h
  obtain ⟨restored, ⟨-, -, digest, -, rfl⟩, -, heq⟩ := h
  exact congrArg (·.spec.definition) heq

variable {catalog : AutomationCatalog} {provider : CandidateProvider}

theorem headOk_create {definition : AutomationDefinition} {createdAt : ℤ}
    (h : catalog.create codec definition revision createdAt = .ok (head, catalog')) :
    HeadOk codec head ∧ catalog'.heads = catalog.heads.insert head := by
  simp only [create, new, validateForCreation, validateTimestamps, ok_rules, Prod.mk.injEq, ne_eq,
    not_not, not_or, not_lt] at h
  obtain ⟨made, ⟨⟨-, hrevision, -, hdefinition, -, ⟨hcreated, -⟩, horder⟩, rfl⟩, -, -, rfl, rfl⟩ := h
  exact ⟨⟨hrevision, hdefinition, hcreated, horder⟩, rfl⟩

theorem headOk_append {organizationId automationId : Uuid} {expectedRevisionDigest : DigestText}
    {updatedAt : ℤ} (hheads : ∀ old ∈ catalog.heads.rows, HeadOk codec old)
    (h : catalog.appendRevision codec organizationId automationId expectedRevisionDigest revision
      updatedAt = .ok (head, catalog')) :
    HeadOk codec head ∧ catalog'.heads = catalog.heads.insert head := by
  simp only [appendRevision, append, AutomationDefinition.fromSpec, validateSuccessorOf, ok_rules,
    Prod.mk.injEq, ne_eq, not_not, not_lt] at h
  obtain ⟨current, hcurrent, updated, ⟨-, -, ⟨hrevision, -⟩, -, horder, definition,
    ⟨-, -, digest, -, rfl⟩, rfl⟩, -, rfl, rfl⟩ := h
  have hold := hheads current (Table.get?_eq_some_iff.1 hcurrent).1
  have hnormal := normalize_of_validate hrevision
  exact ⟨⟨hrevision, hnormal.symm, hold.created, hold.order.trans horder⟩, rfl⟩

theorem headOk_step (catalog : AutomationCatalog) (action : Action)
    (h : ∀ head ∈ catalog.heads.rows, HeadOk codec head) :
    ∀ head ∈ (catalog.step codec action).heads.rows, HeadOk codec head := by
  have hinsert : ∀ new : AutomationDefinitionRecord, HeadOk codec new →
      ∀ head ∈ (catalog.heads.insert new).rows, HeadOk codec head := by
    intro new hnew head hhead
    rcases Table.mem_insert.1 hhead with rfl | ⟨hhead, -⟩
    · exact hnew
    · exact h head hhead
  cases action with
  | create =>
    refine afterResult_of (P := fun catalog : AutomationCatalog =>
      ∀ head ∈ catalog.heads.rows, HeadOk codec head) h fun made catalog' hcreate => ?_
    obtain ⟨hmade, hheads⟩ := headOk_create hcreate
    rw [hheads]
    exact hinsert made hmade
  | appendRevision =>
    refine afterResult_of (P := fun catalog : AutomationCatalog =>
      ∀ head ∈ catalog.heads.rows, HeadOk codec head) h fun made catalog' happend => ?_
    obtain ⟨hmade, hheads⟩ := headOk_append h happend
    rw [hheads]
    exact hinsert made hmade
  | createState => exact h

/-! ### What ends a tick -/

/-- The head does not end the discovery: its time of update is on a full second, and if it is a
schedule with a state, the state is bound to its revision and its owners answer. -/
def Harmless (catalog : AutomationCatalog) (provider : CandidateProvider)
    (head : AutomationDefinitionRecord) : Prop :=
  head.updatedAt % 1000000000 = 0 ∧
    (head.definition.spec.trigger.isSchedule = true → ∀ state,
      catalog.states.get? head.definition.spec.scheduleKey = some state →
      state.revisionId = head.revision.spec.revisionId ∧
        state.revisionDigest = head.revision.digest ∧
        ∃ answer, provider.resolve head.definition.spec.scheduleKey head.revision = .ok answer)

/-- A schedule whose state is bound to its revision and whose input and authorization resolve. -/
def Eligible (catalog : AutomationCatalog) (provider : CandidateProvider)
    (head : AutomationDefinitionRecord) : Prop :=
  head.definition.spec.trigger.isSchedule = true ∧
    (∃ state, catalog.states.get? head.definition.spec.scheduleKey = some state ∧
      state.revisionId = head.revision.spec.revisionId ∧
      state.revisionDigest = head.revision.digest) ∧
    (∃ authorization, provider.authorizations head.revision = .ok (some authorization)) ∧
    ∃ input, provider.inputs head.revision = .ok (some input)

theorem candidateFor_ok_iff (h : HeadOk codec head) :
    (∃ candidate, catalog.candidateFor codec provider head = .ok candidate) ↔
      catalog.Harmless provider head := by
  rw [Harmless, ← h.validate_iff]
  simp only [candidateFor, ok_rules, exists_and_left]
  refine and_congr_right fun _ => ?_
  by_cases hschedule : head.definition.spec.trigger.isSchedule = true
  · rw [if_pos hschedule]
    cases hstate : catalog.states.get? head.definition.spec.scheduleKey with
    | none => simp
    | some state =>
      simp only [hschedule, Option.some.injEq, forall_const, forall_eq']
      by_cases hbound : state.revisionId = head.revision.spec.revisionId ∧
          state.revisionDigest = head.revision.digest
      · simp [hbound.1, hbound.2]
      · have hother : state.revisionId ≠ head.revision.spec.revisionId ∨
            state.revisionDigest ≠ head.revision.digest := by
          rw [not_and_or] at hbound
          exact hbound
        rw [if_pos hother]
        simp only [reduceCtorEq, exists_false, false_iff, not_and]
        exact fun hid hdigest => absurd ⟨hid, hdigest⟩ hbound
  · rw [if_neg hschedule]
    simp [hschedule]

theorem candidateFor_some {candidate : AutomationScheduleCandidate}
    (h : catalog.candidateFor codec provider head = .ok (some candidate)) :
    candidate.key = head.definition.spec.scheduleKey ∧
      candidate.limit = provider.occurrenceLimit := by
  simp only [candidateFor, ok_rules] at h
  obtain ⟨-, h⟩ := h
  split_ifs at h
  · split at h
    · cases h
    · split_ifs at h
      rw [CandidateProvider.resolve] at h
      split at h
      · cases h
      · cases h
      · split at h
        · cases h
        · cases h
        · cases h
          exact ⟨rfl, rfl⟩
  · cases h

theorem candidateFor_eligible (hvalid : head.validate codec = .ok ())
    (h : catalog.Eligible provider head) :
    ∃ candidate, catalog.candidateFor codec provider head = .ok (some candidate) ∧
      candidate.key = head.definition.spec.scheduleKey ∧ candidate.revision = head.revision ∧
      provider.inputs head.revision = .ok (some candidate.input) ∧
      provider.authorizations head.revision = .ok (some candidate.authorization) := by
  obtain ⟨hschedule, ⟨state, hstate, hid, hdigest⟩, ⟨authorization, hauthorization⟩, input, hinput⟩ :=
    h
  refine ⟨⟨head.definition.spec.scheduleKey, head.revision, input, authorization,
    provider.occurrenceLimit⟩, ?_, rfl, rfl, hinput, hauthorization⟩
  have hbound : ¬ (state.revisionId ≠ head.revision.spec.revisionId ∨
      state.revisionDigest ≠ head.revision.digest) := by
    rw [not_or, not_not, not_not]
    exact ⟨hid, hdigest⟩
  simp only [candidateFor, ok_rules]
  refine ⟨hvalid, ?_⟩
  rw [if_pos hschedule, hstate]
  simp only
  rw [if_neg hbound, CandidateProvider.resolve, hauthorization]
  simp only
  rw [hinput]

section Tick

variable {World : Type} {worker : AutomationScheduleWorker World} {catalog : AutomationCatalog}
  {provider : CandidateProvider}

theorem mem_list (h : catalog.heads.rows.length ≤ provider.maxCandidates) :
    head ∈ catalog.list provider.maxCandidates ↔ head ∈ catalog.heads.rows := by
  have hall : (catalog.heads.rows.insertionSort headLe).length ≤ provider.maxCandidates := by
    rwa [length_insertionSort]
  rw [list, take_of_length_le hall, mem_insertionSort]

/-- The discovery returns if and only if every head is harmless. -/
theorem exists_candidates_iff (hheads : ∀ head ∈ catalog.heads.rows, HeadOk codec head)
    (h : catalog.heads.rows.length ≤ provider.maxCandidates) :
    (∃ candidates, catalog.candidates codec provider = .ok candidates) ↔
      ∀ head ∈ catalog.heads.rows, catalog.Harmless provider head := by
  have hfound : (∃ candidates, catalog.candidates codec provider = .ok candidates) ↔
      ∃ found, mapAll (catalog.candidateFor codec provider) (catalog.list provider.maxCandidates) =
        .ok found := by
    simp only [candidates, ok_rules]
    constructor
    · rintro ⟨_, found, hfound, -⟩
      exact ⟨found, hfound⟩
    · rintro ⟨found, hfound⟩
      exact ⟨_, found, hfound, rfl⟩
  rw [hfound, exists_mapAll_ok_iff]
  constructor
  · intro hall head hhead
    exact (candidateFor_ok_iff (hheads head hhead)).1 (hall head ((mem_list h).2 hhead))
  · intro hall head hhead
    have hmem := (mem_list h).1 hhead
    exact (candidateFor_ok_iff (hheads head hmem)).2 (hall head hmem)

/-- The candidates have distinct keys and the limit of the provider, and there are not more of them
than heads. -/
theorem candidates_ok {candidates : List AutomationScheduleCandidate}
    (h : catalog.candidates codec provider = .ok candidates) :
    (candidates.map (·.key)).Nodup ∧
      (∀ candidate ∈ candidates, candidate.limit = provider.occurrenceLimit) ∧
      candidates.length ≤ catalog.heads.rows.length ∧
      ∀ head ∈ catalog.list provider.maxCandidates, ∀ candidate,
        catalog.candidateFor codec provider head = .ok (some candidate) →
        candidate ∈ candidates := by
  simp only [AutomationCatalog.candidates, ok_rules, mapAll_ok_iff] at h
  obtain ⟨found, hfound, rfl⟩ := h
  have hperm := perm_insertionSort candidateLe (found.filterMap id)
  have hlist : (catalog.list provider.maxCandidates).Sublist
      (catalog.heads.rows.insertionSort headLe) := take_sublist _ _
  -- A candidate has the organization and the automation of its head, and these are its key.
  have hkeys : ((found.filterMap id).map fun candidate =>
      (candidate.key.organizationId, candidate.key.automationId)).Sublist
      ((catalog.list provider.maxCandidates).map AutomationDefinitionRecord.key) := by
    refine map_filterMap_sublist (hfound.imp fun head result hresult candidate hsome => ?_)
    rw [hsome] at hresult
    rw [(candidateFor_some hresult).1]
    rfl
  have hnodup : ((catalog.list provider.maxCandidates).map AutomationDefinitionRecord.key).Nodup := by
    have hsorted := (perm_insertionSort headLe catalog.heads.rows).map
      AutomationDefinitionRecord.key
    exact (hsorted.nodup_iff.2 catalog.heads.nodup).sublist (hlist.map _)
  refine ⟨?_, fun candidate hcandidate => ?_, ?_, fun head hhead candidate hcandidate => ?_⟩
  · have hfoundNodup := hnodup.sublist hkeys
    rw [(hperm.map _).nodup_iff]
    refine Nodup.of_map (fun key : AutomationScheduleStateKey =>
      (key.organizationId, key.automationId)) ?_
    rw [map_map]
    exact hfoundNodup
  · have hmem := hperm.mem_iff.1 hcandidate
    obtain ⟨result, hresult, rfl⟩ := mem_filterMap.1 hmem
    obtain ⟨head, -, hmade⟩ := exists_left_of_mem hfound hresult
    exact (candidateFor_some hmade).2
  · have hlength := hkeys.length_le
    rw [length_map, length_map] at hlength
    have hle := hlength.trans hlist.length_le
    rwa [length_insertionSort] at hle ⊢
  · obtain ⟨result, hresult, hmade⟩ := exists_right_of_mem hfound hhead
    rw [hcandidate] at hmade
    cases hmade
    exact hperm.mem_iff.2 (mem_filterMap.2 ⟨_, hresult, rfl⟩)

/-- A tick dispatches the schedule of a head with what its owners resolve. -/
def Dispatches (codec : AutomationCodec) (worker : AutomationScheduleWorker World)
    (catalog : AutomationCatalog) (provider : CandidateProvider) (observedAt : ℤ) (world : World)
    (head : AutomationDefinitionRecord) : Prop :=
  ∃ progress, worker.tickAt codec catalog provider observedAt world = .ok progress ∧
    ∃ request ∈ progress.requests, request.key = head.definition.spec.scheduleKey ∧
      request.revision = head.revision ∧
      provider.inputs head.revision = .ok (some request.input) ∧
      provider.authorizations head.revision = .ok (some request.authorization)

/-- A tick dispatches an eligible schedule if and only if no head ends the discovery. -/
theorem dispatches_iff {actions : List Action} (hcatalog : catalog = run (step codec) empty actions)
    (hprovider : catalog.heads.rows.length ≤ provider.maxCandidates)
    (hworker : catalog.heads.rows.length ≤ worker.maxCandidates)
    {head : AutomationDefinitionRecord} (hhead : head ∈ catalog.heads.rows)
    (heligible : catalog.Eligible provider head) (observedAt : ℤ) (world : World) :
    Dispatches codec worker catalog provider observedAt world head ↔
      ∀ other ∈ catalog.heads.rows, catalog.Harmless provider other := by
  have hheads : ∀ head ∈ catalog.heads.rows, HeadOk codec head := by
    rw [hcatalog]
    exact invariant_all (I := fun catalog : AutomationCatalog =>
      ∀ head ∈ catalog.heads.rows, HeadOk codec head) headOk_step (fun _ h => by cases h) actions
  rw [← exists_candidates_iff hheads hprovider]
  constructor
  · rintro ⟨progress, htick, -⟩
    simp only [tickAt, bind_ok_iff] at htick
    exact ⟨_, htick.choose_spec.1⟩
  · rintro ⟨candidates, hcandidates⟩
    obtain ⟨hnodup, hlimit, hlength, hall⟩ := candidates_ok hcandidates
    have hmem := (mem_list hprovider).2 hhead
    have hharmless := (exists_candidates_iff hheads hprovider).1 ⟨candidates, hcandidates⟩ head hhead
    obtain ⟨candidate, hcandidate, hkey, hrevision, hinput, hauthorization⟩ :=
      candidateFor_eligible ((hheads head hhead).validate_iff.2 hharmless.1) heligible
    have hperm := perm_insertionSort candidateLe candidates
    have hbound : ¬ worker.maxCandidates < candidates.length := by omega
    obtain ⟨number, hrequest⟩ : ∃ number, worker.request observedAt number candidate ∈
        (worker.dispatchAll observedAt [] ⟨⟨candidates.length, 0, 0, []⟩, [], world⟩
          (candidates.insertionSort candidateLe)).requests :=
      exists_mem_dispatchAll ((hperm.map _).nodup_iff.2 hnodup)
        (fun _ _ h => by cases h)
        (fun other hother => (hlimit other (hperm.mem_iff.1 hother)) ▸
          provider.occurrenceLimit_bound)
        (hperm.mem_iff.2 (hall head hmem candidate hcandidate))
    refine ⟨_, ?_, _, hrequest, hkey, hrevision, hinput, hauthorization⟩
    simp only [tickAt, ok_rules]
    exact ⟨candidates, hcandidates, hbound, rfl⟩

end Tick

end AutomationCatalog

/-! ### Samples -/

namespace Sample

def otherDefinition : AutomationDefinitionSpec :=
  { scheduleDefinition scheduledTemplate with automationId := 40, organizationId := 10 }

def otherRevision : AutomationRevision where
  spec :=
    { schema := .current, revisionId := 50, revisionNumber := 1, parentRevisionId := none,
      parentDigest := none, definition := otherDefinition }
  digest := .sha256 50

/-- The second revision of the first schedule, under a new name. -/
def renamedRevision : AutomationRevision where
  spec :=
    { schema := .current, revisionId := 6, revisionNumber := 2, parentRevisionId := some 5,
      parentDigest := some (.sha256 5),
      definition := { scheduleDefinition scheduledTemplate with name := "Hourly export" } }
  digest := .sha256 6

def candidateProvider : CandidateProvider where
  inputs _ := .ok (some (.inlineJson "\x7b\x7d" (.sha256 5) 2))
  authorizations _ := .ok (some ⟨.sha256 7, .sha256 8, none⟩)
  maxCandidates := 10
  occurrenceLimit := 16
  maxCandidates_bound := by decide
  occurrenceLimit_bound := by decide

/-- A worker whose dispatches admit one occurrence. -/
def scheduleWorker : AutomationScheduleWorker Unit where
  ownerId := 6
  leaseDuration := seconds 1
  maxCandidates := 10
  leaseId number := 21 + number
  dispatch _ _ := (.ok ⟨1, 0, 0, none⟩, ())

def twoSchedules : List AutomationCatalog.Action :=
  [.create ⟨scheduleDefinition scheduledTemplate, .sha256 4⟩ (scheduleRevision scheduledTemplate) 0,
    .createState scheduleState,
    .create ⟨otherDefinition, .sha256 40⟩ otherRevision 0,
    .createState { scheduleState with
      key := ⟨10, 2, 3, 40⟩, revisionId := 50, revisionDigest := .sha256 50 }]

def otherHead : AutomationDefinitionRecord := ⟨⟨otherDefinition, .sha256 40⟩, otherRevision, 0, 0⟩

/-- The state of the second schedule. -/
def otherState : AutomationScheduleState :=
  { scheduleState with key := ⟨10, 2, 3, 40⟩, revisionId := 50, revisionDigest := .sha256 50 }

theorem twoSchedules_created :
    (run (step automationCodec) .empty twoSchedules).heads.rows.length ≤ 10 ∧
      otherHead ∈ (run (step automationCodec) .empty
        twoSchedules).heads.rows ∧
      (run (step automationCodec) .empty twoSchedules).states.get?
        otherDefinition.scheduleKey = some otherState := by
  decide +kernel

theorem dispatches_iff_twoSchedules :
    Dispatches automationCodec scheduleWorker
        (run (step automationCodec) .empty twoSchedules) candidateProvider
        (seconds 3) () otherHead ↔
      ∀ other ∈ (run (step automationCodec) .empty twoSchedules).heads.rows,
        (run (step automationCodec) .empty twoSchedules).Harmless
          candidateProvider other :=
  dispatches_iff rfl twoSchedules_created.1 twoSchedules_created.1
    twoSchedules_created.2.1
    ⟨rfl, ⟨otherState, twoSchedules_created.2.2, rfl, rfl⟩, ⟨_, rfl⟩, _, rfl⟩ (seconds 3) ()

/-- After the append the head and the state of the second schedule are still there, and the
discovery fails. -/
theorem appended_revision_stored :
    otherHead ∈ (run (step automationCodec) .empty (twoSchedules ++
        [.appendRevision 1 4 (.sha256 5) renamedRevision (seconds 1)])).heads.rows ∧
      (run (step automationCodec) .empty (twoSchedules ++
        [.appendRevision 1 4 (.sha256 5) renamedRevision (seconds 1)])).states.get?
          otherDefinition.scheduleKey = some otherState ∧
      (run (step automationCodec) .empty (twoSchedules ++
        [.appendRevision 1 4 (.sha256 5) renamedRevision (seconds 1)])).candidates automationCodec
        candidateProvider = .error (.conflict
          "Automation schedule state is bound to a different definition head") := by
  decide +kernel

/-- The first organization appends a revision; its schedule state stays with the old one, and the
schedule of the other organization is not dispatched any more. -/
theorem appended_revision_stops_others :
    otherHead ∈ (run (step automationCodec) .empty (twoSchedules ++
        [.appendRevision 1 4 (.sha256 5) renamedRevision (seconds 1)])).heads.rows ∧
      (run (step automationCodec) .empty (twoSchedules ++
        [.appendRevision 1 4 (.sha256 5) renamedRevision (seconds 1)])).Eligible candidateProvider
          otherHead ∧
      ∀ observedAt, ¬ Dispatches automationCodec scheduleWorker
        (run (step automationCodec) .empty (twoSchedules ++
          [.appendRevision 1 4 (.sha256 5) renamedRevision (seconds 1)])) candidateProvider
        observedAt () otherHead := by
  obtain ⟨hhead, hstate, hfails⟩ := appended_revision_stored
  refine ⟨hhead, ⟨rfl, ⟨otherState, hstate, rfl, rfl⟩, ⟨_, rfl⟩, _, rfl⟩, ?_⟩
  rintro observedAt ⟨progress, htick, -⟩
  rw [tickAt, hfails] at htick
  cases htick

end Sample

end A3SCloud
