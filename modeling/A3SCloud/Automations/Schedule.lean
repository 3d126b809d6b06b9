import A3SCloud.Automations.Invocation

/-!
# Schedules

The model of the schedule part of `automations/domain`: the calendar (`schedule.rs`), the misfire
policy (`misfire.rs`), the due evaluation (`due.rs`), the lease (`lease.rs`) and the durable state
(`schedule_state.rs`), with its repository (`infrastructure/schedule_state_in_memory.rs`).

* `Calendar` is the cron library: it reads a trigger and lists instants. `Calendar.Lawful` is what is
  assumed of it.
* `dueEvaluate` is the decision of one observation, and `dueEvaluate_ok` what it selects and skips.
* `AutomationScheduleState.reserveLease`, `commitCursor` and `releaseLease` change a state.
-/

namespace A3SCloud

open Checks List

def automationScheduleMaxOccurrences : ℕ := 1024

/-! ### The calendar -/

/-- The iterator of a schedule: the first instants after a start. -/
structure AutomationScheduleCalculator where
  after : ℤ → ℕ → List ℤ

/-- The cron library and the time zone database. -/
structure Calendar where
  parse : AutomationScheduleTrigger → Except String AutomationScheduleCalculator

/-- The iterator returns strictly increasing instants after its start, each on a whole second. -/
structure AutomationScheduleCalculator.Lawful (calculator : AutomationScheduleCalculator) :
    Prop where
  increasing : ∀ start count, (calculator.after start count).Pairwise (· < ·)
  after : ∀ start count, ∀ t ∈ calculator.after start count, start < t
  seconds : ∀ start count, ∀ t ∈ calculator.after start count, t % 1000000000 = 0

def Calendar.Lawful (calendar : Calendar) : Prop :=
  ∀ trigger calculator, calendar.parse trigger = .ok calculator → calculator.Lawful

namespace AutomationScheduleCalculator

def new (calendar : Calendar) (trigger : AutomationScheduleTrigger) :
    Except String AutomationScheduleCalculator := do
  trigger.validate.mapError ("Automation schedule trigger is invalid: " ++ ·)
  calendar.parse trigger

def occurrencesBetween (calculator : AutomationScheduleCalculator) (start stop : ℤ) (limit : ℕ) :
    Except String (List ℤ) := do
  refuseIf (stop ≤ start) "Automation schedule occurrence window must move forward"
  refuseIf (limit = 0 ∨ automationScheduleMaxOccurrences < limit)
    "Automation schedule occurrence limit is outside its bound"
  pure (((calculator.after start limit).take limit).takeWhile (· ≤ stop))

end AutomationScheduleCalculator

/-! ### Misfires -/

structure AutomationScheduleDueSelection where
  selected : List ℤ
  skipped : List ℤ
  deriving DecidableEq

/-- The occurrences that a mode keeps of those inside the grace window. -/
def AutomationMisfireMode.choose : AutomationMisfireMode → List ℤ → List ℤ
  | skip, eligible => eligible
  | fireOnce, eligible => eligible.head?.toList
  | fireLatest, eligible => eligible.getLast?.toList

/-- `AutomationScheduleMisfireEvaluator::select`. -/
def AutomationMisfirePolicy.select (policy : AutomationMisfirePolicy) (occurrences : List ℤ)
    (observedAt : ℤ) : Except String AutomationScheduleDueSelection := do
  refuseIf (automationMaxMisfireGraceMs < policy.graceMs)
    "Automation misfire grace is outside its closed bound"
  refuseIf (automationScheduleMaxOccurrences < occurrences.length)
    "Automation misfire occurrence input exceeds its bound"
  refuseIf ((occurrences.zip occurrences.tail).any (fun window => window.2 ≤ window.1))
    "Automation misfire occurrences must be strictly increasing"
  refuseIf (occurrences.any (observedAt < ·))
    "Automation misfire occurrence cannot be after observation"
  let eligible := occurrences.filter (fun t => observedAt - t ≤ policy.graceMs * 1000000)
  let selected := policy.mode.choose eligible
  pure ⟨selected, occurrences.filter (· ∉ selected)⟩

structure AutomationScheduleDueEvaluation where
  selection : AutomationScheduleDueSelection
  evaluatedThrough : Option ℤ
  deriving DecidableEq

/-- `AutomationScheduleDueEvaluator::evaluate`. -/
def dueEvaluate (calculator : AutomationScheduleCalculator) (policy : AutomationMisfirePolicy)
    (cursor observedAt : ℤ) (limit : ℕ) : Except String AutomationScheduleDueEvaluation := do
  let occurrences ← calculator.occurrencesBetween cursor observedAt limit
  let selection ← policy.select occurrences observedAt
  pure ⟨selection, occurrences.getLast?⟩

theorem AutomationMisfireMode.choose_sublist (mode : AutomationMisfireMode) (eligible : List ℤ) :
    (mode.choose eligible).Sublist eligible := by
  cases mode with
  | skip => exact Sublist.refl _
  | fireOnce => cases eligible <;> simp [choose]
  | fireLatest =>
    rcases eq_nil_or_concat eligible with rfl | ⟨front, t, rfl⟩
    · simp [choose]
    · simp [choose]

theorem AutomationMisfireMode.length_choose {mode : AutomationMisfireMode} (h : mode ≠ .skip)
    (eligible : List ℤ) : (mode.choose eligible).length ≤ 1 := by
  cases mode with
  | skip => exact absurd rfl h
  | fireOnce => exact Option.length_toList_le
  | fireLatest => exact Option.length_toList_le

/-- What an evaluation from a cursor selects and skips lies between the cursor and the last
occurrence that it examined. -/
structure AutomationScheduleDueEvaluation.Covers (evaluation : AutomationScheduleDueEvaluation)
    (mode : AutomationMisfireMode) (cursor : ℤ) : Prop where
  selected : ∀ t ∈ evaluation.selection.selected,
    cursor < t ∧ ∃ through, evaluation.evaluatedThrough = some through ∧ t ≤ through
  skipped : ∀ t ∈ evaluation.selection.skipped, t ∉ evaluation.selection.selected ∧
    cursor < t ∧ ∃ through, evaluation.evaluatedThrough = some through ∧ t ≤ through
  atMostOne : mode ≠ .skip → evaluation.selection.selected.length ≤ 1
  advances : ∀ through, evaluation.evaluatedThrough = some through →
    cursor < through ∧ IsCanonical through

variable {calculator : AutomationScheduleCalculator} {limit : ℕ} {l : List ℤ} {t : ℤ}

theorem occurrencesBetween_ok (hlaw : calculator.Lawful) {start stop : ℤ} {occurrences : List ℤ}
    (h : calculator.occurrencesBetween start stop limit = .ok occurrences) :
    occurrences.Pairwise (· < ·) ∧ ∀ t ∈ occurrences, start < t ∧ IsCanonical t := by
  simp only [AutomationScheduleCalculator.occurrencesBetween, ok_rules] at h
  obtain ⟨-, -, rfl⟩ := h
  have hsub : (((calculator.after start limit).take limit).takeWhile (· ≤ stop)).Sublist
      (calculator.after start limit) :=
    (takeWhile_sublist _).trans (take_sublist _ _)
  refine ⟨(hlaw.increasing start limit).sublist hsub, fun t ht => ?_⟩
  have hmem := hsub.subset ht
  refine ⟨hlaw.after start limit t hmem, ?_⟩
  have hsecond := hlaw.seconds start limit t hmem
  unfold IsCanonical canonicalTimestamp
  omega

theorem eq_of_length_le_one (h : l.length ≤ 1) {s : ℤ} (hs : s ∈ l) (ht : t ∈ l) : s = t := by
  rcases l with _ | ⟨a, _ | ⟨b, l⟩⟩
  · cases hs
  · rw [mem_singleton.1 hs, mem_singleton.1 ht]
  · simp at h

/-- No instant of an increasing list is after its last. -/
theorem le_getLast (hl : l.Pairwise (· < ·)) (ht : t ∈ l) :
    ∃ last, l.getLast? = some last ∧ t ≤ last := by
  rcases eq_nil_or_concat l with rfl | ⟨front, last, rfl⟩
  · cases ht
  · refine ⟨last, by simp, ?_⟩
    rw [concat_eq_append, pairwise_append] at hl
    rw [concat_eq_append, mem_append, mem_singleton] at ht
    rcases ht with ht | rfl
    · exact (hl.2.2 t ht last (mem_singleton_self last)).le
    · exact le_rfl

theorem dueEvaluate_ok (hlaw : calculator.Lawful) {policy : AutomationMisfirePolicy}
    {cursor observedAt : ℤ} {evaluation : AutomationScheduleDueEvaluation}
    (h : dueEvaluate calculator policy cursor observedAt limit = .ok evaluation) :
    evaluation.Covers policy.mode cursor := by
  simp only [dueEvaluate, AutomationMisfirePolicy.select, ok_rules] at h
  obtain ⟨occurrences, hoccurrences, selection, ⟨-, -, -, -, rfl⟩, rfl⟩ := h
  obtain ⟨hincreasing, hafter⟩ := occurrencesBetween_ok hlaw hoccurrences
  have hinside : ∀ t ∈ occurrences,
      cursor < t ∧ ∃ through, occurrences.getLast? = some through ∧ t ≤ through :=
    fun t ht => ⟨(hafter t ht).1, le_getLast hincreasing ht⟩
  refine ⟨fun t ht => hinside t ?_, fun t ht => ?_,
    fun hmode => AutomationMisfireMode.length_choose hmode _, fun through hthrough => ?_⟩
  · exact (mem_filter.1 ((AutomationMisfireMode.choose_sublist _ _).subset ht)).1
  · obtain ⟨hmem, hnot⟩ := mem_filter.1 ht
    exact ⟨by simpa using hnot, hinside t hmem⟩
  · exact hafter through (mem_of_getLast? hthrough)

/-! ### Leases -/

def automationScheduleMaxLeaseMs : ℤ := 5 * 60 * 1000

structure AutomationScheduleLease where
  ownerId : Uuid
  leaseId : Uuid
  reservedAt : ℤ
  leaseExpiresAt : ℤ
  deriving DecidableEq

namespace AutomationScheduleLease

def validate (lease : AutomationScheduleLease) : Except String Unit :=
  refuseIf (lease.ownerId = 0 ∨ lease.leaseId = 0 ∨
      lease.reservedAt ≠ canonicalTimestamp lease.reservedAt ∨
      lease.leaseExpiresAt ≠ canonicalTimestamp lease.leaseExpiresAt ∨
      lease.leaseExpiresAt ≤ lease.reservedAt ∨
      automationScheduleMaxLeaseMs * 1000000 < lease.leaseExpiresAt - lease.reservedAt)
    "Automation schedule lease fence is invalid"

def new (ownerId leaseId : Uuid) (reservedAt leaseExpiresAt : ℤ) :
    Except String AutomationScheduleLease := do
  let lease : AutomationScheduleLease :=
    ⟨ownerId, leaseId, canonicalTimestamp reservedAt, canonicalTimestamp leaseExpiresAt⟩
  lease.validate
  pure lease

def authorize (lease : AutomationScheduleLease) (ownerId leaseId : Uuid) (observedAt : ℤ) :
    Except String Unit := do
  lease.validate
  refuseIf (ownerId ≠ lease.ownerId ∨ leaseId ≠ lease.leaseId)
    "Automation schedule lease fence is owned by another evaluator"
  refuseIf (canonicalTimestamp observedAt < lease.reservedAt ∨
      lease.leaseExpiresAt ≤ canonicalTimestamp observedAt)
    "Automation schedule lease has expired or is not active"

/-- `AutomationScheduleLeaseEvaluator::evaluate`. -/
def evaluate (lease : AutomationScheduleLease) (ownerId leaseId : Uuid)
    (calculator : AutomationScheduleCalculator) (policy : AutomationMisfirePolicy)
    (cursor observedAt : ℤ) (limit : ℕ) : Except String AutomationScheduleDueEvaluation := do
  lease.authorize ownerId leaseId observedAt
  let evaluation ← dueEvaluate calculator policy cursor observedAt limit
  lease.authorize ownerId leaseId (max (evaluation.evaluatedThrough.getD observedAt) observedAt)
  pure evaluation

end AutomationScheduleLease

/-! ### The durable state -/

structure AutomationScheduleStateKey where
  organizationId : Uuid
  projectId : Uuid
  environmentId : Uuid
  automationId : Uuid
  deriving DecidableEq

def AutomationScheduleStateKey.validate (key : AutomationScheduleStateKey) : Except String Unit :=
  refuseIf (key.organizationId = 0 ∨ key.projectId = 0 ∨ key.environmentId = 0 ∨
      key.automationId = 0)
    "Automation schedule state identity is invalid"

structure AutomationScheduleState where
  key : AutomationScheduleStateKey
  revisionId : Uuid
  revisionDigest : DigestText
  cursorAt : ℤ
  leaseGeneration : ℕ
  lease : Option AutomationScheduleLease
  createdAt : ℤ
  updatedAt : ℤ
  deriving DecidableEq

namespace AutomationScheduleState

variable (state : AutomationScheduleState)

def validateLease : Except String Unit :=
  match state.lease with
  | none => .ok ()
  | some lease => do
    lease.validate
    refuseIf (state.leaseGeneration = 0) "Automation schedule lease generation is invalid"

def validate (state : AutomationScheduleState) : Except String Unit := do
  state.key.validate
  refuseIf (state.revisionId = 0 ∨ validateDigest "" state.revisionDigest ≠ .ok () ∨
      state.cursorAt ≠ canonicalTimestamp state.cursorAt ∨
      state.createdAt ≠ canonicalTimestamp state.createdAt ∨
      state.updatedAt ≠ canonicalTimestamp state.updatedAt ∨ state.updatedAt < state.createdAt ∨
      2 ^ 63 - 1 < state.leaseGeneration)
    "Automation schedule state is invalid"
  state.validateLease

def new (key : AutomationScheduleStateKey) (revisionId : Uuid) (revisionDigest : DigestText)
    (cursorAt createdAt : ℤ) : Except String AutomationScheduleState := do
  let state : AutomationScheduleState :=
    { key, revisionId, revisionDigest, cursorAt := canonicalTimestamp cursorAt, leaseGeneration := 0,
      lease := none, createdAt := canonicalTimestamp createdAt,
      updatedAt := canonicalTimestamp createdAt }
  state.validate
  pure state

def validateForCreation : Except String Unit := do
  state.validate
  refuseIf (state.leaseGeneration ≠ 0 ∨ state.lease.isSome ∨ state.updatedAt ≠ state.createdAt)
    "Automation schedule state creation must start without a lease"

def reserveLease (ownerId leaseId : Uuid)
    (reservedAt leaseExpiresAt : ℤ) : Except RepositoryError AutomationScheduleState := do
  refuseIf (state.lease.any (canonicalTimestamp reservedAt < ·.leaseExpiresAt))
    (.conflict "Automation schedule lease is still active")
  refuseIf (canonicalTimestamp reservedAt < state.updatedAt)
    (.conflict "Automation schedule lease reservation is older than state progress")
  refuseIf (state.lease.any (·.leaseId = leaseId))
    (.conflict "Automation schedule lease takeover must rotate its fence")
  let lease ← (AutomationScheduleLease.new ownerId leaseId (canonicalTimestamp reservedAt)
    leaseExpiresAt).mapError .conflict
  let leaseGeneration ← orElse (.conflict "Automation schedule lease generation exhausted")
    (checkedAdd state.leaseGeneration 1)
  let next := { state with
    leaseGeneration, lease := some lease, updatedAt := canonicalTimestamp reservedAt }
  next.validate.mapError .storage
  pure next

def commitCursor (ownerId leaseId : Uuid) (leaseGeneration : ℕ)
    (evaluatedThrough committedAt : ℤ) : Except RepositoryError AutomationScheduleState := do
  refuseIf (leaseGeneration ≠ state.leaseGeneration)
    (.conflict "Automation schedule lease generation is stale")
  let lease ← orElse (.conflict "Automation schedule has no active lease") state.lease
  (lease.authorize ownerId leaseId (canonicalTimestamp committedAt)).mapError .conflict
  refuseIf (canonicalTimestamp committedAt < canonicalTimestamp evaluatedThrough)
    (.conflict "Automation schedule cursor cannot advance beyond its commit observation")
  refuseIf (canonicalTimestamp evaluatedThrough ≤ state.cursorAt)
    (.conflict "Automation schedule cursor must advance")
  let next := { state with
    cursorAt := canonicalTimestamp evaluatedThrough, lease := none,
    updatedAt := canonicalTimestamp committedAt }
  next.validate.mapError .storage
  pure next

def releaseLease (ownerId leaseId : Uuid) (leaseGeneration : ℕ)
    (releasedAt : ℤ) : Except RepositoryError AutomationScheduleState := do
  refuseIf (leaseGeneration ≠ state.leaseGeneration)
    (.conflict "Automation schedule lease generation is stale")
  refuseIf (canonicalTimestamp releasedAt < state.updatedAt)
    (.conflict "Automation schedule lease release is older than state progress")
  let lease ← orElse (.conflict "Automation schedule has no active lease") state.lease
  (lease.authorize ownerId leaseId (canonicalTimestamp releasedAt)).mapError .conflict
  let next := { state with lease := none, updatedAt := canonicalTimestamp releasedAt }
  next.validate.mapError .storage
  pure next

end AutomationScheduleState

/-! ### The repository of the states -/

abbrev ScheduleStates := Table AutomationScheduleState.key

namespace ScheduleStates

def create (states : ScheduleStates) (state : AutomationScheduleState) :
    Except RepositoryError (AutomationScheduleState × ScheduleStates) := do
  state.validateForCreation.mapError .storage
  refuseIf ((states.get? state.key).isSome ∨
      states.rows.any (·.key.automationId = state.key.automationId))
    (.conflict "Automation schedule state already exists")
  pure (state, states.insert state)

def update (states : ScheduleStates) (key : AutomationScheduleStateKey)
    (change : AutomationScheduleState → Except RepositoryError AutomationScheduleState) :
    Except RepositoryError (AutomationScheduleState × ScheduleStates) := do
  let state ← orElse .notFound (states.get? key)
  let next ← change state
  pure (next, states.insert next)

def reserve (states : ScheduleStates) (key : AutomationScheduleStateKey) (ownerId leaseId : Uuid)
    (reservedAt leaseExpiresAt : ℤ) :
    Except RepositoryError (AutomationScheduleState × ScheduleStates) :=
  states.update key (·.reserveLease ownerId leaseId reservedAt leaseExpiresAt)

def commitCursor (states : ScheduleStates) (key : AutomationScheduleStateKey)
    (ownerId leaseId : Uuid) (leaseGeneration : ℕ) (evaluatedThrough committedAt : ℤ) :
    Except RepositoryError (AutomationScheduleState × ScheduleStates) :=
  states.update key (·.commitCursor ownerId leaseId leaseGeneration evaluatedThrough committedAt)

def releaseLease (states : ScheduleStates) (key : AutomationScheduleStateKey)
    (ownerId leaseId : Uuid) (leaseGeneration : ℕ) (releasedAt : ℤ) :
    Except RepositoryError (AutomationScheduleState × ScheduleStates) :=
  states.update key (·.releaseLease ownerId leaseId leaseGeneration releasedAt)

variable {states states' : ScheduleStates} {key : AutomationScheduleStateKey}
  {next : AutomationScheduleState}

variable {ownerId leaseId : Uuid} {leaseGeneration : ℕ}

/-- A reservation replaces the lease by one of the next generation. -/
theorem reserve_ok {reservedAt leaseExpiresAt : ℤ}
    (h : states.reserve key ownerId leaseId reservedAt leaseExpiresAt = .ok (next, states')) :
    ∃ state lease, states.get? key = some state ∧ states' = states.insert next ∧
      next = { state with
        leaseGeneration := state.leaseGeneration + 1, lease := some lease,
        updatedAt := canonicalTimestamp reservedAt } := by
  simp only [reserve, update, AutomationScheduleState.reserveLease, ok_rules, Prod.mk.injEq] at h
  obtain ⟨state, hstate, made, ⟨-, -, -, lease, -, generation, hgeneration, -, rfl⟩, rfl, rfl⟩ := h
  obtain ⟨rfl, -⟩ := checkedAdd_eq_some.1 hgeneration
  exact ⟨state, lease, hstate, rfl, rfl⟩

/-- A commit needs the lease of its generation, and moves the cursor. -/
theorem commitCursor_ok {evaluatedThrough committedAt : ℤ}
    (h : states.commitCursor key ownerId leaseId leaseGeneration evaluatedThrough committedAt =
      .ok (next, states')) :
    ∃ state, states.get? key = some state ∧ states' = states.insert next ∧
      leaseGeneration = state.leaseGeneration ∧ state.lease.isSome ∧
      next = { state with
        cursorAt := canonicalTimestamp evaluatedThrough, lease := none,
        updatedAt := canonicalTimestamp committedAt } := by
  simp only [commitCursor, update, AutomationScheduleState.commitCursor, ok_rules, Prod.mk.injEq,
    ne_eq, not_not] at h
  obtain ⟨state, hstate, made, ⟨hgeneration, lease, hlease, -, -, -, -, rfl⟩, rfl, rfl⟩ := h
  exact ⟨state, hstate, rfl, hgeneration, by rw [hlease]; rfl, rfl⟩

/-- A release only takes the lease away. -/
theorem releaseLease_ok {releasedAt : ℤ}
    (h : states.releaseLease key ownerId leaseId leaseGeneration releasedAt = .ok (next, states')) :
    ∃ state, states.get? key = some state ∧ states' = states.insert next ∧
      next = { state with lease := none, updatedAt := canonicalTimestamp releasedAt } := by
  simp only [releaseLease, update, AutomationScheduleState.releaseLease, ok_rules, Prod.mk.injEq] at h
  obtain ⟨state, hstate, made, ⟨-, -, lease, -, -, -, rfl⟩, rfl, rfl⟩ := h
  exact ⟨state, hstate, rfl, rfl⟩

end ScheduleStates

end A3SCloud
