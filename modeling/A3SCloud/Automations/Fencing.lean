import A3SCloud.Automations.Sample

/-!
# What a committed advance has admitted

A worker admits the occurrences it has selected before it commits the cursor, and neither the lease
nor the cursor is compared when it admits. A committed advance therefore agrees with what has been
admitted only if the workers keep to their leases (`ScheduleSystem.Fenced`): a worker makes a new
admission while it holds the lease under which it has selected, and a worker that is given the lease
selects again what an earlier one has admitted after the cursor.

* `ScheduleSystem.Effect` is what a call can do to the schedules and to the admitted occurrences;
  each kind of call has one.
* `ScheduleSystem.WorkerOk` ties the local variables of a worker to the repositories, and
  `ScheduleSystem.Invariant` is what every fenced step keeps.
-/

namespace A3SCloud

open List Sample Table

namespace DispatchPhase

/-- The generation of the lease under which the phase has decided something. -/
def generation? : DispatchPhase → Option ℕ
  | admitNext leaseGeneration .. => some leaseGeneration
  | commit leaseGeneration .. => some leaseGeneration
  | _ => none

end DispatchPhase

namespace ScheduleSystem

open Checks AutomationScheduleDispatchRequest

variable {codec : AutomationCodec} {calendar : Calendar}

/-! ### The condition on the workers -/

/-- The lease of a schedule is held under a generation. -/
def HoldsLease (s : ScheduleSystem) (key : AutomationScheduleStateKey) (leaseGeneration : ℕ) :
    Prop :=
  ∃ state, s.states.get? key = some state ∧ state.leaseGeneration = leaseGeneration ∧
    state.lease.isSome

/-- What has been admitted after the cursor is selected again, as far as the evaluation reaches. -/
def Reselects (s : ScheduleSystem) (request : AutomationScheduleDispatchRequest)
    (calculator : AutomationScheduleCalculator) : Prop :=
  ∀ state evaluation through t, s.states.get? request.key = some state →
    dueEvaluate calculator request.revision.spec.definition.policy.misfire state.cursorAt
      request.observedAt request.limit = .ok evaluation →
    evaluation.evaluatedThrough = some through → s.Admitted request.key t → state.cursorAt < t →
    t ≤ through → t ∈ evaluation.selection.selected

variable (codec) in
/-- A worker that is given the lease selects again what others have admitted, and an envelope that is
admitted for the first time is admitted under the lease that its worker holds. -/
def Fenced (s : ScheduleSystem) : Action → Prop
  | .call number => ∀ worker, s.workers[number]? = some worker →
    match worker.phase with
    | .reserve calculator => ∀ reserved, s.states.reserve worker.request.key
          worker.request.ownerId worker.request.leaseId worker.request.reservedAt
          worker.request.leaseExpiresAt = .ok reserved →
        s.Reselects worker.request calculator
    | .admitNext leaseGeneration _ _ envelope .. => ∀ invocations,
        admitInvocation codec s.invocations envelope = .ok (false, invocations) →
          s.HoldsLease worker.request.key leaseGeneration
    | _ => True
  | _ => True

/-! ### What a call can do -/

/-- How the state of a schedule can change in one call. -/
structure Progress (state next : AutomationScheduleState) : Prop where
  revisionId : next.revisionId = state.revisionId
  generation : state.leaseGeneration ≤ next.leaseGeneration
  cursor : state.cursorAt ≤ next.cursorAt
  current : next.leaseGeneration = state.leaseGeneration → next.lease.isSome →
    state.lease.isSome ∧ next.cursorAt = state.cursorAt

theorem Progress.refl (state : AutomationScheduleState) : Progress state state :=
  ⟨rfl, le_rfl, le_rfl, fun _ h => ⟨h, rfl⟩⟩

/-- What a call does to the schedules, and to the occurrences that have been admitted. -/
structure Effect (s s' : ScheduleSystem) : Prop where
  progress : ∀ key state, s.states.get? key = some state →
    ∃ next, s'.states.get? key = some next ∧ Progress state next
  kept : ∀ key t, s.Admitted key t → s'.Admitted key t
  fresh : ∀ key t, s'.Admitted key t →
    s.Admitted key t ∨ ∀ state, s.states.get? key = some state → state.cursorAt < t

variable {s s' : ScheduleSystem} {state next : AutomationScheduleState}
  {key : AutomationScheduleStateKey} {request : AutomationScheduleDispatchRequest}
  {leaseGeneration g number admitted alreadyAdmitted : ℕ} {cursor : ℤ}
  {evaluation : AutomationScheduleDueEvaluation} {pending : List AutomationInvocationEnvelope}
  {worker : DispatchWorker} {phase : DispatchPhase} {calculator : AutomationScheduleCalculator}
  {envelope : AutomationInvocationEnvelope} {replayed : Bool} {invocations : InvocationStore}
  {states : ScheduleStates}

/-- A call that changes one schedule and admits nothing. -/
theorem Effect.of_states (hstate : s.states.get? key = some state) (hkey : next.key = key)
    (hstates : s'.states = s.states.insert next) (hprogress : Progress state next)
    (hinvocations : s'.invocations = s.invocations) : Effect s s' := by
  have hadmitted : ∀ k t, s'.Admitted k t ↔ s.Admitted k t := by
    intro k t
    rw [Admitted, Admitted, hinvocations]
  refine ⟨fun k old hold => ?_, fun k t => (hadmitted k t).2, fun k t h => .inl ((hadmitted k t).1 h)⟩
  rw [hstates, get?_insert, hkey]
  split_ifs with hk
  · rw [hk, hstate] at hold
    cases hold
    exact ⟨next, rfl, hprogress⟩
  · exact ⟨old, hold, Progress.refl old⟩

/-- A call that changes neither repository. -/
theorem Effect.of_eq (hstates : s'.states = s.states)
    (hinvocations : s'.invocations = s.invocations) : Effect s s' := by
  have hadmitted : ∀ k t, s'.Admitted k t ↔ s.Admitted k t := by
    intro k t
    rw [Admitted, Admitted, hinvocations]
  refine ⟨fun k old hold => ⟨old, hstates ▸ hold, Progress.refl old⟩, fun k t => (hadmitted k t).2,
    fun k t h => .inl ((hadmitted k t).1 h)⟩

/-! ### What the workers know -/

/-- What a worker has decided under a lease: `pending` are the envelopes it has still to admit. -/
structure Decided (codec : AutomationCodec) (s : ScheduleSystem)
    (request : AutomationScheduleDispatchRequest) (leaseGeneration : ℕ) (cursor : ℤ)
    (evaluation : AutomationScheduleDueEvaluation)
    (pending : List AutomationInvocationEnvelope) : Prop where
  covers : evaluation.Covers request.revision.spec.definition.policy.misfire.mode cursor
  envelopes : ∀ envelope ∈ pending, envelope.scheduleKey = request.key ∧
    ∃ t ∈ evaluation.selection.selected, envelope.origin = .dueTime t ∧
      envelope.invocationId = scheduleInvocationId codec request.revision.spec.revisionId t
  done : ∀ t ∈ evaluation.selection.selected, s.Admitted request.key t ∨
    ∃ envelope ∈ pending, envelope.origin = .dueTime t
  state : ∃ state, s.states.get? request.key = some state ∧
    state.revisionId = request.revision.spec.revisionId ∧
    leaseGeneration ≤ state.leaseGeneration ∧
    (leaseGeneration = state.leaseGeneration → state.lease.isSome → state.cursorAt = cursor ∧
      ∀ t through, s.Admitted request.key t → cursor < t →
        evaluation.evaluatedThrough = some through → t ≤ through →
        t ∈ evaluation.selection.selected)

/-- What holds of the local variables of a worker. -/
def WorkerOk (codec : AutomationCodec) (s : ScheduleSystem) (worker : DispatchWorker) : Prop :=
  match worker.phase with
  | .find calculator => calculator.Lawful ∧
      worker.request.key = worker.request.revision.spec.definition.scheduleKey
  | .reserve calculator => calculator.Lawful ∧
      worker.request.key = worker.request.revision.spec.definition.scheduleKey ∧
      ∃ state, s.states.get? worker.request.key = some state ∧
        state.revisionId = worker.request.revision.spec.revisionId
  | .admitNext leaseGeneration cursor evaluation envelope rest _ _ =>
    Decided codec s worker.request leaseGeneration cursor evaluation (envelope :: rest)
  | .commit leaseGeneration cursor evaluation through _ _ =>
    Decided codec s worker.request leaseGeneration cursor evaluation [] ∧
      evaluation.evaluatedThrough = some through
  | _ => True

/-- What a call leaves of a decision: either it admits nothing for this schedule, or the decision is
of an earlier lease. -/
theorem Decided.after (heffect : Effect s s')
    (h : Decided codec s request leaseGeneration cursor evaluation pending)
    (hforeign : s.HoldsLease request.key leaseGeneration →
      ∀ t, s'.Admitted request.key t → s.Admitted request.key t) :
    Decided codec s' request leaseGeneration cursor evaluation pending := by
  obtain ⟨state, hstate, hrevision, hgeneration, hcurrent⟩ := h.state
  obtain ⟨next, hnext, hprogress⟩ := heffect.progress _ _ hstate
  refine ⟨h.covers, h.envelopes, fun t ht => (h.done t ht).imp_left (heffect.kept _ _), next, hnext,
    hprogress.revisionId.trans hrevision, hgeneration.trans hprogress.generation, ?_⟩
  intro hsame hlease
  have hold : next.leaseGeneration = state.leaseGeneration :=
    le_antisymm (hsame ▸ hgeneration) hprogress.generation
  obtain ⟨hheld, hcursor⟩ := hprogress.current hold hlease
  obtain ⟨hcursorAt, hselected⟩ := hcurrent (hsame.trans hold) hheld
  refine ⟨hcursor.trans hcursorAt, fun t through hadmitted => hselected t through ?_⟩
  exact hforeign ⟨state, hstate, (hsame.trans hold).symm, hheld⟩ t hadmitted

theorem WorkerOk.after (heffect : Effect s s') (h : WorkerOk codec s worker)
    (hforeign : ∀ leaseGeneration, worker.phase.generation? = some leaseGeneration →
      s.HoldsLease worker.request.key leaseGeneration →
      ∀ t, s'.Admitted worker.request.key t → s.Admitted worker.request.key t) :
    WorkerOk codec s' worker := by
  obtain ⟨request, phase⟩ := worker
  cases phase with
  | find => exact h
  | reserve =>
    obtain ⟨hlaw, hkey, state, hstate, hrevision⟩ := h
    obtain ⟨next, hnext, hprogress⟩ := heffect.progress _ _ hstate
    exact ⟨hlaw, hkey, next, hnext, hprogress.revisionId.trans hrevision⟩
  | admitNext leaseGeneration =>
    exact Decided.after heffect h (hforeign leaseGeneration rfl)
  | commit leaseGeneration =>
    exact ⟨Decided.after heffect h.1 (hforeign leaseGeneration rfl), h.2⟩
  | release | finished => trivial

/-! ### What has been committed -/

/-- A committed advance agrees with what has been admitted. -/
structure Agrees (s : ScheduleSystem) (advance : CursorAdvance) : Prop where
  passed : ∃ state, s.states.get? advance.key = some state ∧ advance.through ≤ state.cursorAt
  selected : ∀ t ∈ advance.selection.selected, advance.start < t ∧ t ≤ advance.through
  skipped : ∀ t ∈ advance.selection.skipped, t ∉ advance.selection.selected ∧
    advance.start < t ∧ t ≤ advance.through
  atMostOne : advance.mode ≠ .skip → advance.selection.selected.length ≤ 1
  exact : ∀ t, advance.start < t → t ≤ advance.through →
    (s.Admitted advance.key t ↔ t ∈ advance.selection.selected)

theorem Agrees.after (heffect : Effect s s') {advance : CursorAdvance} (h : s.Agrees advance) :
    s'.Agrees advance := by
  obtain ⟨state, hstate, hpassed⟩ := h.passed
  obtain ⟨next, hnext, hprogress⟩ := heffect.progress _ _ hstate
  refine ⟨⟨next, hnext, hpassed.trans hprogress.cursor⟩, h.selected, h.skipped, h.atMostOne,
    fun t hstart hthrough => ?_⟩
  rw [← h.exact t hstart hthrough]
  constructor
  · intro hadmitted
    rcases heffect.fresh _ _ hadmitted with hold | hlater
    · exact hold
    · exact absurd (hlater state hstate) (not_lt.2 (hthrough.trans hpassed))
  · exact heffect.kept _ _

/-! ### The invariant -/

/-- An occurrence is recorded under the identity that its revision gives it. -/
def RecordsOk (codec : AutomationCodec) (s : ScheduleSystem) : Prop :=
  ∀ record ∈ s.invocations.byInvocation.rows, ∀ t, record.envelope.origin = .dueTime t →
    ∃ state, s.states.get? record.envelope.scheduleKey = some state ∧
      record.envelope.invocationId = scheduleInvocationId codec state.revisionId t

structure Invariant (codec : AutomationCodec) (s : ScheduleSystem) : Prop where
  records : RecordsOk codec s
  advances : ∀ advance ∈ s.advances, s.Agrees advance
  workers : ∀ (number : ℕ) worker, s.workers[number]? = some worker → WorkerOk codec s worker
  unique : ∀ (i j : ℕ) w w' leaseGeneration, s.workers[i]? = some w → s.workers[j]? = some w' →
    w.request.key = w'.request.key → w.phase.generation? = some leaseGeneration →
    w'.phase.generation? = some leaseGeneration → i = j

theorem invariant_empty : Invariant codec empty where
  records _ h := by cases h
  advances _ h := by cases h
  workers _ _ h := by cases h
  unique _ _ _ _ _ h := by cases h

/-- Two generations under which one lease is held are the same. -/
theorem HoldsLease.eq {g' : ℕ} (h : s.HoldsLease key g) (h' : s.HoldsLease key g') : g = g' := by
  obtain ⟨state, hstate, rfl, -⟩ := h
  obtain ⟨state', hstate', rfl, -⟩ := h'
  cases hstate.symm.trans hstate'
  rfl

/-- The generation of a worker is not beyond that of its schedule. -/
theorem WorkerOk.generation_le (h : WorkerOk codec s worker)
    (hgeneration : worker.phase.generation? = some leaseGeneration) :
    ∃ state, s.states.get? worker.request.key = some state ∧
      leaseGeneration ≤ state.leaseGeneration := by
  obtain ⟨request, phase⟩ := worker
  cases phase with
  | admitNext =>
    cases hgeneration
    obtain ⟨state, hstate, -, hle, -⟩ := Decided.state h
    exact ⟨state, hstate, hle⟩
  | commit =>
    cases hgeneration
    obtain ⟨state, hstate, -, hle, -⟩ := Decided.state h.1
    exact ⟨state, hstate, hle⟩
  | find | reserve | release | finished => cases hgeneration

/-- A call of one worker keeps the invariant if it does so for the worker itself. -/
theorem Invariant.call (h : Invariant codec s) (hworker : s.workers[number]? = some worker)
    (heffect : Effect s s') (hworkers : s'.workers = s.workers.set number { worker with phase })
    (hrecords : RecordsOk codec s')
    (hadvances : ∀ advance ∈ s'.advances, advance ∈ s.advances ∨ s'.Agrees advance)
    (hown : WorkerOk codec s' { worker with phase })
    (hadmitted : ∀ key t, s'.Admitted key t → s.Admitted key t ∨
      (key = worker.request.key ∧ ∃ g, worker.phase.generation? = some g ∧ s.HoldsLease key g))
    (hgeneration : ∀ g, phase.generation? = some g → worker.phase.generation? = some g ∨
      ∀ state, s.states.get? worker.request.key = some state → state.leaseGeneration < g) :
    Invariant codec s' := by
  have hother : ∀ (j : ℕ) w, s'.workers[j]? = some w →
      (j = number ∧ w = { worker with phase }) ∨ (j ≠ number ∧ s.workers[j]? = some w) := by
    intro j w hw
    rw [hworkers] at hw
    by_cases hj : j = number
    · subst hj
      have hlt : j < s.workers.length := (List.getElem?_eq_some_iff.1 hworker).1
      rw [getElem?_set_self hlt] at hw
      exact .inl ⟨rfl, (Option.some.inj hw).symm⟩
    · rw [getElem?_set_ne (Ne.symm hj)] at hw
      exact .inr ⟨hj, hw⟩
  -- The worker that calls shares no generation with another worker of its schedule.
  have hdiffers : ∀ (j : ℕ) w g, j ≠ number → s.workers[j]? = some w →
      w.request.key = worker.request.key → w.phase.generation? = some g →
      phase.generation? ≠ some g := by
    intro j w g hj hw hkey hg hphase
    rcases hgeneration g hphase with hold | hnew
    · exact hj (h.unique j number w worker g hw hworker hkey hg hold)
    · obtain ⟨state, hstate, hle⟩ := (h.workers j w hw).generation_le hg
      exact absurd (hnew state (hkey ▸ hstate)) (not_lt.2 hle)
  refine ⟨hrecords, fun advance ha => ?_, fun j w hw => ?_, fun i j w w' g hi hj hkey hg hg' => ?_⟩
  · exact (hadvances advance ha).elim (fun hold => (h.advances advance hold).after heffect) id
  · rcases hother j w hw with ⟨-, rfl⟩ | ⟨hj, hw⟩
    · exact hown
    · refine (h.workers j w hw).after heffect fun g hg hholds t ht => ?_
      rcases hadmitted _ t ht with hold | ⟨hkey, g', hg', hholds'⟩
      · exact hold
      · have hsame := hholds.eq hholds'
        exact absurd (h.unique j number w worker g hw hworker hkey hg (hsame ▸ hg')) hj
  · rcases hother i w hi with ⟨rfl, rfl⟩ | ⟨hi', hi⟩ <;>
      rcases hother j w' hj with ⟨rfl, rfl⟩ | ⟨hj', hj⟩
    · rfl
    · exact absurd hg (hdiffers j w' g hj' hj hkey.symm hg')
    · exact absurd hg' (hdiffers i w g hi' hi hkey hg)
    · exact h.unique i j w w' g hi hj hkey hg hg'

/-! ### The calls -/

theorem workerOk_admitting (admitted alreadyAdmitted : ℕ)
    (h : Decided codec s request leaseGeneration cursor evaluation pending) :
    WorkerOk codec s ⟨request, admitting leaseGeneration cursor evaluation admitted alreadyAdmitted
      pending⟩ := by
  cases pending with
  | cons => exact h
  | nil =>
    rw [admitting, afterAdmissions]
    cases hthrough : evaluation.evaluatedThrough with
    | none => trivial
    | some => exact ⟨h, hthrough⟩

theorem generation?_admitting
    (h : (admitting leaseGeneration cursor evaluation admitted alreadyAdmitted
      pending).generation? = some g) : g = leaseGeneration := by
  cases pending with
  | cons => exact (Option.some.inj h).symm
  | nil =>
    rw [admitting, afterAdmissions] at h
    cases hthrough : evaluation.evaluatedThrough with
    | none =>
      rw [hthrough] at h
      cases h
    | some =>
      rw [hthrough] at h
      exact (Option.some.inj h).symm

theorem generation?_afterReserve {reserved : AutomationScheduleState}
    (h : (request.afterReserve codec calculator reserved).generation? = some g) :
    g = reserved.leaseGeneration := by
  rw [afterReserve] at h
  split at h
  · cases h
  · split_ifs at h
    · split at h <;> cases h
    · split at h
      · cases h
      · exact generation?_admitting h

/-- A reservation decides on the occurrences after the cursor. -/
theorem workerOk_afterReserve (hlaw : calculator.Lawful)
    (hkey : request.key = request.revision.spec.definition.scheduleKey)
    (hstate : s.states.get? request.key = some state) (hcursor : next.cursorAt = state.cursorAt)
    (hnext : s'.states.get? request.key = some next)
    (hrevision : next.revisionId = request.revision.spec.revisionId)
    (hadmitted : ∀ t, s'.Admitted request.key t → s.Admitted request.key t)
    (hreselects : s.Reselects request calculator) :
    WorkerOk codec s' ⟨request, request.afterReserve codec calculator next⟩ := by
  rw [afterReserve]
  cases hlease : next.lease with
  | none => trivial
  | some lease =>
    simp only
    split_ifs with hbehind
    · cases lease.authorize request.ownerId request.leaseId request.observedAt <;> trivial
    · cases hevaluate : request.evaluate codec calculator lease next.cursorAt with
      | error => trivial
      | ok result =>
        obtain ⟨evaluation, envelopes⟩ := result
        refine workerOk_admitting 0 0 ?_
        simp only [AutomationScheduleDispatchRequest.evaluate, AutomationScheduleLease.evaluate,
          ok_rules, Prod.mk.injEq] at hevaluate
        obtain ⟨made, ⟨-, made', hdue, -, rfl⟩, built, hbuilt, rfl, rfl⟩ := hevaluate
        rw [mapAll_ok_iff] at hbuilt
        refine ⟨dueEvaluate_ok hlaw hdue, fun envelope henvelope => ?_, fun t ht => .inr ?_, next,
          hnext, hrevision, le_rfl, fun _ _ => ⟨rfl, fun t through ht hafter hthrough hle => ?_⟩⟩
        · obtain ⟨t, ht, hmade⟩ := exists_left_of_mem hbuilt henvelope
          obtain ⟨hscope, horigin, hid, -⟩ := buildScheduleInvocation_ok hmade
          exact ⟨hscope.trans hkey.symm, t, ht, horigin, hid⟩
        · obtain ⟨envelope, henvelope, hmade⟩ := exists_right_of_mem hbuilt ht
          exact ⟨envelope, henvelope, (buildScheduleInvocation_ok hmade).2.1⟩
        · exact hreselects state _ through t hstate (hcursor ▸ hdue) hthrough (hadmitted t ht)
            (hcursor ▸ hafter) hle

/-- What has been admitted after an admission. -/
theorem admitInvocation_ok
    (h : admitInvocation codec s.invocations envelope = .ok (replayed, invocations)) :
    (∀ record ∈ s.invocations.byInvocation.rows, record ∈ invocations.byInvocation.rows) ∧
      (∀ record ∈ invocations.byInvocation.rows, record ∈ s.invocations.byInvocation.rows ∨
        (replayed = false ∧ record.envelope = envelope)) ∧
      ∃ record ∈ invocations.byInvocation.rows, record.envelope = envelope := by
  simp only [admitInvocation, ok_rules, Prod.mk.injEq] at h
  obtain ⟨-, ⟨⟨record, found⟩, store⟩, hadmission, rfl, rfl⟩ := h
  obtain ⟨hnew, ⟨rfl, hfound⟩ | ⟨hfirst, hfresh, -, rfl⟩⟩ :=
    InvocationStore.admitEnvelope_ok hadmission
  · exact ⟨fun _ h => h, fun _ h => .inl h, record, (get?_eq_some_iff.1 hfound).1,
      InvocationStore.new_ok hnew⟩
  · have henvelope := InvocationStore.new_ok hnew
    refine ⟨fun other hother => mem_insert.2 (.inr ⟨hother, fun heq => ?_⟩),
      fun other hother => ?_, record, mem_insert.2 (.inl rfl), henvelope⟩
    · exact get?_eq_none_iff.1 hfresh other hother heq
    · rcases mem_insert.1 hother with rfl | ⟨hother, -⟩
      · exact .inr ⟨hfirst, henvelope⟩
      · exact .inl hother

/-- What has been admitted after an admission. -/
theorem admitted_after {s s' : ScheduleSystem} {envelope : AutomationInvocationEnvelope}
    {replayed : Bool}
    (h : admitInvocation codec s.invocations envelope = .ok (replayed, s'.invocations))
    (key : AutomationScheduleStateKey) (t : ℤ) :
    s'.Admitted key t ↔
      s.Admitted key t ∨ (envelope.scheduleKey = key ∧ envelope.origin = .dueTime t) := by
  obtain ⟨hkept, hnew, made, hmade, henvelope⟩ := admitInvocation_ok h
  constructor
  · rintro ⟨record, hrecord, hscope, horigin⟩
    rcases hnew record hrecord with hold | ⟨-, rfl⟩
    · exact .inl ⟨record, hold, hscope, horigin⟩
    · exact .inr ⟨hscope, horigin⟩
  · rintro (⟨record, hrecord, hscope, horigin⟩ | ⟨hscope, horigin⟩)
    · exact ⟨record, hkept record hrecord, hscope, horigin⟩
    · exact ⟨made, hmade, henvelope ▸ hscope, henvelope ▸ horigin⟩

theorem RecordsOk.after (h : RecordsOk codec s) (heffect : Effect s s')
    (hsame : s'.invocations = s.invocations) : RecordsOk codec s' := by
  intro record hrecord t ht
  obtain ⟨state, hstate, hid⟩ := h record (hsame ▸ hrecord) t ht
  obtain ⟨next, hnext, hprogress⟩ := heffect.progress _ _ hstate
  exact ⟨next, hnext, hprogress.revisionId ▸ hid⟩

theorem generation?_afterFind (request : AutomationScheduleDispatchRequest)
    (calculator : AutomationScheduleCalculator) (state : Option AutomationScheduleState) :
    (request.afterFind calculator state).generation? = none := by
  cases state with
  | none => rfl
  | some =>
    rw [afterFind]
    split_ifs <;> rfl

/-- A call that changes neither repository and decides nothing. -/
theorem Invariant.idle (h : Invariant codec s) (hworker : s.workers[number]? = some worker)
    (hown : WorkerOk codec s { worker with phase }) (hnone : phase.generation? = none) :
    Invariant codec { s with workers := s.workers.set number { worker with phase } } := by
  have heffect : Effect s { s with workers := s.workers.set number { worker with phase } } :=
    Effect.of_eq rfl rfl
  refine h.call hworker heffect rfl (h.records.after heffect rfl) (fun _ ha => .inl ha)
    (hown.after heffect fun _ _ _ _ ht => ht) (fun _ _ ht => .inl ht) fun g hg => ?_
  rw [hnone] at hg
  cases hg

/-- A call that changes the state of the schedule and finishes. -/
theorem Invariant.settle (h : Invariant codec s) (hworker : s.workers[number]? = some worker)
    (hstate : s.states.get? worker.request.key = some state) (hkey : next.key = worker.request.key)
    (hstates : states = s.states.insert next) (hprogress : Progress state next)
    {advances : List CursorAdvance}
    {answer : Except ApplicationError AutomationScheduleDispatchResult}
    (hadvances : ∀ advance ∈ advances, advance ∈ s.advances ∨
      Agrees ⟨states, s.invocations, s.workers.set number ⟨worker.request, .finished answer⟩,
        advances⟩ advance) :
    Invariant codec ⟨states, s.invocations,
      s.workers.set number ⟨worker.request, .finished answer⟩, advances⟩ := by
  have heffect : Effect s ⟨states, s.invocations,
      s.workers.set number ⟨worker.request, .finished answer⟩, advances⟩ :=
    Effect.of_states hstate hkey hstates hprogress rfl
  exact h.call hworker heffect rfl (h.records.after heffect rfl) hadvances trivial
    (fun _ _ ht => .inl ht) fun g hg => by cases hg

theorem Invariant.release (h : Invariant codec s) (hworker : s.workers[number]? = some worker)
    (hrelease : s.states.releaseLease worker.request.key worker.request.ownerId
      worker.request.leaseId leaseGeneration worker.request.observedAt = .ok (next, states))
    (answer : Except ApplicationError AutomationScheduleDispatchResult) :
    Invariant codec ⟨states, s.invocations,
      s.workers.set number ⟨worker.request, .finished answer⟩, s.advances⟩ := by
  obtain ⟨state, hstate, hstates, hnext⟩ := ScheduleStates.releaseLease_ok hrelease
  refine h.settle hworker hstate ?_ hstates ?_ fun _ ha => .inl ha
  · rw [hnext]
    exact (get?_eq_some_iff.1 hstate).2
  · refine ⟨by rw [hnext], by rw [hnext], by rw [hnext], fun _ hsome => ?_⟩
    rw [hnext] at hsome
    cases hsome

theorem Invariant.reserve (h : Invariant codec s)
    (hworker : s.workers[number]? = some ⟨request, .reserve calculator⟩)
    (hreselects : s.Reselects request calculator)
    (hreserve : s.states.reserve request.key request.ownerId request.leaseId request.reservedAt
      request.leaseExpiresAt = .ok (next, states)) :
    Invariant codec ⟨states, s.invocations,
      s.workers.set number ⟨request, request.afterReserve codec calculator next⟩, s.advances⟩ := by
  obtain ⟨state, lease, hstate, rfl, rfl⟩ := ScheduleStates.reserve_ok hreserve
  obtain ⟨hlaw, hkey, bound, hbound, hrevision⟩ := h.workers number _ hworker
  cases hstate.symm.trans hbound
  set next : AutomationScheduleState := { state with
    leaseGeneration := state.leaseGeneration + 1, lease := some lease,
    updatedAt := canonicalTimestamp request.reservedAt }
  have hsame : next.key = request.key := (get?_eq_some_iff.1 hstate).2
  have hprogress : Progress state next :=
    ⟨rfl, Nat.le_succ _, le_rfl, fun heq _ => absurd heq (Nat.succ_ne_self _)⟩
  have heffect : Effect s ⟨s.states.insert next, s.invocations,
      s.workers.set number ⟨request, request.afterReserve codec calculator next⟩, s.advances⟩ :=
    Effect.of_states hstate hsame rfl hprogress rfl
  refine h.call hworker heffect rfl (h.records.after heffect rfl) (fun _ ha => .inl ha)
    (workerOk_afterReserve hlaw hkey hstate rfl ?_ hrevision (fun _ ht => ht) hreselects)
    (fun _ _ ht => .inl ht) fun g hg => .inr fun found hfound => ?_
  · exact (get?_insert _ _ _).trans (if_pos hsame.symm)
  · cases hstate.symm.trans hfound
    rw [generation?_afterReserve hg]
    exact Nat.lt_succ_self _

theorem Invariant.commit (h : Invariant codec s) {through : ℤ}
    (hworker : s.workers[number]? = some ⟨request, .commit leaseGeneration cursor evaluation through
      admitted alreadyAdmitted⟩)
    (hcommit : s.states.commitCursor request.key request.ownerId request.leaseId leaseGeneration
      through request.observedAt = .ok (next, states))
    (answer : Except ApplicationError AutomationScheduleDispatchResult) :
    Invariant codec ⟨states, s.invocations, s.workers.set number ⟨request, .finished answer⟩,
      s.advances ++ [⟨request.key, request.revision.spec.definition.policy.misfire.mode, cursor,
        through, evaluation.selection⟩]⟩ := by
  obtain ⟨state, hstate, hstates, hgeneration, hlease, hnext⟩ :=
    ScheduleStates.commitCursor_ok hcommit
  obtain ⟨hdecided, hthrough⟩ := h.workers number _ hworker
  obtain ⟨found, hfound, -, -, hcurrent⟩ := hdecided.state
  cases hstate.symm.trans hfound
  obtain ⟨hcursor, hselected⟩ := hcurrent hgeneration hlease
  obtain ⟨hforward, hcanonical⟩ := hdecided.covers.advances through hthrough
  have hsame : next.key = request.key := by
    rw [hnext]
    exact (get?_eq_some_iff.1 hstate).2
  have hpassed : next.cursorAt = through := by
    rw [hnext]
    exact hcanonical
  have hprogress : Progress state next := by
    refine ⟨by rw [hnext], by rw [hnext], by omega, fun _ hsome => ?_⟩
    rw [hnext] at hsome
    cases hsome
  have hinside : ∀ t, (∃ last, evaluation.evaluatedThrough = some last ∧ t ≤ last) → t ≤ through := by
    rintro t ⟨last, hlast, hle⟩
    cases hthrough.symm.trans hlast
    exact hle
  refine h.settle hworker hstate hsame hstates hprogress fun advance hadvance => ?_
  rcases mem_append.1 hadvance with hold | hnew
  · exact .inl hold
  · rw [mem_singleton] at hnew
    subst hnew
    refine .inr ⟨⟨next, ?_, hpassed.ge⟩, fun t ht => ?_, fun t ht => ?_,
      hdecided.covers.atMostOne, fun t hafter hle => ⟨fun ht => ?_, fun ht => ?_⟩⟩
    · rw [hstates, get?_insert, if_pos hsame.symm]
    · exact ⟨(hdecided.covers.selected t ht).1, hinside t (hdecided.covers.selected t ht).2⟩
    · obtain ⟨hnot, hafter, hlast⟩ := hdecided.covers.skipped t ht
      exact ⟨hnot, hafter, hinside t hlast⟩
    · exact hselected t through ht hafter hthrough hle
    · rcases hdecided.done t ht with hdone | ⟨_, hmem, -⟩
      · exact hdone
      · cases hmem

theorem Invariant.admission (h : Invariant codec s) {rest : List AutomationInvocationEnvelope}
    (hworker : s.workers[number]? = some ⟨request, .admitNext leaseGeneration cursor evaluation envelope
      rest admitted alreadyAdmitted⟩)
    (hadmission : admitInvocation codec s.invocations envelope = .ok (replayed, invocations))
    (hholds : replayed = false → s.HoldsLease request.key leaseGeneration) (m n : ℕ) :
    Invariant codec ⟨s.states, invocations, s.workers.set number
      ⟨request, admitting leaseGeneration cursor evaluation m n rest⟩, s.advances⟩ := by
  set s' : ScheduleSystem := ⟨s.states, invocations, s.workers.set number
    ⟨request, admitting leaseGeneration cursor evaluation m n rest⟩, s.advances⟩
  have hafter := @admitted_after codec s s' envelope replayed hadmission
  have hdecided : Decided codec s request leaseGeneration cursor evaluation (envelope :: rest) :=
    h.workers number _ hworker
  obtain ⟨hscope, own, hown, horigin, hid⟩ := hdecided.envelopes envelope mem_cons_self
  obtain ⟨state, hstate, hrevision, hgeneration, hcurrent⟩ := hdecided.state
  -- Nothing but the one occurrence is new, and it is admitted under the lease.
  have hnew : ∀ key t, s'.Admitted key t → s.Admitted key t ∨
      (key = request.key ∧ t = own ∧ s.HoldsLease request.key leaseGeneration) := by
    rintro key t ⟨record, hrecord, hkey, hdue⟩
    rcases (admitInvocation_ok hadmission).2.1 record hrecord with hold | ⟨hfirst, rfl⟩
    · exact .inl ⟨record, hold, hkey, hdue⟩
    · rw [horigin, AutomationInvocationOrigin.dueTime.injEq] at hdue
      exact .inr ⟨hkey.symm.trans hscope, hdue.symm, hholds hfirst⟩
  have heffect : Effect s s' := by
    refine ⟨fun key old hold => ⟨old, hold, Progress.refl old⟩,
      fun key t ht => (hafter key t).2 (.inl ht), fun key t ht => ?_⟩
    rcases hnew key t ht with hold | ⟨rfl, rfl, found, hfound, hsame, hlease⟩
    · exact .inl hold
    · refine .inr fun other hother => ?_
      cases hfound.symm.trans hother
      cases hstate.symm.trans hfound
      exact (hcurrent hsame.symm hlease).1 ▸ (hdecided.covers.selected t hown).1
  have hrecords : RecordsOk codec s' := by
    intro record hrecord t ht
    rcases (admitInvocation_ok hadmission).2.1 record hrecord with hold | ⟨-, rfl⟩
    · exact h.records record hold t ht
    · cases horigin.symm.trans ht
      exact ⟨state, hscope ▸ hstate, hrevision ▸ hid⟩
  refine h.call hworker heffect rfl hrecords (fun _ ha => .inl ha)
    (workerOk_admitting m n ⟨hdecided.covers,
      fun other hother => hdecided.envelopes other (mem_cons_of_mem _ hother), fun t ht => ?_,
      state, hstate, hrevision, hgeneration, fun hsame hlease =>
        ⟨(hcurrent hsame hlease).1, fun t through ht => ?_⟩⟩)
    (fun key t ht => ?_) fun g hg => .inl ?_
  · rcases hdecided.done t ht with hdone | ⟨other, hother, hdue⟩
    · exact .inl (heffect.kept _ _ hdone)
    · rcases mem_cons.1 hother with rfl | hother
      · exact .inl ((hafter _ _).2 (.inr ⟨hscope, hdue⟩))
      · exact .inr ⟨other, hother, hdue⟩
  · rcases hnew request.key t ht with hold | ⟨-, rfl, -⟩
    · exact (hcurrent hsame hlease).2 t through hold
    · exact fun _ _ _ => hown
  · rcases hnew key t ht with hold | ⟨rfl, -, hheld⟩
    · exact .inl hold
    · exact .inr ⟨rfl, leaseGeneration, rfl, hheld⟩
  · rw [generation?_admitting hg]
    rfl

/-- A step that touches no worker and admits no occurrence. -/
theorem Invariant.outside (h : Invariant codec s) (heffect : Effect s s')
    (hrecords : RecordsOk codec s') (hworkers : s'.workers = s.workers)
    (hadvances : s'.advances = s.advances)
    (hadmitted : ∀ key t, s'.Admitted key t → s.Admitted key t) : Invariant codec s' := by
  refine ⟨hrecords, fun advance ha => (h.advances advance (hadvances ▸ ha)).after heffect,
    fun number worker hworker => ?_, ?_⟩
  · exact (h.workers number worker (hworkers ▸ hworker)).after heffect
      fun _ _ _ t ht => hadmitted _ t ht
  · rw [hworkers]
    exact h.unique

theorem Invariant.create (h : Invariant codec s) (state : AutomationScheduleState) :
    Invariant codec { s with states := Runs.afterResult s.states (s.states.create state) } := by
  refine Runs.afterResult_of (P := fun states => Invariant codec { s with states }) h ?_
  intro made states hcreate
  simp only [ScheduleStates.create, ok_rules, not_or, Option.not_isSome_iff_eq_none,
    Prod.mk.injEq] at hcreate
  obtain ⟨-, ⟨hfresh, -⟩, rfl, rfl⟩ := hcreate
  have heffect : Effect s { s with states := s.states.insert state } := by
    refine ⟨fun key old hold => ⟨old, ?_, Progress.refl old⟩, fun _ _ ht => ht,
      fun _ _ ht => .inl ht⟩
    refine (get?_insert _ _ _).trans ((if_neg ?_).trans hold)
    rintro rfl
    rw [hfresh] at hold
    cases hold
  exact h.outside heffect (h.records.after heffect rfl) rfl rfl fun _ _ ht => ht

theorem Invariant.start (h : Invariant codec s) (hcalendar : calendar.Lawful)
    (request : AutomationScheduleDispatchRequest) :
    Invariant codec
      { s with workers := s.workers ++ [⟨request, request.start codec calendar⟩] } := by
  set worker : DispatchWorker := ⟨request, request.start codec calendar⟩
  have hnone : worker.phase.generation? = none := by
    change (request.start codec calendar).generation? = none
    rw [AutomationScheduleDispatchRequest.start]
    split <;> rfl
  have hown : WorkerOk codec s worker := by
    change WorkerOk codec s ⟨request, request.start codec calendar⟩
    rw [AutomationScheduleDispatchRequest.start]
    cases hprepare : request.prepare codec calendar with
    | error => trivial
    | ok =>
      simp only [AutomationScheduleDispatchRequest.prepare, AutomationScheduleCalculator.new,
        ok_rules, ne_eq, not_not] at hprepare
      obtain ⟨-, -, -, trigger, -, -, -, -, -, made, ⟨-, hparse⟩, hkey, rfl⟩ := hprepare
      exact ⟨hcalendar trigger made hparse, hkey⟩
  have hmem : ∀ (number : ℕ) w, (s.workers ++ [worker])[number]? = some w →
      s.workers[number]? = some w ∨ w = worker := by
    intro number w hw
    rw [getElem?_append] at hw
    split_ifs at hw
    · exact .inl hw
    · exact .inr (mem_singleton.1 (mem_of_getElem? hw))
  have heffect : Effect s { s with workers := s.workers ++ [worker] } := Effect.of_eq rfl rfl
  refine ⟨h.records, fun advance ha => (h.advances advance ha).after heffect, fun number w hw => ?_,
    fun i j w w' g hi hj hkey hg hg' => ?_⟩
  · refine WorkerOk.after heffect ?_ fun _ _ _ _ ht => ht
    exact (hmem number w hw).elim (h.workers number w) fun heq => heq ▸ hown
  · rcases hmem i w hi with hi | rfl
    · rcases hmem j w' hj with hj | rfl
      · exact h.unique i j w w' g hi hj hkey hg hg'
      · rw [hnone] at hg'
        cases hg'
    · rw [hnone] at hg
      cases hg

theorem Invariant.admitEvent (h : Invariant codec s) (hevent : envelope.origin.isDueTime = false)
    (hadmission : admitInvocation codec s.invocations envelope = .ok (replayed, invocations)) :
    Invariant codec { s with invocations } := by
  have hdue : ∀ t, envelope.origin ≠ .dueTime t := by
    intro t ht
    rw [ht] at hevent
    cases hevent
  have hafter := @admitted_after codec s { s with invocations } envelope replayed hadmission
  have hsame : ∀ key t, Admitted { s with invocations } key t ↔ s.Admitted key t := by
    intro key t
    rw [hafter]
    exact ⟨fun hboth => hboth.elim id fun hnew => absurd hnew.2 (hdue t), .inl⟩
  have heffect : Effect s { s with invocations } :=
    ⟨fun _ old hold => ⟨old, hold, Progress.refl old⟩, fun key t => (hsame key t).2,
      fun key t ht => .inl ((hsame key t).1 ht)⟩
  refine h.outside heffect (fun record hrecord t ht => ?_) rfl rfl fun key t => (hsame key t).1
  rcases (admitInvocation_ok hadmission).2.1 record hrecord with hold | ⟨-, rfl⟩
  · exact h.records record hold t ht
  · exact absurd ht (hdue t)

theorem Invariant.step (hcalendar : calendar.Lawful) (s : ScheduleSystem) (action : Action)
    (h : Invariant codec s) (hfenced : s.Fenced codec action) :
    Invariant codec (s.step codec calendar action) := by
  cases action with
  | create state => exact h.create state
  | start request => exact h.start hcalendar request
  | admitEvent envelope =>
    rw [ScheduleSystem.step]
    split_ifs with hdue
    · exact h
    · cases hadmission : admitInvocation codec s.invocations envelope with
      | error => exact h
      | ok => exact h.admitEvent (Bool.eq_false_iff.2 hdue) hadmission
  | call number =>
    rw [ScheduleSystem.step]
    cases hworker : s.workers[number]? with
    | none => exact h
    | some worker =>
      have hcondition := hfenced worker hworker
      have hok := h.workers number worker hworker
      obtain ⟨request, phase⟩ := worker
      cases phase with
      | find calculator =>
        refine h.idle hworker ?_ ?_
        · cases hstate : s.states.get? request.key with
          | none => trivial
          | some state =>
            change WorkerOk codec s ⟨request, request.afterFind calculator (some state)⟩
            rw [afterFind]
            split_ifs with hbound
            · trivial
            · rw [not_or, not_not] at hbound
              exact ⟨hok.1, hok.2, state, hstate, hbound.1⟩
        · exact generation?_afterFind request calculator _
      | reserve =>
        simp only [ScheduleSystem.call]
        cases hreserve : s.states.reserve request.key request.ownerId request.leaseId
          request.reservedAt request.leaseExpiresAt with
        | error => exact h.idle hworker trivial rfl
        | ok => exact h.reserve hworker (hcondition _ hreserve) hreserve
      | admitNext leaseGeneration cursor evaluation envelope =>
        simp only [ScheduleSystem.call]
        cases hadmission : admitInvocation codec s.invocations envelope with
        | error => exact h.idle hworker trivial rfl
        | ok result =>
          refine h.admission hworker hadmission (fun hfirst => hcondition result.2 ?_) _ _
          rw [hadmission, ← hfirst]
      | commit leaseGeneration cursor evaluation through =>
        simp only [ScheduleSystem.call]
        cases hcommit : s.states.commitCursor request.key request.ownerId request.leaseId
          leaseGeneration through request.observedAt with
        | error => exact h.idle hworker trivial rfl
        | ok => exact h.commit hworker hcommit _
      | release leaseGeneration =>
        simp only [ScheduleSystem.call]
        cases hrelease : s.states.releaseLease request.key request.ownerId request.leaseId
          leaseGeneration request.observedAt with
        | error => exact h.idle hworker trivial rfl
        | ok => exact h.release hworker hrelease _
      | finished => exact h.idle hworker trivial rfl

/-! ### The theorem -/

/-- Every committed advance has admitted what it selected and nothing else, and no occurrence has
been admitted twice. -/
def FiresSelection (s : ScheduleSystem) : Prop :=
  (∀ advance ∈ s.advances,
    (∀ t ∈ advance.selection.selected, advance.start < t ∧ t ≤ advance.through) ∧
    (∀ t, advance.start < t → t ≤ advance.through →
      (s.Admitted advance.key t ↔ t ∈ advance.selection.selected)) ∧
    (∀ t ∈ advance.selection.skipped, ¬ s.Admitted advance.key t) ∧
    (advance.mode ≠ .skip → ∀ t t', advance.start < t → t ≤ advance.through →
      advance.start < t' → t' ≤ advance.through → s.Admitted advance.key t →
      s.Admitted advance.key t' → t = t')) ∧
  ∀ record ∈ s.invocations.byInvocation.rows, ∀ other ∈ s.invocations.byInvocation.rows, ∀ t,
    record.envelope.scheduleKey = other.envelope.scheduleKey →
    record.envelope.origin = .dueTime t → other.envelope.origin = .dueTime t → record = other

theorem Invariant.firesSelection (h : Invariant codec s) : s.FiresSelection := by
  refine ⟨fun advance ha => ?_, fun record hrecord other hother t hkey ht ht' => ?_⟩
  · have hagrees := h.advances advance ha
    refine ⟨hagrees.selected, hagrees.exact, fun t ht hadmitted => ?_,
      fun hmode t t' hafter hle hafter' hle' hadmitted hadmitted' => ?_⟩
    · obtain ⟨hnot, hafter, hle⟩ := hagrees.skipped t ht
      exact hnot ((hagrees.exact t hafter hle).1 hadmitted)
    · have hmem := (hagrees.exact t hafter hle).1 hadmitted
      have hmem' := (hagrees.exact t' hafter' hle').1 hadmitted'
      exact eq_of_length_le_one (hagrees.atMostOne hmode) hmem hmem'
  · -- Both are recorded under the identity of the occurrence.
    obtain ⟨state, hstate, hid⟩ := h.records record hrecord t ht
    obtain ⟨state', hstate', hid'⟩ := h.records other hother t ht'
    rw [hkey] at hstate
    cases hstate.symm.trans hstate'
    refine s.invocations.byInvocation.eq_of_key_eq hrecord hother (Prod.ext ?_ ?_)
    · exact congrArg AutomationScheduleStateKey.organizationId hkey
    · exact hid.trans hid'.symm

/-- In a run in which every new admission is made under the lease of its worker and every worker that
is given a lease selects again what others have admitted, each committed advance has fired what it
selected. -/
theorem firesSelection_of_fenced (hcalendar : calendar.Lawful) {actions : List Action}
    (hfenced : Runs.Allowed (step codec calendar) (Fenced codec) empty actions) :
    (Runs.run (step codec calendar) empty actions).FiresSelection := by
  have hinit : Invariant codec empty := invariant_empty
  exact (Runs.invariant (Invariant.step hcalendar) hinit hfenced).firesSelection

/-- Whether no occurrence after the cursor has been admitted when a lease is reserved, and the lease
is held when an occurrence is admitted. -/
def settledCall (s : ScheduleSystem) : Action → Bool
  | .call number =>
    match s.workers[number]? with
    | some ⟨request, .reserve _⟩ => (s.states.get? request.key).all fun state =>
        s.invocations.byInvocation.rows.all fun record =>
          match record.envelope.origin with
          | .dueTime t => t ≤ state.cursorAt
          | .event .. => true
    | some ⟨request, .admitNext leaseGeneration ..⟩ => (s.states.get? request.key).any fun state =>
        state.leaseGeneration = leaseGeneration && state.lease.isSome
    | _ => true
  | _ => true

theorem fenced_of_settledCall {action : Action} (h : s.settledCall action = true) :
    s.Fenced codec action := by
  cases action with
  | create | start | admitEvent => trivial
  | call =>
    rintro ⟨request, phase⟩ hworker
    rw [settledCall, hworker] at h
    cases phase with
    | reserve =>
      intro _ _ state evaluation through t hstate hdue hthrough hadmitted hafter
      obtain ⟨record, hrecord, -, horigin⟩ := hadmitted
      simp only [hstate, Option.all_some, all_eq_true] at h
      have hle := h record hrecord
      rw [horigin] at hle
      exact absurd hafter (not_lt.2 (of_decide_eq_true hle))
    | admitNext =>
      cases hstate : s.states.get? request.key with
      | none => simp [hstate] at h
      | some state =>
        simp only [hstate, Option.any_some, Bool.and_eq_true, decide_eq_true_eq] at h
        exact fun _ _ => ⟨state, hstate, h⟩
    | find | commit | release | finished => trivial

/-- The instants of the sample calendar. -/
theorem everySecond_lawful : everySecond.Lawful where
  increasing start count := by
    rw [everySecond, pairwise_map]
    refine pairwise_lt_range.imp fun {i j} hij => ?_
    have hcast : (i : ℤ) < j := by exact_mod_cast hij
    omega
  after start count t ht := by
    obtain ⟨i, -, rfl⟩ := mem_map.1 ht
    omega
  seconds start count t ht := by
    obtain ⟨i, -, rfl⟩ := mem_map.1 ht
    omega

theorem calendar_lawful : Sample.calendar.Lawful := by
  intro trigger calculator h
  cases h
  exact everySecond_lawful

/-- Two dispatches one after the other. -/
def twoDispatches : List Action :=
  dispatchTwice scheduledTemplate ++ [.call 1, .call 1]

/-- Both dispatches commit, and neither leaves an admitted occurrence behind its commit. -/
theorem twoDispatches_settled :
    (Runs.run (step automationCodec Sample.calendar) empty twoDispatches).advances.length =
        2 ∧
      Runs.Allowed (step automationCodec Sample.calendar)
        (fun s action => s.settledCall action = true) empty twoDispatches := by
  decide +kernel

theorem firesSelection_of_fenced_twoDispatches :
    (Runs.run (step automationCodec Sample.calendar) empty twoDispatches).advances.length =
        2 ∧
      (Runs.run (step automationCodec Sample.calendar) empty twoDispatches).FiresSelection :=
  ⟨twoDispatches_settled.1, firesSelection_of_fenced calendar_lawful
    (Runs.Allowed.mono (fun _ _ => fenced_of_settledCall) twoDispatches_settled.2)⟩

/-- The first worker dies after it has admitted the occurrence at one second; the second one takes
over two seconds later. -/
def takeover : List Action :=
  [.create scheduleState,
    .start (dispatchRequest scheduledTemplate 21 (seconds 1)),
    .call 0, .call 0, .call 0,
    .start (dispatchRequest scheduledTemplate 22 (seconds 3)),
    .call 1, .call 1, .call 1, .call 1]

/-- The second worker fires the latest occurrence and commits that the first one was skipped. -/
theorem takeover_admits_skipped :
    Sample.calendar.Lawful ∧ (observations takeover).Pairwise (· ≤ ·) ∧
      ¬ (Runs.run (step automationCodec Sample.calendar) empty takeover).FiresSelection := by
  refine ⟨calendar_lawful, by decide +kernel, fun h => ?_⟩
  have hboth : ∃ advance ∈
      (Runs.run (step automationCodec Sample.calendar) empty takeover).advances,
      ∃ t ∈ advance.selection.skipped,
        (Runs.run (step automationCodec Sample.calendar) empty takeover).Admitted
          advance.key t := by
    decide +kernel
  obtain ⟨advance, hadvance, t, hskipped, hadmitted⟩ := hboth
  exact (h.1 advance hadvance).2.2.1 t hskipped hadmitted

end ScheduleSystem

end A3SCloud
