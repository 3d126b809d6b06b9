import A3SCloud.Automations.Sample

/-!
# Distinct triggers

Whether two triggers of one revision get different deduplication keys decides whether the admission
repository keeps them apart, and whether a dispatch gets past the occurrences it has admitted before.
Event triggers always do: their template has to bind the event. The check of a schedule's template
does not ask for the occurrence.

* `key_eq_iff`: two envelopes of one revision share their key if and only if the definition does not
  bind its trigger.
* `ScheduleSystem.PendingValid` and `ScheduleSystem.consistent_run` hold in every run of the dispatch
  system.
-/

namespace A3SCloud

open Checks List AutomationInvocationEnvelope AutomationInvocationRecord
  AutomationScheduleDispatchRequest DispatchPhase InvocationStore Runs ScheduleSystem

variable {codec : AutomationCodec}

/-! ### Envelopes of one revision -/

/-- What an envelope of a revision takes from it. -/
structure AutomationInvocationEnvelope.Of (codec : AutomationCodec) (revision : AutomationRevision)
    (envelope : AutomationInvocationEnvelope) : Prop where
  valid : envelope.validate codec = .ok ()
  revisionValid : revision.validate codec = .ok ()
  automationId : envelope.automationId = revision.spec.definition.automationId
  organizationId : envelope.organizationId = revision.spec.definition.organizationId
  origin : originMatches revision.spec.definition.trigger envelope.origin = true
  key : revision.spec.definition.policy.deduplication.renderKey codec
    revision.spec.definition.automationId revision.spec.revisionId envelope.origin
    (revision.spec.definition.trigger.subscription.map (·.subscriptionId)) =
      .ok envelope.deduplicationKey

variable {envelope : AutomationInvocationEnvelope} {revision : AutomationRevision}

theorem AutomationInvocationEnvelope.of_validateForRevision
    (h : envelope.validateForRevision codec revision = .ok ()) : envelope.Of codec revision := by
  simp only [validateForRevision, ok_rules, not_or, ne_eq, not_not] at h
  obtain ⟨hvalid, hrevision, ⟨hautomation, hid, -, horganization, -, -, -⟩, hsubscription, horigin,
    key, hkey, rfl, -⟩ := h
  rw [hautomation, hid, hsubscription] at hkey
  exact ⟨hvalid, hrevision, hautomation, horganization, horigin, hkey⟩

/-- Two envelopes of one revision with different triggers share their key if and only if the
definition does not bind its trigger. -/
theorem key_eq_iff (hlaw : codec.Lawful)
    {other : AutomationInvocationEnvelope} (h : envelope.Of codec revision)
    (h' : other.Of codec revision) (hdistinct : envelope.origin.Distinct other.origin) :
    envelope.deduplicationKey = other.deduplicationKey ↔
      ¬ revision.spec.definition.BindsTrigger := by
  rw [← not_iff_not, not_not]
  exact Deduplication.renderKey_ne_iff hlaw (AutomationRevision.definition_of_validate h.revisionValid)
    h.origin h'.origin hdistinct h.key h'.key

/-- An envelope that passes its check has a record. -/
theorem exists_record (h : envelope.validate codec = .ok ()) :
    ∃ record, new codec envelope = .ok record := by
  have hdigest : ∃ digest, codec.envelopeDigest envelope = .ok digest := by
    simp only [validate, ok_rules] at h
    obtain ⟨-, -, -, -, -, -, -, -, -, -, -, -, -, -, -, -, -, -, digest, hdigest, -⟩ := h
    exact ⟨digest, hdigest⟩
  obtain ⟨digest, hdigest⟩ := hdigest
  refine ⟨⟨envelope, digest⟩, ?_⟩
  simp only [new, AutomationInvocationEnvelope.digest, ok_rules]
  exact ⟨h, digest, ⟨h, hdigest⟩, rfl⟩

/-- An admission under a new identity is refused because of an earlier envelope of its revision with
another trigger if and only if the definition does not bind its trigger. -/
theorem admitEnvelope_refused_iff (hlaw : codec.Lawful) {store : InvocationStore}
    (hstore : store.Consistent)
    {earlier : AutomationInvocationRecord} (hearlier : earlier ∈ store.byInvocation.rows)
    (hof : earlier.envelope.Of codec revision) (hof' : envelope.Of codec revision)
    (hdistinct : earlier.envelope.origin.Distinct envelope.origin)
    (hfresh : store.byInvocation.get? (envelope.organizationId, envelope.invocationId) = none) :
    store.admitEnvelope codec envelope =
        .error (keyBound codec earlier.envelope.invocationId) ↔
      ¬ revision.spec.definition.BindsTrigger := by
  obtain ⟨record, hnew⟩ := exists_record hof'.valid
  have henvelope := new_ok hnew
  have hkey : record.key = (envelope.organizationId, envelope.invocationId) := by
    rw [AutomationInvocationRecord.key, henvelope]
  rw [admitEnvelope_bound_iff hlaw hstore hearlier hnew (hkey ▸ hfresh)
    (by rw [henvelope, hof.organizationId, hof'.organizationId]), ← key_eq_iff hlaw hof hof' hdistinct,
    AutomationInvocationRecord.deduplicationKey, AutomationInvocationRecord.deduplicationKey,
    henvelope, hof.organizationId, hof'.organizationId, hof.automationId, hof'.automationId]
  simp

/-! ### Runs of the dispatch -/

namespace DispatchPhase

def pending : DispatchPhase → List AutomationInvocationEnvelope
  | admitNext _ _ _ envelope rest _ _ => envelope :: rest
  | _ => []

variable {envelope : AutomationInvocationEnvelope}

theorem of_pending {phase : DispatchPhase} {rest : List AutomationInvocationEnvelope}
    (h : phase.pending = envelope :: rest) :
    ∃ leaseGeneration cursor evaluation m n,
      phase = .admitNext leaseGeneration cursor evaluation envelope rest m n := by
  cases phase with
  | admitNext leaseGeneration cursor evaluation first others m n =>
    obtain ⟨rfl, rfl⟩ := cons.inj h
    exact ⟨leaseGeneration, cursor, evaluation, m, n, rfl⟩
  | find | reserve | commit | release | finished => cases h

/-- The error with which the dispatch ends. -/
def failure? : DispatchPhase → Option ApplicationError
  | release _ _ (.error e) => some e
  | finished (.error e) => some e
  | _ => none

theorem mem_pending_admitting {leaseGeneration : ℕ} {cursor : ℤ}
    {evaluation : AutomationScheduleDueEvaluation} {m n : ℕ}
    {envelopes : List AutomationInvocationEnvelope}
    (h : envelope ∈ (admitting leaseGeneration cursor evaluation
      m n envelopes).pending) : envelope ∈ envelopes := by
  cases envelopes with
  | cons => exact h
  | nil =>
    rw [admitting,
      afterAdmissions] at h
    split at h <;> cases h

theorem failure?_admitting (leaseGeneration : ℕ) (cursor : ℤ)
    (evaluation : AutomationScheduleDueEvaluation) (m n : ℕ)
    (envelopes : List AutomationInvocationEnvelope) :
    (admitting leaseGeneration cursor evaluation m n
      envelopes).failure? = none := by
  cases envelopes with
  | cons => rfl
  | nil =>
    rw [admitting,
      afterAdmissions]
    split <;> rfl

end DispatchPhase

namespace ScheduleSystem

variable {calendar : Calendar}

/-- What the workers are about to admit belongs to their revision. -/
def PendingValid (codec : AutomationCodec) (s : ScheduleSystem) : Prop :=
  ∀ worker ∈ s.workers, ∀ envelope ∈ worker.phase.pending,
    envelope.Of codec worker.request.revision

variable {envelope : AutomationInvocationEnvelope} {s : ScheduleSystem} {worker : DispatchWorker}

theorem mem_pending_afterReserve {request : AutomationScheduleDispatchRequest}
    {calculator : AutomationScheduleCalculator} {reserved : AutomationScheduleState}
    (h : envelope ∈ (request.afterReserve codec calculator reserved).pending) :
    envelope.Of codec request.revision := by
  rw [afterReserve] at h
  split at h
  · cases h
  · split_ifs at h
    · split at h <;> cases h
    · split at h
      · cases h
      · rename_i evaluation envelopes hevaluate
        have hmem := mem_pending_admitting h
        simp only [evaluate, ok_rules, Prod.mk.injEq, mapAll_ok_iff] at hevaluate
        obtain ⟨made, -, built, hbuilt, -, rfl⟩ := hevaluate
        obtain ⟨t, -, hmade⟩ := exists_left_of_mem hbuilt hmem
        exact of_validateForRevision
          (buildScheduleInvocation_ok hmade).2.2.2

theorem mem_pending_call (h : envelope ∈ (s.call codec worker).1.pending) :
    envelope.Of codec worker.request.revision ∨ envelope ∈ worker.phase.pending := by
  obtain ⟨request, phase⟩ := worker
  cases phase with
  | find =>
    simp only [call, afterFind] at h
    split at h
    · cases h
    · split_ifs at h <;> cases h
  | reserve =>
    simp only [call] at h
    split at h
    · cases h
    · exact .inl (mem_pending_afterReserve h)
  | admitNext =>
    simp only [call] at h
    split at h
    · cases h
    · exact .inr (mem_cons_of_mem _ (mem_pending_admitting h))
  | commit | release =>
    simp only [call] at h
    split at h <;> cases h
  | finished => cases h

theorem pendingValid_step (s : ScheduleSystem) (action : Action) (h : s.PendingValid codec) :
    (s.step codec calendar action).PendingValid codec := by
  cases action with
  | create => exact h
  | start =>
    intro worker hworker envelope henvelope
    rcases mem_append.1 hworker with hworker | hworker
    · exact h worker hworker envelope henvelope
    · rw [mem_singleton.1 hworker, AutomationScheduleDispatchRequest.start] at henvelope
      split at henvelope <;> cases henvelope
  | admitEvent =>
    rw [step]
    split_ifs
    · exact h
    · split <;> exact h
  | call number =>
    rw [step]
    cases hworker : s.workers[number]? with
    | none => exact h
    | some worker =>
      intro other hother envelope henvelope
      rcases mem_or_eq_of_mem_set hother with hother | rfl
      · exact h other hother envelope henvelope
      · rcases mem_pending_call henvelope with hof | hmem
        · exact hof
        · exact h worker (mem_of_getElem? hworker) envelope hmem

/-- The service admits what the repository admits. -/
theorem admitInvocation_store {invocations invocations' : InvocationStore} {replayed : Bool}
    (h : admitInvocation codec invocations envelope = .ok (replayed, invocations')) :
    invocations' = invocations.step codec envelope := by
  simp only [admitInvocation, ok_rules, Prod.mk.injEq] at h
  obtain ⟨-, ⟨result, store⟩, hadmission, -, rfl⟩ := h
  rw [InvocationStore.step, hadmission]
  rfl

theorem consistent_step (s : ScheduleSystem) (action : Action) (h : s.invocations.Consistent) :
    (s.step codec calendar action).invocations.Consistent := by
  cases action with
  | create | start => exact h
  | admitEvent envelope =>
    rw [step]
    split_ifs
    · exact h
    · split
      · exact h
      · rename_i hadmission
        exact admitInvocation_store hadmission ▸ h.step envelope
  | call number =>
    rw [step]
    cases hworker : s.workers[number]? with
    | none => exact h
    | some worker =>
      obtain ⟨request, phase⟩ := worker
      cases phase with
      | admitNext leaseGeneration cursor evaluation envelope rest m n =>
        simp only [call]
        split
        · exact h
        · rename_i hadmission
          exact admitInvocation_store hadmission ▸ h.step envelope
      | find => exact h
      | reserve | commit | release =>
        simp only [call]
        split <;> exact h
      | finished => exact h

/-- The dispatch of an occurrence fails because of an earlier one if and only if the definition does
not bind its trigger. -/
theorem call_blocked_iff (hlaw : codec.Lawful) (hstore : s.invocations.Consistent)
    (hpending : s.PendingValid codec) (hworker : worker ∈ s.workers)
    {rest : List AutomationInvocationEnvelope} (hnext : worker.phase.pending = envelope :: rest)
    {earlier : AutomationInvocationRecord} (hearlier : earlier ∈ s.invocations.byInvocation.rows)
    (hof : earlier.envelope.Of codec worker.request.revision)
    (hdistinct : earlier.envelope.origin.Distinct envelope.origin)
    (hfresh : s.invocations.byInvocation.get? (envelope.organizationId, envelope.invocationId) =
      none) :
    (s.call codec worker).1.failure? =
        some (.ofRepository (keyBound codec earlier.envelope.invocationId)) ↔
      ¬ worker.request.revision.spec.definition.BindsTrigger := by
  have hof' : envelope.Of codec worker.request.revision :=
    hpending worker hworker envelope (hnext ▸ mem_cons_self)
  rw [← admitEnvelope_refused_iff hlaw hstore hearlier hof hof' hdistinct hfresh]
  obtain ⟨record, hnew⟩ := exists_record hof'.valid
  have hkey : record.key = (envelope.organizationId, envelope.invocationId) := by
    rw [AutomationInvocationRecord.key, new_ok hnew]
  have hadmission := admitEnvelope_of_fresh hnew (hkey ▸ hfresh)
  obtain ⟨leaseGeneration, cursor, evaluation, m, n, hphase⟩ := of_pending hnext
  simp only [call, hphase, admitInvocation, hof'.valid]
  cases hbound : s.invocations.byDeduplication.get? record.deduplicationKey with
  | some =>
    rw [hbound] at hadmission
    simp [hadmission, Except.mapError, bind, Except.bind, failure?,
      keyBound, ApplicationError.ofRepository]
  | none =>
    rw [hbound] at hadmission
    simp only [hadmission, Except.mapError, bind, Except.bind, reduceCtorEq, iff_false]
    intro hfailed
    have hnone := failure?_admitting leaseGeneration cursor evaluation (m + 1) n rest
    cases hnone.symm.trans hfailed

end ScheduleSystem

/-! ### The theorem -/

/-- Two triggers of one definition get different keys, an admission is not refused because of an
earlier one of its revision with another trigger, and the dispatch of an occurrence is not blocked by
an earlier one of its schedule, if and only if the definition binds its trigger. -/
theorem triggers_apart_iff (hlaw : codec.Lawful) :
    (∀ (spec : AutomationDefinitionSpec) (o o' : AutomationInvocationOrigin)
        (automationId revisionId : Uuid) (subscriptionId : Option Uuid) (key key' : String),
      spec.validate = .ok () →
      originMatches spec.trigger o = true →
      originMatches spec.trigger o' = true → o.Distinct o' →
      spec.policy.deduplication.renderKey codec automationId revisionId o subscriptionId = .ok key →
      spec.policy.deduplication.renderKey codec automationId revisionId o' subscriptionId =
        .ok key' →
      (key ≠ key' ↔ spec.BindsTrigger)) ∧
    (∀ (revision : AutomationRevision) (envelopes : List AutomationInvocationEnvelope)
        (earlier : AutomationInvocationRecord) (envelope : AutomationInvocationEnvelope)
        (store : InvocationStore),
      store = run (InvocationStore.step codec) .empty envelopes →
      earlier ∈ store.byInvocation.rows →
      earlier.envelope.validateForRevision codec revision = .ok () →
      envelope.validateForRevision codec revision = .ok () →
      earlier.envelope.origin.Distinct envelope.origin →
      store.byInvocation.get? (envelope.organizationId, envelope.invocationId) = none →
      (store.admitEnvelope codec envelope =
          .error (keyBound codec earlier.envelope.invocationId) ↔
        ¬ revision.spec.definition.BindsTrigger)) ∧
    (∀ (calendar : Calendar) (actions : List ScheduleSystem.Action) (s : ScheduleSystem)
        (worker : DispatchWorker) (earlier : AutomationInvocationRecord)
        (envelope : AutomationInvocationEnvelope) (rest : List AutomationInvocationEnvelope),
      s = run (ScheduleSystem.step codec calendar) ScheduleSystem.empty actions →
      worker ∈ s.workers → worker.phase.pending = envelope :: rest →
      earlier ∈ s.invocations.byInvocation.rows →
      earlier.envelope.validateForRevision codec worker.request.revision = .ok () →
      earlier.envelope.origin.Distinct envelope.origin →
      s.invocations.byInvocation.get? (envelope.organizationId, envelope.invocationId) = none →
      ((s.call codec worker).1.failure? =
          some (.ofRepository (keyBound codec earlier.envelope.invocationId)) ↔
        ¬ worker.request.revision.spec.definition.BindsTrigger)) := by
  refine ⟨?_, ?_, ?_⟩
  · intro spec o o' automationId revisionId subscriptionId key key' hspec hmatch hmatch' hdistinct
    exact Deduplication.renderKey_ne_iff hlaw hspec hmatch hmatch' hdistinct
  · rintro revision envelopes earlier envelope store rfl hearlier hof hof' hdistinct hfresh
    have hstore : (run (InvocationStore.step codec) .empty envelopes).Consistent :=
      invariant_all (I := Consistent) (fun _ envelope h => h.step envelope)
        consistent_empty envelopes
    exact admitEnvelope_refused_iff hlaw hstore hearlier
      (of_validateForRevision hof)
      (of_validateForRevision hof') hdistinct hfresh
  · rintro calendar actions s worker earlier envelope rest rfl hworker hnext hearlier hof hdistinct
      hfresh
    have hstore : (run (ScheduleSystem.step codec calendar) ScheduleSystem.empty
        actions).invocations.Consistent :=
      invariant_all (I := fun s : ScheduleSystem => s.invocations.Consistent)
        consistent_step consistent_empty actions
    have hpending : (run (ScheduleSystem.step codec calendar) ScheduleSystem.empty
        actions).PendingValid codec :=
      invariant_all pendingValid_step (fun _ h => by cases h) actions
    exact call_blocked_iff hlaw hstore hpending hworker hnext hearlier
      (of_validateForRevision hof) hdistinct hfresh

/-! ### Samples -/

namespace Sample

theorem plain_unary {c : Char} (h : '{' ≠ c) (h' : '}' ≠ c) (n : ℕ) :
    Template.Plain (unary c n) :=
  ⟨fun hmem => h (eq_of_mem_replicate hmem), fun hmem => h' (eq_of_mem_replicate hmem)⟩

theorem timeText_injective {s t : ℤ} (hs : s % 1000000 = 0) (ht : t % 1000000 = 0)
    (h : timeText s = timeText t) : s = t := by
  have hcount : ∀ c, (timeText s).count c = (timeText t).count c := fun c => by rw [h]
  have hsign := hcount '-'
  have hseconds := hcount 's'
  have hmillis := hcount 'm'
  simp only [timeText, unary, count_append, count_replicate] at hsign hseconds hmillis
  split_ifs at hsign hseconds hmillis <;> simp_all <;> omega

theorem automationCodec_lawful : automationCodec.Lawful where
  uuidText id id' h := by
    have hlength := congrArg length (String.ofList_injective h)
    simpa [unary] using hlength
  timestampText s t hs ht h := timeText_injective hs ht (String.ofList_injective h)
  uuidPlain id := by
    change Template.Plain (String.ofList (unary 'u' id)).toList
    rw [String.toList_ofList]
    exact plain_unary (by decide) (by decide) id
  timestampPlain t := by
    change Template.Plain (String.ofList (timeText t)).toList
    rw [String.toList_ofList, timeText]
    have hs := plain_unary (c := 's') (by decide) (by decide) (t / 1000000000).natAbs
    have hm := plain_unary (c := 'm') (by decide) (by decide) (t / 1000000 % 1000).toNat
    simp only [Template.Plain, mem_append, not_or] at hs hm ⊢
    refine ⟨⟨⟨?_, hs.1⟩, hm.1⟩, ⟨⟨?_, hs.2⟩, hm.2⟩⟩ <;> split_ifs <;> decide

/-- The invocations of the occurrences at one second and at three seconds. -/
def firstInvocation (invocationId : Uuid) : AutomationInvocationEnvelope :=
  scheduleInvocation invocationId "automation/uuuu/revision/uuuuu/scheduled/s" (seconds 1)

def secondInvocation (invocationId : Uuid) : AutomationInvocationEnvelope :=
  scheduleInvocation invocationId "automation/uuuu/revision/uuuuu/scheduled/sss" (seconds 3)

theorem scheduled_keys_rendered :
    (scheduleDefinition scheduledTemplate).validate = .ok () ∧
      (scheduleDefinition scheduledTemplate).policy.deduplication.renderKey automationCodec 4 5
        (.dueTime (seconds 1)) none = .ok "automation/uuuu/revision/uuuuu/scheduled/s" ∧
      (scheduleDefinition scheduledTemplate).policy.deduplication.renderKey automationCodec 4 5
        (.dueTime (seconds 3)) none = .ok "automation/uuuu/revision/uuuuu/scheduled/sss" := by
  decide +kernel

/-- The first invocation has been admitted, the second one has not. -/
theorem first_invocation_admitted :
    ⟨firstInvocation 31, .sha256 31⟩ ∈ (run (InvocationStore.step automationCodec) .empty
        [firstInvocation 31]).byInvocation.rows ∧
      (firstInvocation 31).validateForRevision automationCodec
        (scheduleRevision scheduledTemplate) = .ok () ∧
      (secondInvocation 32).validateForRevision automationCodec
        (scheduleRevision scheduledTemplate) = .ok () ∧
      (run (InvocationStore.step automationCodec) .empty
        [firstInvocation 31]).byInvocation.get? (1, 32) = none := by
  decide +kernel

/-- The second worker is about to admit its occurrence. -/
theorem second_worker_waits :
    ∃ worker ∈ (run (ScheduleSystem.step automationCodec calendar) ScheduleSystem.empty
        (dispatchTwice scheduledTemplate)).workers,
      worker.phase.pending = [{ secondInvocation 537 with correlationId := 53734 }] ∧
      ⟨{ firstInvocation 535 with correlationId := 53534 }, .sha256 535⟩ ∈
        (run (ScheduleSystem.step automationCodec calendar) ScheduleSystem.empty
          (dispatchTwice scheduledTemplate)).invocations.byInvocation.rows ∧
      { firstInvocation 535 with correlationId := 53534 }.validateForRevision automationCodec
        worker.request.revision = .ok () ∧
      (run (ScheduleSystem.step automationCodec calendar) ScheduleSystem.empty
        (dispatchTwice scheduledTemplate)).invocations.byInvocation.get? (1, 537) = none := by
  decide +kernel

/-- The two occurrences of a schedule whose template names them. -/
theorem triggers_apart_scheduled :
    ("automation/uuuu/revision/uuuuu/scheduled/s" ≠ "automation/uuuu/revision/uuuuu/scheduled/sss" ↔
      (scheduleDefinition scheduledTemplate).BindsTrigger) ∧
    ((run (InvocationStore.step automationCodec) .empty
        [scheduleInvocation 31 "automation/uuuu/revision/uuuuu/scheduled/s" (seconds 1)]).admitEnvelope
        automationCodec
        (scheduleInvocation 32 "automation/uuuu/revision/uuuuu/scheduled/sss" (seconds 3)) =
          .error (keyBound automationCodec 31) ↔
      ¬ (scheduleDefinition scheduledTemplate).BindsTrigger) ∧
    ∃ worker ∈ (run (ScheduleSystem.step automationCodec calendar) ScheduleSystem.empty
        (dispatchTwice scheduledTemplate)).workers,
      (((run (ScheduleSystem.step automationCodec calendar) ScheduleSystem.empty
        (dispatchTwice scheduledTemplate)).call automationCodec worker).1.failure? =
          some (.ofRepository (keyBound automationCodec 535)) ↔
        ¬ worker.request.revision.spec.definition.BindsTrigger) := by
  obtain ⟨hkeys, hadmission, hdispatch⟩ := triggers_apart_iff automationCodec_lawful
  have hdistinct : (AutomationInvocationOrigin.dueTime (seconds 1)).Distinct
      (.dueTime (seconds 3)) := by
    change seconds 1 ≠ seconds 3
    decide
  refine ⟨?_, ?_, ?_⟩
  · obtain ⟨hvalid, hfirst, hsecond⟩ := scheduled_keys_rendered
    exact hkeys _ _ _ 4 5 none _ _ hvalid rfl rfl hdistinct hfirst hsecond
  · obtain ⟨hmem, hof, hof', hfresh⟩ := first_invocation_admitted
    rw [← firstInvocation, ← secondInvocation]
    generalize hstate : run (InvocationStore.step automationCodec) .empty
      [firstInvocation 31] = store at hmem hfresh ⊢
    exact hadmission (scheduleRevision scheduledTemplate) _ ⟨firstInvocation 31, .sha256 31⟩
      (secondInvocation 32) store hstate.symm hmem hof hof' hdistinct hfresh
  · obtain ⟨worker, hworker, hpending, hmem, hof, hfresh⟩ := second_worker_waits
    refine ⟨worker, hworker, ?_⟩
    generalize hstate : run (ScheduleSystem.step automationCodec calendar) ScheduleSystem.empty
      (dispatchTwice scheduledTemplate) = s at hworker hmem hfresh ⊢
    exact hdispatch calendar _ s worker ⟨{ firstInvocation 535 with correlationId := 53534 },
      .sha256 535⟩ { secondInvocation 537 with correlationId := 53734 } [] hstate.symm hworker
      hpending hmem hof hdistinct hfresh

/-- A schedule that passes validation without naming its occurrence: two occurrences share one key,
the second is refused, and the dispatch that would fire it fails. -/
theorem unscheduled_occurrence_refused :
    automationCodec.Lawful ∧
    (scheduleDefinition unscheduledTemplate).validate = .ok () ∧
    (scheduleDefinition unscheduledTemplate).policy.deduplication.renderKey automationCodec 4 5
        (.dueTime (seconds 1)) none = .ok "automation/uuuu/revision/uuuuu" ∧
    (scheduleDefinition unscheduledTemplate).policy.deduplication.renderKey automationCodec 4 5
        (.dueTime (seconds 3)) none = .ok "automation/uuuu/revision/uuuuu" ∧
    ((run (ScheduleSystem.step automationCodec calendar) ScheduleSystem.empty
        (dispatchTwice unscheduledTemplate ++ [.call 1, .call 1])).workers.map
        (·.phase.failure?)) =
      [none, some (.ofRepository (keyBound automationCodec 535))] :=
  ⟨automationCodec_lawful, by decide +kernel⟩

end Sample

end A3SCloud
