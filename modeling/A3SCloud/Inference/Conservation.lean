import A3SCloud.Inference.UsageStore
import A3SCloud.Inference.Sample

/-!
# Rollups are the fold of the facts

The counters of a daily rollup advance when a request ends, and a sweep deletes facts and rollups by
different rules: a fact by the time its request started, a rollup by its whole day. For the days
after the day of the boundary nothing is deleted, and there the rollup of a key is at every moment
the sum of what the terminal facts with that key contribute.

* `UsageProjections.Conserved` is this equation for one key, up to the largest number a counter can
  hold; `projectRecord_conserved` and `dropBefore_conserved` say that a record and a sweep keep it.
* `OrganizationUsageState.Balanced` asks it of every key after the day of the boundary, and
  `UsageStore.balanced_run` proves it along every run in which no count overflows.
-/

namespace A3SCloud

open Checks List InferenceUsageRequestFact OrganizationUsageState Table

def InferenceUsageRequestFact.share (key : InferenceUsageDailyRollupKey) (counter : RollupCounter)
    (fact : InferenceUsageRequestFact) : ℕ :=
  if fact.isTerminal ∧ fact.rollupKey = key then fact.contribution counter else 0

namespace UsageProjections

/-- The counters of a key are the sums over the terminal facts with this key. -/
def Conserved (projections : UsageProjections) (key : InferenceUsageDailyRollupKey) : Prop :=
  ∀ counter, (projections.rollup key).counter counter =
    min (projections.facts.sumBy (·.share key counter)) u64Max

variable {codec : UsageCodec} {gatewayId : Uuid} {projections next : UsageProjections}
  {key : InferenceUsageDailyRollupKey} {record : InferenceUsageRecord}

theorem conserved_empty (key : InferenceUsageDailyRollupKey) : empty.Conserved key := by
  intro counter
  simp [empty, rollup, sumBy]

/-- A fact that is not terminal contributes nothing. -/
theorem share_of_not_terminal {fact : InferenceUsageRequestFact} (h : fact.isTerminal = false)
    (key : InferenceUsageDailyRollupKey) (counter : RollupCounter) : fact.share key counter = 0 := by
  simp [share, h]

/-- When the fact in a row keeps its share, so does the sum. -/
theorem sumBy_insert_of_share {facts : Table requestId}
    {fact : InferenceUsageRequestFact} {g : InferenceUsageRequestFact → ℕ}
    (h : ((facts.get? fact.requestId).map g).getD 0 = g fact) :
    (facts.insert fact).sumBy g = facts.sumBy g := by
  have hsum := facts.sumBy_insert fact g
  omega

theorem projectRecord_conserved (hconserved : projections.Conserved key)
    (h : projections.projectRecord codec gatewayId record = .ok next) : next.Conserved key := by
  obtain ⟨event, fact, newlyTerminal, -, hprojects, hfacts, hrollups⟩ := projectRecord_ok h
  intro counter
  have hsum := projections.facts.sumBy_insert fact (·.share key counter)
  cases hprojects with
  | seen fact hget =>
    have hrow := get?_key hget
    obtain ⟨-, hsame⟩ | ⟨h, -⟩ := hrollups
    · rw [rollup, hsame, hfacts, sumBy_insert_of_share (by rw [hrow]; rfl)]
      exact hconserved counter
    · cases h
  | started hnone =>
    obtain ⟨-, hsame⟩ | ⟨h, -⟩ := hrollups
    · rw [rollup, hsame, hfacts, sumBy_insert_of_share (by
        rw [show (event.startedFact gatewayId).requestId = event.request.requestId from rfl, hnone]
        exact (share_of_not_terminal rfl key counter).symm)]
      exact hconserved counter
    · cases h
  | attempt fact hget hterminal =>
    have hrow := get?_key hget
    obtain ⟨-, hsame⟩ | ⟨h, -⟩ := hrollups
    · rw [rollup, hsame, hfacts, sumBy_insert_of_share (by
        rw [show fact.countAttempt.requestId = fact.requestId from rfl, hrow]
        exact (share_of_not_terminal hterminal key counter).trans
          (share_of_not_terminal hterminal key counter).symm)]
      exact hconserved counter
    · cases h
  | ended fact hget hterminal houtcome =>
    have hrow := get?_key hget
    obtain ⟨h, -⟩ | ⟨-, rollup', happly, hrollups⟩ := hrollups
    · cases h
    · -- The request was not counted before, and is counted now under its key.
      rw [show (fact.terminate event).requestId = fact.requestId from rfl, hrow,
        Option.map_some, Option.getD_some, share_of_not_terminal hterminal, Nat.add_zero] at hsum
      have hkey : rollup'.key = fact.rollupKey := by
        rw [InferenceUsageDailyRollup.key_applyTerminalRequest happly]
        exact projections.rollup_key (fact.terminate event).rollupKey
      rw [hfacts, hsum]
      by_cases hsame : key = fact.rollupKey
      · subst hsame
        have hstored : next.rollup fact.rollupKey = rollup' := by
          rw [rollup, hrollups, get?_insert, if_pos hkey.symm]
          rfl
        have hshare : (fact.terminate event).share fact.rollupKey counter =
            (fact.terminate event).contribution counter :=
          if_pos ⟨houtcome, rfl⟩
        have hbefore := hconserved counter
        have hle : (projections.rollup (fact.terminate event).rollupKey).counter counter ≤
            u64Max := by
          rw [show (fact.terminate event).rollupKey = fact.rollupKey from rfl, hbefore]
          exact Nat.min_le_right _ _
        rw [hstored, InferenceUsageDailyRollup.counter_applyTerminalRequest happly hle,
          show (fact.terminate event).rollupKey = fact.rollupKey from rfl, hbefore, hshare,
          saturatingAdd]
        omega
      · have hstored : next.rollup key = projections.rollup key := by
          rw [rollup, rollup, hrollups, get?_insert, if_neg (by rw [hkey]; exact hsame)]
        have hshare : (fact.terminate event).share key counter = 0 :=
          if_neg fun h => hsame h.2.symm
        rw [hstored, hshare, Nat.add_zero]
        exact hconserved counter

end UsageProjections

/-! ### Organizations -/

namespace OrganizationUsageState

variable {codec : UsageCodec} {organization : OrganizationUsageState}

/-- The days after the day of the boundary are conserved. -/
def Balanced (organization : OrganizationUsageState) : Prop :=
  ∀ key : InferenceUsageDailyRollupKey,
    (∀ boundary, organization.retention.recordsAvailableFrom = some boundary →
      dateNaive boundary < key.day) → organization.projections.Conserved key

theorem balanced_initial (organizationId : Uuid) : (initial organizationId).Balanced :=
  fun key _ => UsageProjections.conserved_empty key

theorem Balanced.acceptBatch (h : organization.Balanced) (batch : InferenceUsageBatch)
    (acceptedAt : ℤ) : (organization.acceptBatch codec batch acceptedAt).2.Balanced := by
  simp only [OrganizationUsageState.acceptBatch]
  cases applyInferenceUsageBatch codec (organization.ledger batch.gatewayId) batch with
  | error => exact h
  | ok =>
    intro key hkey
    exact UsageProjections.projectInsertedUsageRecords_keeps
      (fun _ _ _ hconserved hproject => UsageProjections.projectRecord_conserved hconserved hproject)
      (h key hkey)

/-- Dropping what is before a boundary does not touch the days after its day. -/
theorem dropBefore_conserved {key : InferenceUsageDailyRollupKey} {boundary : ℤ} {remaining : ℕ}
    (hday : dateNaive boundary < key.day) (h : organization.projections.Conserved key) :
    (organization.dropBefore boundary remaining).projections.Conserved key := by
  intro counter
  have hrollup : (organization.dropBefore boundary remaining).projections.rollup key =
      organization.projections.rollup key := by
    simp only [UsageProjections.rollup, dropBefore, get?_filter]
    cases hget : organization.projections.rollups.get? key with
    | none => rfl
    | some =>
      have hkey := (get?_eq_some_iff.1 hget).2
      rw [Option.filter_some_pos (by rw [hkey]; simpa using hday.le)]
  have hfacts : (organization.dropBefore boundary remaining).projections.facts.sumBy
      (·.share key counter) = organization.projections.facts.sumBy (·.share key counter) := by
    refine sumBy_filter fun fact _ hdropped => if_neg ?_
    rintro ⟨-, rfl⟩
    simp only [decide_eq_false_iff_not, not_le] at hdropped
    exact absurd (dateNaive_mono hdropped.le) (not_le.2 hday)
  rw [hrollup, hfacts]
  exact h counter

/-- A retention state is refused only because a count overflows. -/
theorem nextRetention_cases (organization : OrganizationUsageState)
    (sweep : InferenceUsageRetentionSweep) (completed : Bool) (deleted : ℕ) :
    organization.nextRetention sweep completed deleted = .error deletedRecordsOverflowed ∨
      organization.nextRetention sweep completed deleted = .error versionOverflowed ∨
      ∃ retention, organization.nextRetention sweep completed deleted = .ok retention ∧
        retention.recordsAvailableFrom = some (organization.retention.boundary sweep) := by
  simp only [nextRetention]
  cases checkedAdd organization.retention.totalDeletedRecords deleted with
  | none => exact .inl rfl
  | some =>
    cases checkedAdd organization.retention.version 1 with
    | none => exact .inr (.inl rfl)
    | some => exact .inr (.inr ⟨_, rfl, rfl⟩)

theorem Balanced.sweep (h : organization.Balanced) (sweep : InferenceUsageRetentionSweep)
    (remaining : ℕ)
    (hdeleted : (organization.sweep sweep remaining).1 ≠ .error deletedRecordsOverflowed)
    (hversion : (organization.sweep sweep remaining).1 ≠ .error versionOverflowed) :
    (organization.sweep sweep remaining).2.organization.Balanced := by
  unfold OrganizationUsageState.sweep at hdeleted hversion ⊢
  simp only at hdeleted hversion ⊢
  generalize (organization.purgeEventIds (organization.retention.boundary sweep)
    remaining).length + _ + _ = deleted at hdeleted hversion ⊢
  generalize (organization.dropBefore (organization.retention.boundary sweep) remaining).isCompleted
    (organization.retention.boundary sweep) = completed at hdeleted hversion ⊢
  rcases organization.nextRetention_cases sweep completed deleted with
    herror | herror | ⟨retention, hok, hboundary⟩
  · rw [herror] at hdeleted
    exact absurd rfl hdeleted
  · rw [herror] at hversion
    exact absurd rfl hversion
  · rw [hok]
    intro key hkey
    have hday := hkey _ hboundary
    have hdropped : (organization.dropBefore (organization.retention.boundary sweep)
        remaining).projections.Conserved key := by
      refine dropBefore_conserved hday (h key fun current hcurrent => ?_)
      exact lt_of_le_of_lt (dateNaive_mono (InferenceUsageRetentionState.le_boundary hcurrent)) hday
    exact hdropped

end OrganizationUsageState

/-! ### The repository -/

namespace UsageStore

variable {codec : UsageCodec} {store : UsageStore}

def Balanced (store : UsageStore) : Prop :=
  ∀ organization ∈ store.organizations.rows, organization.Balanced

/-- A sweep whose counts do not overflow. -/
def NoOverflow (store : UsageStore) : Call → Prop
  | .accept _ => True
  | .sweep sweep =>
    (store.sweepRetention sweep).1 ≠ .error deletedRecordsOverflowed ∧
      (store.sweepRetention sweep).1 ≠ .error versionOverflowed

theorem Balanced.organization (h : store.Balanced) (organizationId : Uuid) :
    (store.organization organizationId).Balanced := by
  rw [UsageStore.organization]
  cases hget : store.organizations.get? organizationId with
  | none => exact balanced_initial organizationId
  | some stored => exact h stored (get?_eq_some_iff.1 hget).1

theorem Balanced.insert (h : store.Balanced) {organization : OrganizationUsageState}
    (horganization : organization.Balanced) :
    Balanced ⟨store.organizations.insert organization⟩ := by
  intro stored hstored
  rcases mem_insert.1 hstored with rfl | ⟨hstored, -⟩
  · exact horganization
  · exact h stored hstored

theorem Balanced.sweepOrganizations (h : store.Balanced) {sweep : InferenceUsageRetentionSweep}
    {remaining : ℕ} {report : InferenceUsageRetentionReport} {due : List Uuid}
    (hdeleted : (store.sweepOrganizations sweep remaining report due).1 ≠
      .error deletedRecordsOverflowed)
    (hversion : (store.sweepOrganizations sweep remaining report due).1 ≠
      .error versionOverflowed) :
    (store.sweepOrganizations sweep remaining report due).2.Balanced := by
  induction due generalizing store remaining report with
  | nil => exact h
  | cons organizationId due ih =>
    rw [UsageStore.sweepOrganizations] at hdeleted hversion ⊢
    by_cases hremaining : remaining = 0
    · rw [if_pos hremaining]
      exact h
    · rw [if_neg hremaining] at hdeleted hversion ⊢
      have hswept := (h.organization organizationId).sweep sweep remaining
      generalize (store.organization organizationId).sweep sweep remaining = outcome
        at hdeleted hversion hswept ⊢
      obtain ⟨result, swept⟩ := outcome
      simp only at hdeleted hversion hswept ⊢
      cases result with
      | error =>
        refine h.insert (hswept ?_ ?_)
        · rintro ⟨⟩
          exact hdeleted rfl
        · rintro ⟨⟩
          exact hversion rfl
      | ok => exact ih (h.insert (hswept nofun nofun)) hdeleted hversion

theorem Balanced.step {call : Call} (h : store.Balanced) (hcall : store.NoOverflow call) :
    (store.step codec call).Balanced := by
  cases call with
  | accept write =>
    simp only [UsageStore.step, acceptUsageBatch]
    cases write.validate codec with
    | error => exact h
    | ok =>
      exact h.insert ((h.organization write.organizationId).acceptBatch write.batch write.acceptedAt)
  | sweep sweep =>
    simp only [UsageStore.step, NoOverflow, sweepRetention] at hcall ⊢
    cases hvalid : sweep.validate with
    | error => exact h
    | ok =>
      rw [hvalid] at hcall
      exact h.sweepOrganizations hcall.1 hcall.2

/-- Along every run in which no count of the retention overflows, the store is balanced. -/
theorem balanced_run {calls : List Call} (hall : Runs.Allowed (step codec) NoOverflow empty calls) :
    (Runs.run (step codec) empty calls).Balanced :=
  Runs.invariant (fun _ _ h hcall => h.step hcall) (fun organization horganization => by
    cases horganization) hall

def terminalFacts (organization : OrganizationUsageState) (key : InferenceUsageDailyRollupKey) :
    List InferenceUsageRequestFact :=
  organization.projections.facts.rows.filter (fun fact => fact.isTerminal ∧ fact.rollupKey = key)

theorem sumBy_share (organization : OrganizationUsageState) (key : InferenceUsageDailyRollupKey)
    (counter : RollupCounter) : organization.projections.facts.sumBy (·.share key counter) =
      ((terminalFacts organization key).map (·.contribution counter)).sum := by
  rw [sumBy, terminalFacts]
  induction organization.projections.facts.rows with
  | nil => rfl
  | cons fact rows ih =>
    rw [map_cons, sum_cons, ih, filter_cons, share]
    by_cases h : fact.isTerminal ∧ fact.rollupKey = key
    · rw [if_pos h, if_pos (decide_eq_true h), map_cons, sum_cons]
    · rw [if_neg h, if_neg (by simpa using h), Nat.zero_add]

/-- A sum of ones is a number. -/
theorem sum_map_ite (facts : List InferenceUsageRequestFact)
    (p : InferenceUsageRequestFact → Bool) :
    (facts.map (fun fact => if p fact then 1 else 0)).sum = (facts.filter p).length := by
  induction facts with
  | nil => rfl
  | cons fact facts ih =>
    cases hp : p fact <;> simp [hp, ih, Nat.add_comm]

/-- In every reachable state and for every key whose day is later than the day of the boundary, the
rollup is the sum over the terminal facts with that key. -/
theorem rollup_eq_sum_of_facts (codec : UsageCodec) (calls : List Call)
    (hall : Runs.Allowed (step codec) NoOverflow empty calls) {organizationId : Uuid}
    {organization : OrganizationUsageState}
    (horganization : (Runs.run (step codec) empty calls).organizations.get? organizationId =
      some organization)
    {key : InferenceUsageDailyRollupKey}
    (hkey : ∀ boundary, organization.retention.recordsAvailableFrom = some boundary →
      dateNaive boundary < key.day)
    (hmax : ∀ counter, (organization.projections.rollup key).counter counter < u64Max) :
    let rollup := organization.projections.rollup key
    let facts := terminalFacts organization key
    rollup.requestCount = facts.length ∧
      (∀ outcome, rollup.counter (.outcome outcome) =
        (facts.filter (·.outcome = some outcome)).length) ∧
      rollup.unknownMeasurementCount + rollup.upstreamUsageCount = rollup.requestCount ∧
      rollup.totalTokens = (facts.map (·.totalTokens.getD 0)).sum := by
  have hbalanced : organization.Balanced :=
    balanced_run hall organization (get?_eq_some_iff.1 horganization).1
  -- No counter has reached the largest number, so each of them is the exact sum.
  have hexact : ∀ counter, (organization.projections.rollup key).counter counter =
      ((terminalFacts organization key).map (·.contribution counter)).sum := by
    intro counter
    have hconserved := hbalanced key hkey counter
    have hlt := hmax counter
    rw [sumBy_share] at hconserved
    omega
  have hrequests := hexact .requests
  have hunknown := hexact .unknownMeasurement
  have hupstream := hexact .upstreamUsage
  have hsplit : ∀ facts : List InferenceUsageRequestFact,
      (facts.map (·.contribution .unknownMeasurement)).sum +
        (facts.map (·.contribution .upstreamUsage)).sum = facts.length := by
    intro facts
    induction facts with
    | nil => rfl
    | cons fact facts ih =>
      simp only [map_cons, sum_cons, length_cons, ← ih,
        contribution]
      split_ifs <;> omega
  have hlength : ∀ facts : List InferenceUsageRequestFact,
      (facts.map (·.contribution .requests)).sum = facts.length := by
    intro facts
    simp [contribution]
  rw [hlength] at hrequests
  refine ⟨hrequests, fun outcome => ?_, ?_, hexact .tokens⟩
  · rw [hexact (.outcome outcome), ← sum_map_ite]
    simp [contribution]
  · have htotal := hsplit (terminalFacts organization key)
    rw [← hunknown, ← hupstream, ← hrequests] at htotal
    exact htotal

/-- A request that started and ended on a day is counted once in its rollup. -/
theorem rollup_of_ended_request :
    let codec := Sample.usageCodec [("started", Sample.requestStarted 1 (Sample.seconds 10)),
      ("ended", Sample.requestTerminal 1 (Sample.seconds 20))]
    let calls := [Call.accept ⟨1, 1, { Sample.usageBatch none [] with
      records := [Sample.usageRecord ⟨1, 1⟩ "started", Sample.usageRecord ⟨1, 2⟩ "ended"] },
      Sample.seconds 30⟩]
    let organization := (Runs.run (step codec) empty calls).organization 1
    let key := ⟨0, 2, 5, .completions⟩
    (terminalFacts organization key).length = 1 ∧
      (organization.projections.rollup key).requestCount =
        (terminalFacts organization key).length := by
  intro codec calls organization key
  have hget : (Runs.run (step codec) empty calls).organizations.get? 1 = some organization := by
    have hsome : ((Runs.run (step codec) empty calls).organizations.get? 1).isSome := by
      decide +kernel
    obtain ⟨stored, hstored⟩ := Option.isSome_iff_exists.1 hsome
    rw [hstored]
    simp only [organization, UsageStore.organization, hstored, Option.getD_some]
  refine ⟨by decide +kernel, (rollup_eq_sum_of_facts codec calls ⟨trivial, trivial⟩ hget ?_ ?_).1⟩
  · have hnone : organization.retention.recordsAvailableFrom = none := by decide +kernel
    rw [hnone]
    intro time htime
    cases htime
  · rintro (_ | ⟨_ | _ | _ | _ | _⟩ | _ | _ | _)
    all_goals decide +kernel

end UsageStore

end A3SCloud
