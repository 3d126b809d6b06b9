import A3SCloud.Contracts.Basic

/-!
# Retention of usage

`inference/domain/services/usage_retention.rs`: the retention state of an organization, which only
moves forward, and the sweep that hides usage before a cutoff and then deletes it.

* `InferenceUsageRetentionState.boundary` is the boundary that a sweep moves a state to, and
  `InferenceUsageRetentionState.swept` the state it leaves.
* `InferenceUsageRetentionState.Valid` and `InferenceUsageRetentionSweep.Valid` say what the two
  checks ask; `InferenceUsageRetentionState.Valid.after_sweep` that a sweep keeps a state valid.
-/

namespace A3SCloud

open Checks

structure InferenceUsageRetentionState where
  organizationId : Uuid
  recordsAvailableFrom : Option ℤ
  recordsDeletedBefore : Option ℤ
  appliedPolicyDigest : Option DigestText
  totalDeletedRecords : ℕ
  lastSweptAt : Option ℤ
  lastCompletedAt : Option ℤ
  nextScanAt : ℤ
  version : ℕ
  deriving DecidableEq

namespace InferenceUsageRetentionState

def initial (organizationId : Uuid) : InferenceUsageRetentionState :=
  ⟨organizationId, none, none, none, 0, none, none, 0, 0⟩

/-- The times of a state that may be missing. -/
def times (state : InferenceUsageRetentionState) : List (Option ℤ) :=
  [state.recordsAvailableFrom, state.recordsDeletedBefore, state.lastSweptAt, state.lastCompletedAt]

def validate (state : InferenceUsageRetentionState) : Except String Unit := do
  refuseIf (state.organizationId = 0)
    "inference usage retention organization ID must not be nil"
  refuseIf (∃ deleted ∈ state.recordsDeletedBefore, ∃ available ∈ state.recordsAvailableFrom,
      available < deleted)
    "inference usage retention deletion boundary exceeds its availability boundary"
  refuseIf (state.recordsDeletedBefore.isSome ∧ state.recordsAvailableFrom.isNone)
    "inference usage retention deletion boundary requires an availability boundary"
  refuseIf (state.lastCompletedAt.isSome ∧ state.recordsDeletedBefore.isNone)
    "inference usage retention completion requires a deletion boundary"
  refuseIf (state.recordsAvailableFrom.isSome ≠ state.appliedPolicyDigest.isSome ∨
      state.recordsAvailableFrom.isSome ≠ state.lastSweptAt.isSome)
    "inference usage retention availability, applied policy, and sweep time must initialize together"
  refuseIf ((∃ swept ∈ state.lastSweptAt, state.nextScanAt ≤ swept) ∨
      (∃ completed ∈ state.lastCompletedAt, ∃ swept ∈ state.lastSweptAt, swept < completed) ∨
      (state.lastCompletedAt.isSome ∧ state.lastSweptAt.isNone))
    "inference usage retention sweep schedule is inconsistent"
  refuseIf (canonicalTimestamp state.nextScanAt ≠ state.nextScanAt ∨
      ∃ time ∈ state.times, ∃ t ∈ time, canonicalTimestamp t ≠ t)
    "inference usage retention state timestamps must use canonical precision"

end InferenceUsageRetentionState

def maximumInferenceUsageRetentionBatchSize : ℕ := 10000

structure InferenceUsageRetentionSweep where
  cutoff : ℤ
  sweptAt : ℤ
  nextScanAt : ℤ
  policyDigest : DigestText
  organizationBatchSize : ℕ
  recordBatchSize : ℕ
  deriving DecidableEq

namespace InferenceUsageRetentionSweep

def validate (sweep : InferenceUsageRetentionSweep) : Except String Unit := do
  refuseIf (sweep.sweptAt < sweep.cutoff ∨ sweep.nextScanAt ≤ sweep.sweptAt)
    "inference usage retention sweep timestamps are invalid"
  refuseIf (sweep.organizationBatchSize = 0 ∨
      maximumInferenceUsageRetentionBatchSize < sweep.organizationBatchSize ∨
      sweep.recordBatchSize = 0 ∨ maximumInferenceUsageRetentionBatchSize < sweep.recordBatchSize)
    "inference usage retention sweep batches must be between 1 and 10000"
  refuseIf (canonicalTimestamp sweep.cutoff ≠ sweep.cutoff ∨
      canonicalTimestamp sweep.sweptAt ≠ sweep.sweptAt ∨
      canonicalTimestamp sweep.nextScanAt ≠ sweep.nextScanAt)
    "inference usage retention sweep timestamps must use canonical precision"

end InferenceUsageRetentionSweep

structure InferenceUsageRetentionReport where
  inspectedOrganizations : ℕ
  completedOrganizations : ℕ
  deletedRecords : ℕ
  deriving DecidableEq

namespace InferenceUsageRetentionState

def boundary (state : InferenceUsageRetentionState) (sweep : InferenceUsageRetentionSweep) : ℤ :=
  match state.recordsAvailableFrom with
  | some current => max current sweep.cutoff
  | none => sweep.cutoff

def swept (state : InferenceUsageRetentionState) (sweep : InferenceUsageRetentionSweep)
    (completed : Bool) (totalDeletedRecords version : ℕ) : InferenceUsageRetentionState :=
  { state with
    recordsAvailableFrom := some (state.boundary sweep)
    recordsDeletedBefore :=
      if completed then some (state.boundary sweep) else state.recordsDeletedBefore
    lastCompletedAt := if completed then some sweep.sweptAt else state.lastCompletedAt
    appliedPolicyDigest := some sweep.policyDigest
    totalDeletedRecords := totalDeletedRecords
    lastSweptAt := some sweep.sweptAt
    nextScanAt := sweep.nextScanAt
    version := version }

variable {state : InferenceUsageRetentionState}

theorem le_boundary {sweep : InferenceUsageRetentionSweep} {current : ℤ}
    (h : state.recordsAvailableFrom = some current) : current ≤ state.boundary sweep := by
  simp [boundary, h]

/-! ### Valid states -/

structure Valid (state : InferenceUsageRetentionState) : Prop where
  organizationId : state.organizationId ≠ 0
  deleted : ∀ deleted, state.recordsDeletedBefore = some deleted →
    ∃ available, state.recordsAvailableFrom = some available ∧ deleted ≤ available
  completed : ∀ completed, state.lastCompletedAt = some completed →
    state.recordsDeletedBefore.isSome ∧ ∃ swept, state.lastSweptAt = some swept ∧ completed ≤ swept
  policy : state.recordsAvailableFrom.isSome = state.appliedPolicyDigest.isSome
  swept : state.recordsAvailableFrom.isSome = state.lastSweptAt.isSome
  nextScan : ∀ swept, state.lastSweptAt = some swept → swept < state.nextScanAt
  nextScanCanonical : IsCanonical state.nextScanAt
  canonical : ∀ time, some time ∈ state.times → IsCanonical time

theorem validate_ok_iff {u : Unit} : state.validate = .ok u ↔ state.Valid := by
  simp only [validate, ok_rules, not_or, not_exists, not_and, not_lt, not_le, ne_eq, not_not,
    Option.mem_def]
  constructor
  · rintro ⟨hid, hdeleted, havailable, hcompleted, ⟨hpolicy, hswept⟩, ⟨hnext, hle, hsome⟩, hscan,
      htimes⟩
    refine ⟨hid, ?_, ?_, hpolicy, hswept, hnext, hscan, fun time htime => htimes _ htime time rfl⟩
    · intro deleted hd
      cases ha : state.recordsAvailableFrom with
      | none => simp [hd, ha] at havailable
      | some available => exact ⟨available, rfl, hdeleted deleted hd available ha⟩
    · intro completed hc
      refine ⟨?_, ?_⟩
      · cases hd : state.recordsDeletedBefore with
        | none => simp [hc, hd] at hcompleted
        | some => rfl
      · cases hs : state.lastSweptAt with
        | none => simp [hc, hs] at hsome
        | some swept => exact ⟨swept, rfl, hle completed hc swept hs⟩
  · intro h
    refine ⟨h.organizationId, ?_, ?_, ?_, ⟨h.policy, h.swept⟩, ⟨h.nextScan, ?_, ?_⟩,
      h.nextScanCanonical, ?_⟩
    · intro deleted hd available ha
      obtain ⟨a, ha', hle⟩ := h.deleted deleted hd
      rw [ha] at ha'
      cases ha'
      exact hle
    · intro hd
      obtain ⟨deleted, hd⟩ := Option.isSome_iff_exists.1 hd
      obtain ⟨a, ha, -⟩ := h.deleted deleted hd
      simp [ha]
    · intro hc
      obtain ⟨completed, hc⟩ := Option.isSome_iff_exists.1 hc
      obtain ⟨deleted, hd⟩ := Option.isSome_iff_exists.1 (h.completed completed hc).1
      simp [hd]
    · intro completed hc swept hs
      obtain ⟨-, s, hs', hle⟩ := h.completed completed hc
      rw [hs] at hs'
      cases hs'
      exact hle
    · intro hc
      obtain ⟨completed, hc⟩ := Option.isSome_iff_exists.1 hc
      obtain ⟨-, s, hs, -⟩ := h.completed completed hc
      simp [hs]
    · intro time htime t ht
      exact h.canonical t (ht ▸ htime)

theorem valid_initial {organizationId : Uuid} (h : organizationId ≠ 0) :
    (initial organizationId).Valid := by
  constructor <;> simp [initial, h, times, IsCanonical, canonicalTimestamp]

end InferenceUsageRetentionState

structure InferenceUsageRetentionSweep.Valid (sweep : InferenceUsageRetentionSweep) : Prop where
  cutoff : sweep.cutoff ≤ sweep.sweptAt
  nextScan : sweep.sweptAt < sweep.nextScanAt
  organizations : sweep.organizationBatchSize ≠ 0
  records : sweep.recordBatchSize ≠ 0
  recordsBound : sweep.recordBatchSize ≤ maximumInferenceUsageRetentionBatchSize
  cutoffCanonical : IsCanonical sweep.cutoff
  sweptCanonical : IsCanonical sweep.sweptAt
  nextScanCanonical : IsCanonical sweep.nextScanAt

variable {sweep : InferenceUsageRetentionSweep}

theorem InferenceUsageRetentionSweep.valid_of_validate (h : sweep.validate = .ok ()) :
    sweep.Valid := by
  simp only [validate, ok_rules, not_or, not_lt, not_le, ne_eq, not_not] at h
  obtain ⟨⟨hcutoff, hnext⟩, ⟨horganizations, -, hrecords, hbound⟩, hc, hs, hn⟩ := h
  exact ⟨hcutoff, hnext, horganizations, hrecords, hbound, hc, hs, hn⟩

theorem InferenceUsageRetentionState.Valid.after_sweep {state : InferenceUsageRetentionState}
    (h : state.Valid) (hsweep : sweep.Valid) (hdue : state.nextScanAt ≤ sweep.sweptAt)
    (completed : Bool) (total version : ℕ) : (state.swept sweep completed total version).Valid := by
  have hboundary : IsCanonical (state.boundary sweep) := by
    unfold boundary
    cases ha : state.recordsAvailableFrom with
    | none => exact hsweep.cutoffCanonical
    | some current =>
      have hcurrent := h.canonical current (by simp [times, ha])
      simp only
      rcases max_choice current sweep.cutoff with hmax | hmax
      · rw [hmax]
        exact hcurrent
      · rw [hmax]
        exact hsweep.cutoffCanonical
  refine ⟨h.organizationId, ?_, ?_, rfl, rfl, ?_, hsweep.nextScanCanonical, ?_⟩
  · intro deleted hdeleted
    refine ⟨state.boundary sweep, rfl, ?_⟩
    cases completed with
    | true =>
      cases hdeleted
      exact le_rfl
    | false =>
      obtain ⟨available, havailable, hle⟩ := h.deleted deleted hdeleted
      exact hle.trans (le_boundary havailable)
  · intro time htime
    cases completed with
    | true =>
      cases htime
      exact ⟨rfl, sweep.sweptAt, rfl, le_rfl⟩
    | false =>
      obtain ⟨hsome, swept, hswept, hle⟩ := h.completed time htime
      exact ⟨hsome, sweep.sweptAt, rfl, by have := h.nextScan swept hswept; omega⟩
  · rintro swept ⟨⟩
    exact hsweep.nextScan
  · intro time htime
    simp only [InferenceUsageRetentionState.swept, times, List.mem_cons, Option.some.injEq,
      List.not_mem_nil, or_false] at htime
    cases completed with
    | true =>
      simp only [if_true, Option.some.injEq] at htime
      rcases htime with rfl | rfl | rfl | rfl
      · exact hboundary
      · exact hboundary
      · exact hsweep.sweptCanonical
      · exact hsweep.sweptCanonical
    | false =>
      simp only [Bool.false_eq_true, if_false] at htime
      rcases htime with rfl | hdeleted | rfl | hcompleted
      · exact hboundary
      · exact h.canonical time (by simp [times, hdeleted])
      · exact hsweep.sweptCanonical
      · exact h.canonical time (by simp [times, hcompleted])

end A3SCloud
