import A3SCloud.Edge.DomainName
import A3SCloud.Lib.Runs
import A3SCloud.Shared.Idempotency

/-!
# Domain ownership claims

The model of `modules/edge/domain/entities/domain_claim.rs` and of the operations of
`modules/edge/infrastructure/persistence/in_memory.rs` on domain claims.

* `DomainClaim.create`, `verify`, `reject` and `revoke` are the transitions of a claim, and
  `DomainClaim.Produced` says that a claim was made by them.
* `DomainClaims.createDomainClaim` and `transitionDomainClaim` store claims.
* `domainOwnership_exclusive`: a hostname has one owner in every run in which a rejected claim is
  verified only while no other claim conflicts with it; `verify_after_reject_shares_hostname` is a
  run in which it has two.
-/

namespace A3SCloud

open Checks

inductive DomainClaimState
  | pending
  | verified
  | rejected
  | revoked
  deriving DecidableEq

structure DomainClaim where
  id : Uuid
  organizationId : Uuid
  projectId : Uuid
  environmentId : Uuid
  pattern : DomainNamePattern
  challengeDnsName : List Char
  challengeValue : List Char
  state : DomainClaimState
  failure : Option (List Char)
  aggregateVersion : ℕ
  createdAt : ℤ
  updatedAt : ℤ
  verifiedAt : Option ℤ
  revokedAt : Option ℤ
  deriving DecidableEq

namespace DomainClaim

variable (claim : DomainClaim)

def key : Uuid := claim.id

def validateChallenge (value : List Char) : Except String Unit :=
  refuseIf (byteLength value < 32 ∨ 512 < byteLength value ∨ trimSpaces value ≠ value ∨
      value.any (['\x00', '\r', '\n'].contains ·))
    "domain ownership challenge must be a bounded single-line value"

def sanitizeFailure (value : List Char) : Except String (List Char) := do
  let value := trimSpaces (value.map fun c => if ['\x00', '\r', '\n'].contains c then ' ' else c)
  refuseIf (value = [] ∨ 4096 < byteLength value)
    "domain claim failure must be a bounded single-line value"
  pure value

def create (id organizationId projectId environmentId : Uuid) (pattern : DomainNamePattern)
    (challengeValue : List Char) (createdAt : ℤ) : Except String DomainClaim := do
  validateChallenge challengeValue
  pure {
    id := id
    organizationId := organizationId
    projectId := projectId
    environmentId := environmentId
    pattern := pattern
    challengeDnsName := pattern.challengeDnsName
    challengeValue := challengeValue
    state := .pending
    failure := none
    aggregateVersion := 1
    createdAt := canonicalTimestamp createdAt
    updatedAt := canonicalTimestamp createdAt
    verifiedAt := none
    revokedAt := none }

def covers (claim : DomainClaim) (hostname : RouteHostname) : Bool :=
  claim.state = .verified ∧ claim.pattern.covers hostname

def ensureTime (time : ℤ) : Except String Unit :=
  refuseIf (time < claim.updatedAt) "domain claim transition time regressed"

def verify (verifiedAt : ℤ) : Except String DomainClaim := do
  let verifiedAt := canonicalTimestamp verifiedAt
  claim.ensureTime verifiedAt
  if claim.state = .verified then pure claim
  else do
    refuseIf (claim.state ≠ .pending ∧ claim.state ≠ .rejected)
      "domain claim cannot be verified from its current state"
    pure { claim with
      state := .verified
      failure := none
      aggregateVersion := claim.aggregateVersion + 1
      updatedAt := verifiedAt
      verifiedAt := some verifiedAt }

def reject (failure : List Char) (rejectedAt : ℤ) : Except String DomainClaim := do
  let failure ← sanitizeFailure failure
  let rejectedAt := canonicalTimestamp rejectedAt
  claim.ensureTime rejectedAt
  if claim.state = .rejected ∧ claim.failure = some failure then pure claim
  else do
    refuseIf (claim.state ≠ .pending) "domain claim cannot be rejected from its current state"
    pure { claim with
      state := .rejected
      failure := some failure
      aggregateVersion := claim.aggregateVersion + 1
      updatedAt := rejectedAt }

def revoke (reason : List Char) (revokedAt : ℤ) : Except String DomainClaim := do
  let reason ← sanitizeFailure reason
  let revokedAt := canonicalTimestamp revokedAt
  claim.ensureTime revokedAt
  if claim.state = .revoked ∧ claim.failure = some reason then pure claim
  else do
    refuseIf (claim.state ≠ .verified) "only a verified domain claim can be revoked"
    pure { claim with
      state := .revoked
      failure := some reason
      aggregateVersion := claim.aggregateVersion + 1
      updatedAt := revokedAt
      revokedAt := some revokedAt }

/-- A claim keeps others off its hostnames while it is pending or verified. -/
def holdsOwnership : Bool :=
  claim.state = .pending ∨ claim.state = .verified

/-- A claim that was made by the functions of the entity. -/
inductive Produced : DomainClaim → Prop
  | create {id organizationId projectId environmentId : Uuid} {pattern : DomainNamePattern}
      {challengeValue : List Char} {createdAt : ℤ} {claim : DomainClaim}
      (h : create id organizationId projectId environmentId pattern challengeValue createdAt =
        .ok claim) : Produced claim
  | verify {claim next : DomainClaim} {time : ℤ} (hclaim : Produced claim)
      (h : claim.verify time = .ok next) : Produced next
  | reject {claim next : DomainClaim} {failure : List Char} {time : ℤ} (hclaim : Produced claim)
      (h : claim.reject failure time = .ok next) : Produced next
  | revoke {claim next : DomainClaim} {reason : List Char} {time : ℤ} (hclaim : Produced claim)
      (h : claim.revoke reason time = .ok next) : Produced next

/-! ### The life cycle -/

/-- The versions at which a claim can be in a state. -/
def versionFits (state : DomainClaimState) (version : ℕ) : Prop :=
  match state with
  | .pending => version = 1
  | .rejected => version = 2
  | .verified => version = 2 ∨ version = 3
  | .revoked => version = 3 ∨ version = 4

variable {claim next : DomainClaim} {time : ℤ}

theorem create_ok {id organizationId projectId environmentId : Uuid} {pattern : DomainNamePattern}
    {challengeValue : List Char} {createdAt : ℤ}
    (h : create id organizationId projectId environmentId pattern challengeValue createdAt =
      .ok claim) : claim.state = .pending ∧ claim.aggregateVersion = 1 := by
  simp only [create, ok_rules] at h
  obtain ⟨-, rfl⟩ := h
  exact ⟨rfl, rfl⟩

theorem verify_ok (h : claim.verify time = .ok next) :
    next = claim ∨ ((claim.state = .pending ∨ claim.state = .rejected) ∧ next.state = .verified ∧
      next.aggregateVersion = claim.aggregateVersion + 1) := by
  simp only [verify, ok_rules] at h
  obtain ⟨-, h⟩ := h
  split_ifs at h with hverified
  · cases h
    exact .inl rfl
  · simp only [ok_rules] at h
    obtain ⟨hstate, rfl⟩ := h
    exact .inr ⟨by tauto, rfl, rfl⟩

theorem reject_ok {failure : List Char} (h : claim.reject failure time = .ok next) :
    next = claim ∨ (claim.state = .pending ∧ next.state = .rejected ∧
      next.aggregateVersion = claim.aggregateVersion + 1) := by
  simp only [reject, ok_rules] at h
  obtain ⟨failure', -, -, h⟩ := h
  split_ifs at h with hrejected
  · cases h
    exact .inl rfl
  · simp only [ok_rules, not_not] at h
    obtain ⟨hstate, rfl⟩ := h
    exact .inr ⟨hstate, rfl, rfl⟩

theorem revoke_ok {reason : List Char} (h : claim.revoke reason time = .ok next) :
    next = claim ∨ (claim.state = .verified ∧ next.state = .revoked ∧
      next.aggregateVersion = claim.aggregateVersion + 1) := by
  simp only [revoke, ok_rules] at h
  obtain ⟨reason', -, -, h⟩ := h
  split_ifs at h with hrevoked
  · cases h
    exact .inl rfl
  · simp only [ok_rules, not_not] at h
    obtain ⟨hstate, rfl⟩ := h
    exact .inr ⟨hstate, rfl, rfl⟩

theorem Produced.versionFits (h : Produced claim) :
    versionFits claim.state claim.aggregateVersion := by
  induction h with
  | create h =>
    obtain ⟨hstate, hversion⟩ := create_ok h
    rw [hstate, hversion]
    rfl
  | verify _ h ih =>
    rcases verify_ok h with rfl | ⟨hstate | hstate, hnext, hversion⟩
    · exact ih
    all_goals
      rw [hstate] at ih
      rw [hnext, hversion]
      simp only [DomainClaim.versionFits] at ih ⊢
      omega
  | reject _ h ih =>
    rcases reject_ok h with rfl | ⟨hstate, hnext, hversion⟩
    · exact ih
    · rw [hstate] at ih
      rw [hnext, hversion]
      simp only [DomainClaim.versionFits] at ih ⊢
      omega
  | revoke _ h ih =>
    rcases revoke_ok h with rfl | ⟨hstate, hnext, hversion⟩
    · exact ih
    · rw [hstate] at ih
      rw [hnext, hversion]
      simp only [DomainClaim.versionFits] at ih ⊢
      omega

/-- A claim that holds nothing gains ownership in its next version only from a rejection. -/
theorem Produced.regained (hclaim : Produced claim) (hnext : Produced next)
    (hversion : next.aggregateVersion = claim.aggregateVersion + 1)
    (hlost : claim.holdsOwnership = false) (hholds : next.holdsOwnership = true) :
    claim.state = .rejected ∧ next.state = .verified := by
  have hfits := hclaim.versionFits
  have hfits' := hnext.versionFits
  rw [hversion] at hfits'
  simp only [holdsOwnership, decide_eq_false_iff_not, decide_eq_true_eq] at hlost hholds
  rcases hholds with hpending | hverified
  · rw [hpending] at hfits'
    cases hs : claim.state <;> simp_all [DomainClaim.versionFits]
  · refine ⟨?_, hverified⟩
    rw [hverified] at hfits'
    cases hs : claim.state with
    | pending => exact absurd (.inl hs) hlost
    | verified => exact absurd (.inr hs) hlost
    | rejected => rfl
    | revoked =>
      rw [hs] at hfits
      simp only [DomainClaim.versionFits] at hfits hfits'
      omega

end DomainClaim

/-! ### The store -/

structure CreateDomainClaimWrite where
  claim : DomainClaim
  idempotency : IdempotencyRequest
  event : DomainEventEnvelope
  deriving DecidableEq

structure TransitionDomainClaim where
  claim : DomainClaim
  expectedVersion : ℕ
  idempotency : IdempotencyRequest
  event : DomainEventEnvelope
  deriving DecidableEq

def validateDomainEvent (claim : DomainClaim) (event : DomainEventEnvelope) :
    Except RepositoryError Unit :=
  refuseIf (event.organizationId ≠ some claim.organizationId ∨ event.aggregateId ≠ claim.id ∨
      event.aggregateVersion ≠ claim.aggregateVersion ∨ event.correlationId = 0 ∨
      event.eventId = 0 ∨ event.schemaVersion = 0 ∨ isBlank event.eventKey)
    (.conflict "domain claim event does not match its aggregate")

/-- The tables of the edge repository that hold the domain claims. -/
structure DomainClaims where
  claims : Table DomainClaim.key
  idempotency : IdempotencyTable DomainClaim
  outbox : List DomainEventEnvelope

open DomainClaims

namespace DomainClaims

def empty : DomainClaims := ⟨Table.empty, Table.empty, []⟩

variable (s : DomainClaims)

def store (claim : DomainClaim) (idempotency : IdempotencyRequest)
    (event : DomainEventEnvelope) : DomainClaims where
  claims := s.claims.insert claim
  idempotency := s.idempotency.record idempotency claim
  outbox := s.outbox ++ [event]

def insertClaim (bundle : CreateDomainClaimWrite) :
    Except RepositoryError (IdempotentWrite DomainClaim × DomainClaims) := do
  refuseIf (s.claims.rows.any fun existing =>
      existing.holdsOwnership && existing.pattern.conflictsWith bundle.claim.pattern)
    (.conflict "domain pattern overlaps an existing ownership claim")
  refuseIf (s.claims.get? bundle.claim.id).isSome
    (.conflict "domain claim identity already exists")
  pure (⟨bundle.claim, false⟩, s.store bundle.claim bundle.idempotency bundle.event)

def createDomainClaim (bundle : CreateDomainClaimWrite) :
    Except RepositoryError (IdempotentWrite DomainClaim × DomainClaims) := do
  validateDomainEvent bundle.claim bundle.event
  match ← s.idempotency.replay bundle.idempotency with
  | some claim => pure (⟨claim, true⟩, s)
  | none => s.insertClaim bundle

/-- A transition moves the stored claim to its next version and keeps what identifies it. -/
def updateClaim (bundle : TransitionDomainClaim) :
    Except RepositoryError (IdempotentWrite DomainClaim × DomainClaims) := do
  let existing ← orElse .notFound (s.claims.get? bundle.claim.id)
  refuseIf (existing.aggregateVersion ≠ bundle.expectedVersion ∨
      bundle.claim.aggregateVersion ≠ bundle.expectedVersion + 1 ∨
      existing.organizationId ≠ bundle.claim.organizationId ∨
      existing.projectId ≠ bundle.claim.projectId ∨
      existing.environmentId ≠ bundle.claim.environmentId ∨
      existing.pattern ≠ bundle.claim.pattern ∨
      existing.challengeDnsName ≠ bundle.claim.challengeDnsName ∨
      existing.challengeValue ≠ bundle.claim.challengeValue ∨
      existing.createdAt ≠ bundle.claim.createdAt)
    (.conflict "domain claim changed while applying its transition")
  pure (⟨bundle.claim, false⟩, s.store bundle.claim bundle.idempotency bundle.event)

def transitionDomainClaim (bundle : TransitionDomainClaim) :
    Except RepositoryError (IdempotentWrite DomainClaim × DomainClaims) := do
  validateDomainEvent bundle.claim bundle.event
  match ← s.idempotency.replay bundle.idempotency with
  | some claim => pure (⟨claim, true⟩, s)
  | none => s.updateClaim bundle

/-! ### Runs -/

inductive Action
  | create (bundle : CreateDomainClaimWrite)
  | transition (bundle : TransitionDomainClaim)
  deriving DecidableEq

def Action.claim : Action → DomainClaim
  | .create bundle => bundle.claim
  | .transition bundle => bundle.claim

def step : Action → DomainClaims
  | .create bundle => Runs.afterResult s (s.createDomainClaim bundle)
  | .transition bundle => Runs.afterResult s (s.transitionDomainClaim bundle)

/-- What a write does to the claims. -/
inductive Written (s : DomainClaims) (action : Action) : DomainClaims → Prop
  | unchanged : Written s action s
  | created (bundle : CreateDomainClaimWrite) (haction : action = .create bundle)
      (hfree : ∀ existing ∈ s.claims.rows, existing.holdsOwnership = true →
        existing.pattern.conflictsWith bundle.claim.pattern = false) :
      Written s action (s.store bundle.claim bundle.idempotency bundle.event)
  | moved (bundle : TransitionDomainClaim) (existing : DomainClaim)
      (haction : action = .transition bundle)
      (hexisting : s.claims.get? bundle.claim.id = some existing)
      (hversion : bundle.claim.aggregateVersion = existing.aggregateVersion + 1)
      (hpattern : existing.pattern = bundle.claim.pattern) :
      Written s action (s.store bundle.claim bundle.idempotency bundle.event)

theorem step_written (action : Action) : Written s action (s.step action) := by
  cases action with
  | create bundle =>
    refine Runs.afterResult_of .unchanged fun write s' h => ?_
    simp only [createDomainClaim, ok_rules] at h
    obtain ⟨-, replayed, -, h⟩ := h
    cases replayed with
    | some =>
      cases h
      exact .unchanged
    | none =>
      simp only [insertClaim, ok_rules, Prod.mk.injEq] at h
      obtain ⟨hfree, -, -, rfl⟩ := h
      refine .created bundle rfl fun existing hmem hholds => ?_
      rw [Bool.not_eq_true, List.any_eq_false] at hfree
      simpa [hholds] using hfree existing hmem
  | transition bundle =>
    refine Runs.afterResult_of .unchanged fun write s' h => ?_
    simp only [transitionDomainClaim, ok_rules] at h
    obtain ⟨-, replayed, -, h⟩ := h
    cases replayed with
    | some =>
      cases h
      exact .unchanged
    | none =>
      simp only [updateClaim, ok_rules, Prod.mk.injEq, not_or, ne_eq, not_not] at h
      obtain ⟨existing, hexisting, hchecked, -, rfl⟩ := h
      obtain ⟨hexpected, hversion, -, -, -, hpattern, -⟩ := hchecked
      exact .moved bundle existing rfl hexisting (by rw [hversion, hexpected]) hpattern

/-- No two claims that hold ownership have conflicting patterns. -/
structure Inv (s : DomainClaims) : Prop where
  produced : ∀ claim ∈ s.claims.rows, claim.Produced
  apart : ∀ a ∈ s.claims.rows, ∀ b ∈ s.claims.rows, a.id ≠ b.id → a.holdsOwnership = true →
    b.holdsOwnership = true → a.pattern.conflictsWith b.pattern = false

/-- A rejected claim is verified only while no other claim that holds ownership conflicts with it. -/
def VerifiesUncontested : Action → Prop
  | .create _ => True
  | .transition bundle => ∀ existing ∈ s.claims.get? bundle.claim.id,
    existing.state = .rejected → bundle.claim.state = .verified →
      ∀ other ∈ s.claims.rows, other.id ≠ bundle.claim.id → other.holdsOwnership = true →
        other.pattern.conflictsWith bundle.claim.pattern = false

instance (s : DomainClaims) (action : Action) : Decidable (s.VerifiesUncontested action) := by
  cases action <;> unfold VerifiesUncontested <;> infer_instance

theorem Inv.empty : Inv DomainClaims.empty :=
  ⟨fun _ h => (List.not_mem_nil h).elim, fun _ h => (List.not_mem_nil h).elim⟩

variable {s : DomainClaims} {claim : DomainClaim}

/-- Storing a claim that conflicts with no other keeps the invariant. -/
theorem Inv.store (hinv : Inv s) {idempotency : IdempotencyRequest}
    {event : DomainEventEnvelope} (hclaim : claim.Produced)
    (hfree : claim.holdsOwnership = true → ∀ other ∈ s.claims.rows, other.id ≠ claim.id →
      other.holdsOwnership = true → other.pattern.conflictsWith claim.pattern = false) :
    Inv (s.store claim idempotency event) := by
  refine ⟨fun c hc => ?_, fun a ha b hb hne hholds hholds' => ?_⟩
  · rcases Table.mem_insert.1 hc with rfl | ⟨hc, -⟩
    · exact hclaim
    · exact hinv.produced c hc
  · rcases Table.mem_insert.1 ha with rfl | ⟨hold, -⟩ <;>
      rcases Table.mem_insert.1 hb with rfl | ⟨hold', -⟩
    · exact absurd rfl hne
    · rw [DomainNamePattern.conflictsWith_comm]
      exact hfree hholds b hold' (Ne.symm hne) hholds'
    · exact hfree hholds' a hold hne hholds
    · exact hinv.apart a hold b hold' hne hholds hholds'

theorem Inv.step (hinv : Inv s) {action : Action} (hproduced : action.claim.Produced)
    (huncontested : s.step action ≠ s → s.VerifiesUncontested action) : Inv (s.step action) := by
  have hwritten := step_written s action
  by_cases hsame : s.step action = s
  · rw [hsame]
    exact hinv
  replace huncontested := huncontested hsame
  generalize s.step action = s' at hwritten
  cases hwritten with
  | unchanged => exact hinv
  | created bundle haction hfree =>
    subst haction
    exact hinv.store hproduced fun _ other hother _ => hfree other hother
  | moved bundle existing haction hexisting hversion hpattern =>
    subst haction
    obtain ⟨hmem, hid⟩ := Table.get?_eq_some_iff.1 hexisting
    refine hinv.store hproduced fun hholds other hother hne hothers => ?_
    cases hold : existing.holdsOwnership with
    | true =>
      rw [← hpattern]
      exact hinv.apart other hother existing hmem (by rw [show existing.id = _ from hid]; exact hne)
        hothers hold
    | false =>
      obtain ⟨hrejected, hverified⟩ :=
        (hinv.produced existing hmem).regained hproduced hversion hold hholds
      exact huncontested existing hexisting hrejected hverified other hother hne hothers

/-- No hostname is covered by two claims that are pending or verified. -/
def Exclusive (s : DomainClaims) : Prop :=
  ∀ hostname : RouteHostname, ∀ a ∈ s.claims.rows, ∀ b ∈ s.claims.rows,
    a.holdsOwnership = true → b.holdsOwnership = true → a.pattern.covers hostname = true →
      b.pattern.covers hostname = true → a = b

theorem Inv.exclusive (hinv : Inv s) : Exclusive s := by
  intro hostname a ha b hb hholds hholds' hcovers hcovers'
  by_contra hne
  have hid : a.id ≠ b.id := fun hid => hne (s.claims.eq_of_key_eq ha hb hid)
  have hconflict := DomainNamePattern.conflictsWith_of_covers hcovers hcovers'
  rw [hinv.apart a ha b hb hid hholds hholds'] at hconflict
  cases hconflict

end DomainClaims

/-- A hostname has at most one claim that is pending or verified, after every run in which the
verification of a rejected claim is stored only while the claim is uncontested. -/
theorem domainOwnership_exclusive (actions : List DomainClaims.Action) (hall : Runs.Allowed step
      (fun s action => action.claim.Produced ∧ (s.step action ≠ s → s.VerifiesUncontested action))
      empty actions) :
    (Runs.run step empty actions).Exclusive :=
  Inv.exclusive (Runs.invariant (I := Inv)
    (fun _ _ hinv hallowed => hinv.step hallowed.1 hallowed.2) Inv.empty hall)

/-! ### A rejected claim that comes back -/

namespace Sample

def challenge : List Char := List.replicate 32 'c'

variable (id organizationId : Uuid) (name : String)

def domainClaim : DomainClaim where
  id := id
  organizationId := organizationId
  projectId := 1
  environmentId := 1
  pattern := ⟨name.toList⟩
  challengeDnsName := (DomainNamePattern.mk name.toList).challengeDnsName
  challengeValue := challenge
  state := .pending
  failure := none
  aggregateVersion := 1
  createdAt := 0
  updatedAt := 0
  verifiedAt := none
  revokedAt := none

def domainClaimRejected : DomainClaim :=
  { domainClaim id organizationId name with
    state := .rejected, failure := some ['x'], aggregateVersion := 2 }

def domainClaimReverified : DomainClaim :=
  { domainClaim id organizationId name with
    state := .verified, aggregateVersion := 3, verifiedAt := some 0 }

theorem domainClaim_produced : (domainClaim id organizationId name).Produced := by
  have hcreate : DomainClaim.create id organizationId 1 1 ⟨name.toList⟩ challenge 0 =
    .ok (domainClaim id organizationId name) := rfl
  exact .create hcreate

theorem domainClaimRejected_produced : (domainClaimRejected id organizationId name).Produced := by
  have hreject : (domainClaim id organizationId name).reject ['x'] 0 =
    .ok (domainClaimRejected id organizationId name) := rfl
  exact .reject (domainClaim_produced id organizationId name) hreject

theorem domainClaimReverified_produced :
    (domainClaimReverified id organizationId name).Produced := by
  have hverify : (domainClaimRejected id organizationId name).verify 0 =
    .ok (domainClaimReverified id organizationId name) := rfl
  exact .verify (domainClaimRejected_produced id organizationId name) hverify

def domainEvent (claim : DomainClaim) : DomainEventEnvelope where
  eventId := 1
  eventKey := "domain"
  schemaVersion := 1
  organizationId := some claim.organizationId
  aggregateId := claim.id
  aggregateVersion := claim.aggregateVersion
  occurredAt := claim.updatedAt
  correlationId := 1

def createDomain (key : String) (claim : DomainClaim) : DomainClaims.Action :=
  .create ⟨claim, ⟨"domain", key, .sha256 1⟩, domainEvent claim⟩

def transitionDomain (key : String) (claim : DomainClaim) : DomainClaims.Action :=
  .transition ⟨claim, claim.aggregateVersion - 1, ⟨"domain", key, .sha256 1⟩, domainEvent claim⟩

/-- A claim is created and rejected, another organization claims a name, and the first claim is
verified after all. -/
def reverifyRun (name other : String) : List DomainClaims.Action := [
  createDomain "a" (domainClaim 1 10 name),
  transitionDomain "b" (domainClaimRejected 1 10 name),
  createDomain "c" (domainClaim 2 20 other),
  transitionDomain "d" (domainClaimReverified 1 10 name)]

theorem reverifyRun_produced (name other : String) :
    ∀ action ∈ reverifyRun name other, action.claim.Produced := by
  simp only [reverifyRun, List.forall_mem_cons]
  exact ⟨domainClaim_produced 1 10 name, domainClaimRejected_produced 1 10 name,
    domainClaim_produced 2 20 other, domainClaimReverified_produced 1 10 name, by simp⟩

def hostname : RouteHostname := ⟨"www.example.com".toList, by decide +kernel⟩

/-- Both claims hold the hostname at the end of the run, one under a wildcard. -/
theorem verify_after_reject_shares_hostname :
    (∀ action ∈ reverifyRun "www.example.com" "*.example.com", action.claim.Produced) ∧
      ∃ a ∈ (Runs.run step empty
          (reverifyRun "www.example.com" "*.example.com")).claims.rows,
        ∃ b ∈ (Runs.run step empty
          (reverifyRun "www.example.com" "*.example.com")).claims.rows,
          a ≠ b ∧ a.holdsOwnership = true ∧ b.holdsOwnership = true ∧
            a.pattern.covers hostname = true ∧ b.pattern.covers hostname = true :=
  ⟨reverifyRun_produced _ _, by decide +kernel⟩

/-- A claim that is verified after its rejection while it is uncontested owns its name alone. -/
theorem domainOwnership_exclusive_reverified :
    (Runs.run step empty
        (reverifyRun "www.example.com" "*.example.org")).claims.rows.length = 2 ∧
      (Runs.run step empty
        (reverifyRun "www.example.com" "*.example.org")).Exclusive :=
  ⟨by decide +kernel, domainOwnership_exclusive _
    ⟨⟨domainClaim_produced 1 10 _, fun _ => trivial⟩,
      ⟨domainClaimRejected_produced 1 10 _, fun _ => by decide +kernel⟩,
      ⟨domainClaim_produced 2 20 _, fun _ => trivial⟩,
      ⟨domainClaimReverified_produced 1 10 _, fun _ => by decide +kernel⟩, trivial⟩⟩

end Sample

end A3SCloud
