import Mathlib.Data.Prod.Lex
import A3SCloud.Automations.Definition
import A3SCloud.Inference.UsageDatabase
import A3SCloud.Operations.Reconcile

/-!
# The outbox and its relay

The model of `integration_events/application/outbox_relay.rs` over the PostgreSQL repository of
`infrastructure/persistence/postgres.rs`, with the message of `domain/entities/outbox_message.rs` and
the envelope of `crates/contracts/src/event.rs`.

* `Outbox` is the table `outbox_events`. `Outbox.claim` leases the first due rows and restores their
  messages in one transaction: a row that cannot be restored undoes the lease.
* `OutboxRelay.deliverClaimed` projects, publishes and acknowledges one message, or schedules its
  next attempt; `OutboxRelay.runOnce` is one polling turn, which ends at the first failure.

Durations are natural numbers of nanoseconds. The database clock stands still during a turn.
-/

namespace A3SCloud.IntegrationEvents

open Checks

/-! ### The message -/

inductive CloudScopeRef
  | installation (installationId : Uuid)
  | organization (organizationId : Uuid)
  | project (organizationId projectId : Uuid)
  | environment (organizationId projectId environmentId : Uuid)
  deriving DecidableEq

/-- The identities that the accessors of a reference return. -/
def CloudScopeRef.identities : CloudScopeRef → List Uuid
  | installation installationId => [installationId]
  | organization organizationId => [organizationId]
  | project organizationId projectId => [organizationId, projectId]
  | environment organizationId projectId environmentId =>
    [organizationId, projectId, environmentId]

def CloudScopeRef.validate (scope : CloudScopeRef) : Except String Unit :=
  refuseIf (0 ∈ scope.identities) "Cloud scope reference contains a nil identity"

inductive ScopeContext
  | installation (installationId : Uuid)
  | organization (installationId organizationId : Uuid)
  | project (installationId organizationId projectId : Uuid)
  | environment (installationId organizationId projectId environmentId : Uuid)
  deriving DecidableEq

def ScopeContext.identities : ScopeContext → List Uuid
  | installation installationId => [installationId]
  | organization installationId organizationId => [installationId, organizationId]
  | project installationId organizationId projectId =>
    [installationId, organizationId, projectId]
  | environment installationId organizationId projectId environmentId =>
    [installationId, organizationId, projectId, environmentId]

def ScopeContext.validate (scope : ScopeContext) : Except String Unit :=
  refuseIf (0 ∈ scope.identities) "Cloud scope context contains a nil authority identity"

def ScopeContext.reference : ScopeContext → CloudScopeRef
  | installation installationId => .installation installationId
  | organization _ organizationId => .organization organizationId
  | project _ organizationId projectId => .project organizationId projectId
  | environment _ organizationId projectId environmentId =>
    .environment organizationId projectId environmentId

/-- A JSON value, of which the checks read only whether it is an object. -/
structure EventPayload where
  isObject : Bool
  content : String
  deriving DecidableEq

structure DomainEventEnvelope where
  eventId : Uuid
  eventKey : String
  schemaVersion : ℕ
  scope : CloudScopeRef
  aggregateId : Uuid
  aggregateVersion : ℕ
  occurredAt : ℤ
  correlationId : Uuid
  causationId : Option Uuid
  payload : EventPayload

def maxPortableVersion : ℕ := 9007199254740991

def maxEventKeyBytes : ℕ := 255

def validEventKey (value : String) : Bool :=
  value ≠ "" && value.utf8ByteSize ≤ maxEventKeyBytes &&
    3 ≤ (value.toList.splitOn '.').length &&
    (value.toList.splitOn '.').all fun segment =>
      !segment.isEmpty && segment.all fun c => isAsciiLower c || c = '-'

def DomainEventEnvelope.validate (event : DomainEventEnvelope) : Except String Unit := do
  event.scope.validate
  refuseIf (event.eventId = 0 ∨ validEventKey event.eventKey = false ∨ event.schemaVersion = 0 ∨
      event.aggregateId = 0 ∨ event.aggregateVersion = 0 ∨
      maxPortableVersion < event.aggregateVersion ∨ event.correlationId = 0 ∨
      event.causationId = some 0 ∨ event.payload.isObject = false)
    "domain event envelope is invalid"

structure OutboxMessage where
  eventId : Uuid
  eventKey : String
  schemaVersion : ℕ
  scope : ScopeContext
  aggregateId : Uuid
  aggregateVersion : ℕ
  occurredAt : ℤ
  correlationId : Uuid
  causationId : Option Uuid
  payload : EventPayload
  deliveryAttempts : ℕ

def OutboxMessage.domainEvent (message : OutboxMessage) : Except String DomainEventEnvelope := do
  message.scope.validate
  let event : DomainEventEnvelope :=
    { eventId := message.eventId, eventKey := message.eventKey
      schemaVersion := message.schemaVersion, scope := message.scope.reference
      aggregateId := message.aggregateId, aggregateVersion := message.aggregateVersion
      occurredAt := message.occurredAt, correlationId := message.correlationId
      causationId := message.causationId, payload := message.payload }
  event.validate
  pure event

def OutboxMessage.validate (message : OutboxMessage) : Except String Unit :=
  message.domainEvent.map fun _ => ()

/-! ### The table -/

/-- `lease_owner` and `leased_until`, which are null together. -/
structure OutboxLease where
  owner : Uuid
  leasedUntil : ℤ
  deriving DecidableEq

/-- A row of `outbox_events`. The scope is what `serde_json` makes of the scope document. -/
structure OutboxRow where
  eventId : Uuid
  eventKey : String
  schemaVersion : ℕ
  scope : Except String ScopeContext
  aggregateId : Uuid
  aggregateVersion : ℕ
  occurredAt : ℤ
  correlationId : Uuid
  causationId : Option Uuid
  payload : EventPayload
  publishedAt : Option ℤ
  deliveryAttempts : ℕ
  lastError : Option String
  lease : Option OutboxLease
  nextAttemptAt : ℤ

/-- The message of a returned row. -/
def OutboxRow.restore (row : OutboxRow) : Except RepositoryError OutboxMessage := do
  let scope ← row.scope.mapError
    fun error => .storage ("could not serialize persisted response: " ++ error)
  let message : OutboxMessage :=
    { eventId := row.eventId, eventKey := row.eventKey, schemaVersion := row.schemaVersion
      scope := scope, aggregateId := row.aggregateId, aggregateVersion := row.aggregateVersion
      occurredAt := row.occurredAt, correlationId := row.correlationId
      causationId := row.causationId, payload := row.payload
      deliveryAttempts := row.deliveryAttempts }
  message.validate.mapError
    fun error => .storage ("PostgreSQL persistence invariant failed: " ++ error)
  pure message

/-- The row is selected by a claim. -/
def OutboxRow.Due (row : OutboxRow) (now : ℤ) : Prop :=
  row.publishedAt = none ∧ row.nextAttemptAt ≤ now ∧ ∀ lease ∈ row.lease, lease.leasedUntil ≤ now

instance (row : OutboxRow) (now : ℤ) : Decidable (row.Due now) :=
  inferInstanceAs (Decidable (_ ∧ _ ∧ _))

/-- The columns by which a claim orders the rows. -/
def OutboxRow.rank (row : OutboxRow) : ℤ ×ₗ ℤ ×ₗ ℕ :=
  toLex (row.nextAttemptAt, toLex (row.occurredAt, row.eventId))

def OutboxRow.RankLe (row row' : OutboxRow) : Prop := row.rank ≤ row'.rank

instance : DecidableRel OutboxRow.RankLe := fun row row' =>
  inferInstanceAs (Decidable (row.rank ≤ row'.rank))

abbrev Outbox := Table OutboxRow.eventId

def nanosPerMilli : ℕ := 1000000

def positiveIntervalMillis (duration : ℕ) (purpose : String) : Except RepositoryError ℕ := do
  let milliseconds := duration / nanosPerMilli
  refuseIf (milliseconds = 0)
    (.conflict ("Outbox " ++ purpose ++ " must be at least one millisecond"))
  refuseIf (i64Max < milliseconds)
    (.conflict ("Outbox " ++ purpose ++ " exceeds the supported duration"))
  pure milliseconds

/-- The clock after a number of milliseconds. -/
def afterMillis (now : ℤ) (milliseconds : ℕ) : ℤ := now + milliseconds * nanosPerMilli

def validateClaimIdentity (eventId owner : Uuid) (action : String) :
    Except RepositoryError Unit :=
  refuseIf (eventId = 0 ∨ owner = 0)
    (.conflict ("cannot " ++ action ++ " outbox event without a valid event and lease owner"))

namespace Outbox

/-- The update of a claimed row. -/
def leaseRow (owner : Uuid) (leasedUntil : ℤ) (row : OutboxRow) : OutboxRow :=
  { row with
    lease := some ⟨owner, leasedUntil⟩
    deliveryAttempts := row.deliveryAttempts + 1 }

def claim (outbox : Outbox) (now : ℤ) (owner : Uuid) (limit leaseDuration : ℕ) :
    Except RepositoryError (List OutboxMessage × Outbox) :=
  if limit = 0 then .ok ([], outbox) else do
    refuseIf (owner = 0) (.conflict "Outbox claim requires a non-nil lease owner")
    refuseIf (i64Max < limit) (.conflict "Outbox claim limit exceeds the supported range")
    let leaseMillis ← positiveIntervalMillis leaseDuration "claim lease"
    let claimed := outbox.firstRows (fun row => row.Due now) OutboxRow.RankLe limit
    -- `delivery_attempts` is a column of type `integer`
    refuseIf (∃ row ∈ claimed, i32Max ≤ row.deliveryAttempts)
      (.storage "PostgreSQL query failed: integer out of range")
    let messages ← mapAll OutboxRow.restore
      (claimed.map (leaseRow owner (afterMillis now leaseMillis)))
    pure (messages, outbox.mapRows (fun row =>
      if row.eventId ∈ claimed.map OutboxRow.eventId then
        leaseRow owner (afterMillis now leaseMillis) row else row)
      (by intro row; split_ifs <;> rfl))

/-- The update of the row of an event whose active lease the owner holds. -/
def settle (outbox : Outbox) (now : ℤ) (eventId owner : Uuid) (action : String)
    (change : OutboxRow → OutboxRow) (hchange : ∀ row, (change row).eventId = row.eventId) :
    Except RepositoryError Outbox := do
  refuseIf (∀ row ∈ outbox.get? eventId, ¬ (row.publishedAt = none ∧
      ∃ lease ∈ row.lease, lease.owner = owner ∧ now < lease.leasedUntil))
    (.conflict ("cannot " ++ action ++
      " outbox event because its active lease is no longer owned"))
  pure (outbox.modify eventId change hchange)

def markPublished (outbox : Outbox) (now : ℤ) (eventId owner : Uuid) (publishedAt : ℤ) :
    Except RepositoryError Outbox := do
  validateClaimIdentity eventId owner "publish"
  outbox.settle now eventId owner "publish"
    (fun row => { row with publishedAt := some publishedAt, lease := none, lastError := none })
    (fun _ => rfl)

def markFailed (outbox : Outbox) (now : ℤ) (eventId owner : Uuid) (error : String)
    (retryAfter : ℕ) : Except RepositoryError Outbox := do
  validateClaimIdentity eventId owner "fail"
  let retryMillis ← positiveIntervalMillis retryAfter "retry delay"
  outbox.settle now eventId owner "fail"
    (fun row => { row with
      lastError := some (String.ofList (error.toList.take 2048))
      nextAttemptAt := afterMillis now retryMillis
      lease := none })
    (fun _ => rfl)

end Outbox

/-! ### The relay -/

structure OutboxRelayConfig where
  batchSize : ℕ
  pollInterval : ℕ
  leaseDuration : ℕ
  publishTimeout : ℕ
  initialBackoff : ℕ
  maximumBackoff : ℕ
  deriving DecidableEq

def OutboxRelayConfig.validate (config : OutboxRelayConfig) : Except String OutboxRelayConfig := do
  refuseIf (config.batchSize = 0 ∨ config.pollInterval = 0 ∨
      config.leaseDuration ≤ config.publishTimeout ∨ config.publishTimeout = 0 ∨
      config.initialBackoff = 0 ∨ config.maximumBackoff < config.initialBackoff)
    ("outbox relay requires a positive batch and timings, a lease longer than publish timeout, " ++
      "and ordered backoff bounds")
  pure config

def durationMax : ℕ := (2 ^ 64 - 1) * 1000000000 + 999999999

def retryDelay (config : OutboxRelayConfig) (attempts : ℕ) : ℕ :=
  let exponent := min (attempts - 1) 20
  min (min (config.initialBackoff * 2 ^ exponent) durationMax) config.maximumBackoff

structure OutboxRelayFailure where
  eventId : Uuid
  error : String
  deriving DecidableEq

structure OutboxRelayReport where
  claimed : ℕ := 0
  published : ℕ := 0
  failures : List OutboxRelayFailure := []
  deriving DecidableEq

/-- A relay: its owner is a random identifier and its configuration passed the check. -/
structure OutboxRelay where
  owner : Uuid
  config : OutboxRelayConfig
  owner_ne : owner ≠ 0
  valid : config.validate = .ok config

/-- What the projectors, the publisher and the publish timer do during one turn. -/
structure DeliveryPorts where
  projectors : List (OutboxMessage → Except String Unit)
  publish : OutboxMessage → Except String Unit
  timedOut : OutboxMessage → Bool

namespace OutboxRelay

variable (relay : OutboxRelay)

/-- The future that runs under the publish timeout, with the text of its failure. -/
def publishMessage (ports : DeliveryPorts) (message : OutboxMessage) : Except String Unit :=
  if ports.timedOut message then
    .error ("integration event publish timed out after " ++
      toString (relay.config.publishTimeout / nanosPerMilli) ++ " ms")
  else (do
    let _ ← message.domainEvent.mapError ("committed integration event is invalid: " ++ ·)
    checkAll (fun project => (project message).mapError
      ("integration event projection failed: " ++ ·)) ports.projectors
    ports.publish message : Except String Unit).mapError ("integration event publish failed: " ++ ·)

/-- The failed delivery, whose next attempt is scheduled if the repository accepts it. -/
def scheduleRetry (now : ℤ) (outbox : Outbox) (message : OutboxMessage)
    (failure : String) : Except OutboxRelayFailure Unit × Outbox :=
  match outbox.markFailed now message.eventId relay.owner failure
      (retryDelay relay.config message.deliveryAttempts) with
  | .ok outbox' => (.error ⟨message.eventId, failure⟩, outbox')
  | .error markError =>
    (.error ⟨message.eventId, failure ++ "; could not schedule retry: " ++ markError.text⟩, outbox)

def deliverClaimed (ports : DeliveryPorts) (now : ℤ) (outbox : Outbox)
    (message : OutboxMessage) : Except OutboxRelayFailure Unit × Outbox :=
  match relay.publishMessage ports message with
  | .ok () =>
    match outbox.markPublished now message.eventId relay.owner now with
    | .ok outbox' => (.ok (), outbox')
    | .error error => relay.scheduleRetry now outbox message
        ("event was published but its outbox acknowledgement failed: " ++ error.text)
  | .error failure => relay.scheduleRetry now outbox message failure

/-- The loop of a turn, with the number of messages that it may still claim. -/
def runLoop (relay : OutboxRelay) (ports : DeliveryPorts) (now : ℤ) :
    ℕ → OutboxRelayReport → Outbox → Except RepositoryError OutboxRelayReport × Outbox
  | 0, report, outbox => (.ok report, outbox)
  | remaining + 1, report, outbox =>
    match outbox.claim now relay.owner 1 relay.config.leaseDuration with
    | .error error => (.error error, outbox)
    | .ok (_ :: _ :: _, leased) =>
      (.error (.storage
        "Outbox repository returned more messages than the requested claim limit"), leased)
    | .ok ([], leased) => (.ok report, leased)
    | .ok ([message], leased) =>
      let claimed := { report with claimed := report.claimed + 1 }
      match relay.deliverClaimed ports now leased message with
      | (.ok (), outbox') =>
        relay.runLoop ports now remaining { claimed with published := claimed.published + 1 }
          outbox'
      -- a failed delivery ends the turn
      | (.error failure, outbox') =>
        (.ok { claimed with failures := claimed.failures ++ [failure] }, outbox')

def runOnce (ports : DeliveryPorts) (now : ℤ) (outbox : Outbox) :
    Except RepositoryError OutboxRelayReport × Outbox :=
  relay.runLoop ports now relay.config.batchSize {} outbox

/-- The database clock at a turn. -/
def clock (start : ℤ) (turn : ℕ) : ℤ :=
  start + turn * relay.config.pollInterval

/-- The outbox after a number of turns; an error of a turn is only logged. -/
def turns (relay : OutboxRelay) (ports : ℕ → DeliveryPorts) (start : ℤ) (outbox : Outbox) :
    ℕ → Outbox
  | 0 => outbox
  | turn + 1 =>
    (relay.runOnce (ports turn) (relay.clock start turn) (turns relay ports start outbox turn)).2

end OutboxRelay

end A3SCloud.IntegrationEvents
