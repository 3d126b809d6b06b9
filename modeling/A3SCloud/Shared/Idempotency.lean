import A3SCloud.Fleet.Control

/-!
# Idempotent writes

What the repositories of the control plane share: the request under which a write is made
(`shared_kernel/domain/idempotency.rs`), the table of the answers it has been given, the event that
goes with a write (`crates/contracts/src/event.rs`), and the errors of the services above them
(`shared_kernel/application/error.rs`).

* `IdempotencyTable.replay` answers a repeated request: nothing was written under it, or the answer
  of the write is returned, or the request has changed.
-/

namespace A3SCloud

open Checks

inductive ApplicationError
  | invalid (message : String)
  | notFound (message : String)
  | conflict (message : String)
  | forbidden (message : String)
  | unavailable (message : String)
  | internal (message : String)
  deriving DecidableEq

def ApplicationError.message : ApplicationError → String
  | invalid message | notFound message | conflict message | forbidden message
  | unavailable message | internal message => message

def ApplicationError.ofRepository : RepositoryError → ApplicationError
  | .notFound => .notFound "resource not found"
  | .conflict message => .conflict message
  | .forbidden message => .forbidden message
  | .idempotencyConflict => .conflict "idempotency key reused with different input"
  | .storage message => .internal message

structure IdempotencyRequest where
  scope : String
  key : String
  requestDigest : DigestText
  deriving DecidableEq

/-- The fields of an event that the repositories check. -/
structure DomainEventEnvelope where
  eventId : Uuid
  eventKey : String
  schemaVersion : ℕ
  organizationId : Option Uuid
  aggregateId : Uuid
  aggregateVersion : ℕ
  occurredAt : ℤ
  correlationId : Uuid
  deriving DecidableEq

/-- The answer that was given to a request. -/
structure IdempotencyRecord (α : Type) where
  request : IdempotencyRequest
  value : α
  deriving DecidableEq

namespace IdempotencyRecord

variable {α : Type}

def key (record : IdempotencyRecord α) : String × String :=
  (record.request.scope, record.request.key)

end IdempotencyRecord

abbrev IdempotencyTable (α : Type) := Table (IdempotencyRecord.key (α := α))

namespace IdempotencyTable

variable {α : Type}

def replay (table : IdempotencyTable α) (request : IdempotencyRequest) :
    Except RepositoryError (Option α) :=
  match table.get? (request.scope, request.key) with
  | none => .ok none
  | some record =>
    if record.request.requestDigest ≠ request.requestDigest then .error .idempotencyConflict
    else .ok (some record.value)

def record (table : IdempotencyTable α) (request : IdempotencyRequest) (value : α) :
    IdempotencyTable α := table.insert ⟨request, value⟩

end IdempotencyTable

end A3SCloud
