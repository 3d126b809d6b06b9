import A3SCloud.Automations.Definition
import A3SCloud.Shared.Idempotency
import A3SCloud.Lib.Runs

/-!
# Invocations and their admission

The model of `crates/contracts/src/automation/invocation.rs`, of
`AutomationDeduplicationPolicyV1::render_key`, and of the admission repository
`automations/infrastructure/invocation_in_memory.rs`. Every admission also writes an audit record and
an outbox message; both are made of an envelope that has passed its check and cannot fail.

* `AutomationCodec` is what other libraries do: the ACL and JSON encodings with their digests, the
  texts of identifiers and times, and version 5 identifiers.
* `AutomationDeduplicationPolicy.renderKey` fills the template of a policy.
* `AutomationInvocationEnvelope.validateForRevision` binds an envelope to its revision.
* `InvocationStore.admitEnvelope` admits an envelope once for its identity and its deduplication key.
-/

namespace A3SCloud

open Checks

/-! ### Envelopes -/

inductive AutomationInvocationOrigin
  | dueTime (scheduledAt : ℤ)
  | event (eventId : Uuid) (eventKey : String) (eventDigest : DigestText) (observedAt : ℤ)
  deriving DecidableEq

namespace AutomationInvocationOrigin

def validate : AutomationInvocationOrigin → Except String Unit
  | dueTime scheduledAt => validateTimestamp "Automation scheduled_at" scheduledAt
  | event eventId eventKey eventDigest observedAt => do
    validateUuid "Automation event ID" eventId
    validateEventKey eventKey
    validateDigest "Automation event digest" eventDigest
    validateTimestamp "Automation event observed_at" observedAt

def isDueTime : AutomationInvocationOrigin → Bool
  | dueTime _ => true
  | event .. => false

end AutomationInvocationOrigin

inductive AutomationInvocationInput
  | inlineJson (value : String) (digest : DigestText) (sizeBytes : ℕ)
  | immutableObject (space key mediaType : String) (digest : DigestText) (sizeBytes : ℕ)
  deriving DecidableEq

structure AutomationInvocationAuthorization where
  policyDigest : DigestText
  grantSnapshotDigest : DigestText
  principalId : Option Uuid
  deriving DecidableEq

structure AutomationInvocationEnvelope where
  schema : SchemaText
  invocationId : Uuid
  automationId : Uuid
  automationRevisionId : Uuid
  automationRevisionDigest : DigestText
  organizationId : Uuid
  projectId : Uuid
  environmentId : Uuid
  target : AutomationTarget
  origin : AutomationInvocationOrigin
  subscription : Option AutomationSubscriptionReference
  deduplicationKey : String
  input : AutomationInvocationInput
  authorization : AutomationInvocationAuthorization
  requestedAt : ℤ
  correlationId : Uuid
  causationId : Option Uuid
  deriving DecidableEq

/-! ### What other libraries do -/

structure AutomationCodec where
  /-- The digest of the canonical ACL of a definition, if it can be generated and read back. -/
  definitionDigest : AutomationDefinitionSpec → Except String DigestText
  /-- The digest of the canonical ACL of a revision, if it can be generated and read back. -/
  revisionDigest : AutomationRevisionSpec → Except String DigestText
  /-- The size and the digest of the canonical JSON of an inline input, if it is not too large. -/
  inlineJson : String → Except String (ℕ × DigestText)
  /-- The digest of the canonical JSON of an envelope, if it is not too large. -/
  envelopeDigest : AutomationInvocationEnvelope → Except String DigestText
  /-- `Uuid::to_string`. -/
  uuidText : Uuid → String
  /-- `timestamp_string`, in RFC 3339 with milliseconds. -/
  timestampText : ℤ → String
  /-- RFC 3339 with nanoseconds. -/
  nanosText : ℤ → String
  /-- `Uuid::new_v5`. -/
  uuidV5 : Uuid → String → Uuid

/-- The texts of identifiers and times contain no braces and can be told apart. -/
structure AutomationCodec.Lawful (codec : AutomationCodec) : Prop where
  uuidText : Function.Injective codec.uuidText
  timestampText : ∀ s t, s % 1000000 = 0 → t % 1000000 = 0 →
    codec.timestampText s = codec.timestampText t → s = t
  uuidPlain : ∀ id, Template.Plain (codec.uuidText id).toList
  timestampPlain : ∀ t, Template.Plain (codec.timestampText t).toList

variable (codec : AutomationCodec)

/-! ### Revisions -/

structure AutomationDefinition where
  spec : AutomationDefinitionSpec
  digest : DigestText
  deriving DecidableEq

namespace AutomationDefinition

def fromSpec (spec : AutomationDefinitionSpec) : Except String AutomationDefinition := do
  spec.authorization.validate
  let spec := spec.normalize
  spec.validate
  let digest ← codec.definitionDigest spec
  pure ⟨spec, digest⟩

def validate (definition : AutomationDefinition) : Except String Unit := do
  let restored ← fromSpec codec definition.spec
  refuseIf (restored.digest ≠ definition.digest)
    "stored Automation definition ACL and digest do not match"
  refuseIf (restored ≠ definition) "Automation definition drifted from its canonical ACL"

end AutomationDefinition

namespace AutomationRevision

def fromSpec (spec : AutomationRevisionSpec) : Except String AutomationRevision := do
  spec.definition.authorization.validate
  let spec := spec.normalize
  spec.validate
  let digest ← codec.revisionDigest spec
  pure ⟨spec, digest⟩

def validate (revision : AutomationRevision) : Except String Unit := do
  let restored ← fromSpec codec revision.spec
  refuseIf (restored.digest ≠ revision.digest)
    "stored Automation revision ACL and digest do not match"
  refuseIf (restored ≠ revision) "Automation revision drifted from its canonical ACL"

def validateSuccessorOf (revision parent : AutomationRevision) : Except String Unit := do
  revision.validate codec
  parent.validate codec
  refuseIf (revision.spec.definition.automationId ≠ parent.spec.definition.automationId)
    "Automation successor changed its definition identity"
  refuseIf (revision.spec.revisionId = parent.spec.revisionId)
    "Automation successor must use a new revision identity"
  let expectedRevisionNumber ← orElse "Automation parent revision number overflowed"
    (checkedAdd parent.spec.revisionNumber 1)
  refuseIf (revision.spec.revisionNumber ≠ expectedRevisionNumber ∨
      revision.spec.parentRevisionId ≠ some parent.spec.revisionId ∨
      revision.spec.parentDigest ≠ some parent.digest)
    "Automation successor lineage is not contiguous"
  refuseIf (revision.spec.definition = parent.spec.definition)
    "Automation successor must change immutable trigger intent"

variable {codec}

/-- The definition of a revision that passes its check passes its own. -/
theorem definition_of_validate {revision : AutomationRevision}
    (h : revision.validate codec = .ok ()) : revision.spec.definition.validate = .ok () := by
  simp only [validate, fromSpec, ok_rules, ne_eq, not_not] at h
  obtain ⟨restored, ⟨-, hspec, digest, -, rfl⟩, -, heq⟩ := h
  simp only [AutomationRevisionSpec.validate, ok_rules] at hspec
  rw [← heq]
  exact hspec.2.2.2.2.1

end AutomationRevision

/-! ### Checks of an envelope -/

def automationInvocationObjectKeyBytes : ℕ := 2048

def validateDottedNamespace (value : String) : Except String Unit :=
  refuseIf (value = "" ∨ 128 < value.utf8ByteSize ∨
      (value.toList.splitOn '.').any (fun segment => segment.isEmpty ||
        segment.head? = some '-' || segment.getLast? = some '-' ||
        !segment.all (fun c => isAsciiLower c || isAsciiDigit c || c = '-')))
    "Automation immutable-object namespace is invalid"

def validateObjectKey (value : String) : Except String Unit :=
  refuseIf (value = "" ∨ automationInvocationObjectKeyBytes < value.utf8ByteSize ∨
      value.toList.head? = some '/' ∨ value.toList.getLast? = some '/' ∨
      containsAny value ['\x00', '\r', '\n', '\\'] ∨
      (value.toList.splitOn '/').any (fun segment => segment.isEmpty ||
        segment = ['.'] || segment = ['.', '.']))
    "Automation immutable-object key is invalid"

def isMediaTypeChar (c : Char) : Bool :=
  isAsciiLower c || isAsciiDigit c || ['!', '#', '$', '&', '^', '_', '.', '+', '-'].contains c

def validateMediaType (label value : String) : Except String Unit := do
  refuseIf ((value.toList.splitOn '/').length < 2) (label ++ " is invalid")
  refuseIf ((value.toList.splitOn '/').length ≠ 2 ∨ 127 < value.utf8ByteSize ∨
      (value.toList.splitOn '/').any (fun segment => segment.isEmpty ||
        !segment.all isMediaTypeChar))
    (label ++ " must be one canonical lowercase media type")

def AutomationInvocationInput.validate : AutomationInvocationInput → Except String Unit
  | inlineJson value digest sizeBytes => do
    let canonical ← codec.inlineJson value
    refuseIf (sizeBytes ≠ canonical.1 ∨ digest ≠ canonical.2)
      "Automation inline input bytes and digest do not match"
  | immutableObject space key mediaType digest sizeBytes => do
    validateDottedNamespace space
    validateObjectKey key
    validateMediaType "Automation immutable-object media type" mediaType
    validateDigest "Automation immutable-object digest" digest
    refuseIf (sizeBytes = 0 ∨ maxSafeInteger < sizeBytes)
      "Automation immutable-object size is outside its bound"

def AutomationInvocationAuthorization.validate (authorization : AutomationInvocationAuthorization) :
    Except String Unit := do
  validateDigest "Automation invocation authorization policy digest" authorization.policyDigest
  validateDigest "Automation invocation grant snapshot digest" authorization.grantSnapshotDigest
  refuseIf (authorization.principalId = some 0)
    "Automation invocation principal ID must not be nil"

def validateSubscriptionIfAny : Option AutomationSubscriptionReference → Except String Unit
  | none => .ok ()
  | some subscription => subscription.validate

/-- `AutomationDeduplicationPolicyV1::render_key`. -/
def AutomationDeduplicationPolicy.renderKey (policy : AutomationDeduplicationPolicy)
    (automationId revisionId : Uuid) (origin : AutomationInvocationOrigin)
    (subscriptionId : Option Uuid) : Except String String := do
  origin.validate
  validateUuid "Automation ID" automationId
  validateUuid "Automation revision ID" revisionId
  let key := Template.replace Placeholder.automationId.pattern (codec.uuidText automationId).toList
    policy.keyTemplate.toList
  let key := Template.replace Placeholder.revisionId.pattern (codec.uuidText revisionId).toList key
  let key ← replaceSubscription key
  let key ← replaceOrigin key
  refuseIf ('{' ∈ key ∨ '}' ∈ key)
    "Automation deduplication key could not resolve its template"
  validateSingleLine "Automation deduplication key" (String.ofList key) 1024
  pure (String.ofList key)
where
  /-- The subscription of an event. -/
  replaceSubscription (key : List Char) : Except String (List Char) :=
    match subscriptionId with
    | none => .ok key
    | some subscriptionId => do
      validateUuid "Automation subscription ID" subscriptionId
      pure (Template.replace Placeholder.subscriptionId.pattern
        (codec.uuidText subscriptionId).toList key)
  /-- The trigger of the invocation. -/
  replaceOrigin (key : List Char) : Except String (List Char) :=
    match origin with
    | .dueTime scheduledAt => .ok (Template.replace Placeholder.scheduledAt.pattern
        (codec.timestampText scheduledAt).toList key)
    | .event eventId _ _ _ => do
      validateUuid "Automation event ID" eventId
      pure (Template.replace Placeholder.eventId.pattern (codec.uuidText eventId).toList key)

namespace AutomationInvocationEnvelope

def validate (envelope : AutomationInvocationEnvelope) : Except String Unit := do
  validateSchema "unsupported Automation invocation schema" envelope.schema
  validateUuid "Automation invocation ID" envelope.invocationId
  validateUuid "Automation ID" envelope.automationId
  validateUuid "Automation revision ID" envelope.automationRevisionId
  validateDigest "Automation invocation revision digest" envelope.automationRevisionDigest
  validateUuid "Automation invocation organization ID" envelope.organizationId
  validateUuid "Automation invocation project ID" envelope.projectId
  validateUuid "Automation invocation environment ID" envelope.environmentId
  envelope.target.validate
  envelope.origin.validate
  validateSubscriptionIfAny envelope.subscription
  refuseIf (envelope.origin.isDueTime ≠ envelope.subscription.isNone)
    ("Automation due-time invocations cannot carry a subscription and event invocations must " ++
      "carry one")
  validateSingleLine "Automation invocation deduplication key" envelope.deduplicationKey 1024
  envelope.input.validate codec
  envelope.authorization.validate
  validateTimestamp "Automation invocation requested_at" envelope.requestedAt
  validateUuid "Automation invocation correlation ID" envelope.correlationId
  refuseIf (envelope.causationId = some 0) "Automation invocation causation ID must not be nil"
  let _ ← codec.envelopeDigest envelope

def originMatches : AutomationTrigger → AutomationInvocationOrigin → Bool
  | .schedule _, .dueTime _ => true
  | .webhook _, .event .. => true
  | .pluginEvent trigger, .event _ eventKey _ _ => trigger.eventKey = eventKey
  | .sourceEvent trigger, .event _ eventKey _ _ => trigger.eventKey = eventKey
  | _, _ => false

def validateForRevision (envelope : AutomationInvocationEnvelope) (revision : AutomationRevision) :
    Except String Unit := do
  envelope.validate codec
  revision.validate codec
  let definition := revision.spec.definition
  refuseIf (envelope.automationId ≠ definition.automationId ∨
      envelope.automationRevisionId ≠ revision.spec.revisionId ∨
      envelope.automationRevisionDigest ≠ revision.digest ∨
      envelope.organizationId ≠ definition.organizationId ∨
      envelope.projectId ≠ definition.projectId ∨
      envelope.environmentId ≠ definition.environmentId ∨
      envelope.target ≠ definition.target)
    "Automation invocation does not bind its exact revision target"
  refuseIf (envelope.subscription ≠ definition.trigger.subscription)
    "Automation invocation subscription drifted from its trigger"
  refuseIf (¬ originMatches definition.trigger envelope.origin)
    "Automation invocation origin does not match its trigger"
  let expectedKey ← definition.policy.deduplication.renderKey codec envelope.automationId
    envelope.automationRevisionId envelope.origin (envelope.subscription.map (·.subscriptionId))
  refuseIf (expectedKey ≠ envelope.deduplicationKey)
    "Automation invocation deduplication key is not policy-derived"
  refuseIf (envelope.authorization.policyDigest ≠ definition.authorization.policyDigest)
    "Automation invocation authorization policy drifted"

def digest (envelope : AutomationInvocationEnvelope) : Except String DigestText := do
  envelope.validate codec
  codec.envelopeDigest envelope

end AutomationInvocationEnvelope

/-! ### The admission repository -/

structure AutomationInvocationRecord where
  envelope : AutomationInvocationEnvelope
  digest : DigestText
  deriving DecidableEq

namespace AutomationInvocationRecord

def new (envelope : AutomationInvocationEnvelope) : Except String AutomationInvocationRecord := do
  envelope.validate codec
  let digest ← envelope.digest codec
  pure ⟨envelope, digest⟩

def key (record : AutomationInvocationRecord) : Uuid × Uuid :=
  (record.envelope.organizationId, record.envelope.invocationId)

def deduplicationKey (record : AutomationInvocationRecord) : Uuid × Uuid × String :=
  (record.envelope.organizationId, record.envelope.automationId, record.envelope.deduplicationKey)

end AutomationInvocationRecord

/-- The invocation that a deduplication key is bound to. -/
structure DeduplicationBinding where
  key : Uuid × Uuid × String
  invocationId : Uuid
  deriving DecidableEq

structure InvocationStore where
  byInvocation : Table AutomationInvocationRecord.key
  byDeduplication : Table DeduplicationBinding.key

namespace InvocationStore

def empty : InvocationStore := ⟨.empty, .empty⟩

def keyBound (invocationId : Uuid) : RepositoryError :=
  .conflict ("Automation deduplication key is already bound to invocation " ++
    codec.uuidText invocationId)

def identityReused : RepositoryError :=
  .conflict "Automation invocation identity was reused with different immutable evidence"

/-- `admit`: the record, and whether it was there before. -/
def admitEnvelope (store : InvocationStore) (envelope : AutomationInvocationEnvelope) :
    Except RepositoryError ((AutomationInvocationRecord × Bool) × InvocationStore) := do
  let record ← (AutomationInvocationRecord.new codec envelope).mapError .conflict
  match store.byInvocation.get? record.key with
  | some existing =>
    if existing = record then pure ((existing, true), store) else .error identityReused
  | none =>
    match store.byDeduplication.get? record.deduplicationKey with
    | some bound => .error (keyBound codec bound.invocationId)
    | none =>
      pure ((record, false),
        ⟨store.byInvocation.insert record,
          store.byDeduplication.insert ⟨record.deduplicationKey, envelope.invocationId⟩⟩)

/-- The store after an admission; one that fails leaves it as it is. -/
def step (store : InvocationStore) (envelope : AutomationInvocationEnvelope) : InvocationStore :=
  Runs.afterResult store (store.admitEnvelope codec envelope)

end InvocationStore

end A3SCloud
