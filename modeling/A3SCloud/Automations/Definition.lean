import Mathlib.Data.List.Sort
import A3SCloud.Contracts.Basic
import A3SCloud.Lib.Template

/-!
# Automation definitions and revisions

The model of `crates/contracts/src/automation/definition.rs` with the checks of `validation.rs`.

* `templatePlaceholders` reads the holes of a deduplication template.
* `AutomationDefinitionSpec.validate` is the check of a definition, and
  `AutomationDeduplicationPolicy.validate` the part of it that is about the template.
* `AutomationRevision` is one revision of a definition. Its ACL text is a function of the revision,
  so only its digest is kept; `AutomationCodec` is what the ACL library makes of a revision.
-/

namespace A3SCloud

open Checks

/-! ### Checks on texts -/

def isAsciiLower (c : Char) : Bool := 'a' ≤ c ∧ c ≤ 'z'

def isAsciiDigit (c : Char) : Bool := '0' ≤ c ∧ c ≤ '9'

def isAsciiAlphanumeric (c : Char) : Bool :=
  isAsciiLower c || isAsciiDigit c || ('A' ≤ c ∧ c ≤ 'Z')

variable (value : String)

/-- `value != value.trim()`. -/
def isUntrimmed : Bool :=
  value.toList.head?.any isTrimmed || value.toList.getLast?.any isTrimmed

/-- The check of a digest text in the Automation contracts. -/
def validateDigest (label : String) : DigestText → Except String Unit
  | .sha256 _ => .ok ()
  | .other _ => .error (label ++ " must use canonical lowercase SHA-256 syntax")

def validateOptionalDigest (label : String) : Option DigestText → Except String Unit
  | none => .ok ()
  | some digest => validateDigest label digest

def validateName (label value : String) (maximum : ℕ) : Except String Unit :=
  refuseIf (value = "" ∨ maximum < value.utf8ByteSize ∨ isUntrimmed value ∨
      containsAny value ['\x00', '\r', '\n'] ∨
      ¬ value.toList.all (fun c => isAsciiAlphanumeric c || ['-', '_', '.', ' '].contains c))
    (label ++ " is not a bounded portable name")

def validateEventKey : Except String Unit :=
  refuseIf (value = "" ∨ 255 < value.utf8ByteSize ∨ (value.toList.splitOn '.').length < 2 ∨
      (value.toList.splitOn '.').any (fun segment => segment.isEmpty ||
        !segment.all (fun c => isAsciiLower c || isAsciiDigit c || c = '-')))
    "Automation event key must use lowercase dotted syntax"

def isPermissionChar (c : Char) : Bool :=
  isAsciiLower c || isAsciiDigit c || ['.', '-', '_'].contains c

def validateGrant : Except String Unit := do
  validateSingleLine "Automation grant" value 128
  refuseIf (':' ∉ value.toList) "Automation grant must use resource:action syntax"
  let resource := value.toList.takeWhile (· ≠ ':')
  let action := (value.toList.dropWhile (· ≠ ':')).drop 1
  refuseIf (resource = [] ∨ action = [] ∨ ¬ resource.all isPermissionChar ∨
      ¬ action.all isPermissionChar)
    "Automation grant must use portable resource:action syntax"

def validateTimezone : Except String Unit :=
  refuseIf (value = "" ∨ 255 < value.utf8ByteSize ∨
      containsAny value ['\x00', '\r', '\n', '\t', ' '] ∨ value.toList.head? = some '/' ∨
      value.toList.getLast? = some '/' ∨ ['/', '/'] <:+: value.toList ∨
      ¬ value.toList.all (fun c => isAsciiAlphanumeric c || ['_', '+', '-', '/'].contains c))
    "Automation timezone must use a bounded IANA-style name"

def validateCronExpression : Except String Unit :=
  refuseIf (value = "" ∨ 255 < value.utf8ByteSize ∨ (value.toList.splitOn ' ').length ≠ 7 ∨
      (value.toList.splitOn ' ').any (fun field => field.isEmpty ||
        !field.all (fun c => isAsciiAlphanumeric c || ['*', ',', '-', '/', '?'].contains c)))
    "Automation schedule must use one canonical seven-field cron expression"

/-- A time has no more than milliseconds. -/
def validateTimestamp (label : String) (t : ℤ) : Except String Unit :=
  refuseIf (t % 1000000 ≠ 0) (label ++ " must use canonical millisecond precision")

/-- `9_007_199_254_740_991`. -/
def maxSafeInteger : ℕ := 2 ^ 53 - 1

/-! ### Templates -/

/-- The placeholders of a deduplication template. -/
inductive Placeholder
  | automationId
  | revisionId
  | subscriptionId
  | eventId
  | scheduledAt
  deriving DecidableEq

namespace Placeholder

def name : Placeholder → String
  | automationId => "automation_id"
  | revisionId => "revision_id"
  | subscriptionId => "subscription_id"
  | eventId => "event_id"
  | scheduledAt => "scheduled_at"

def all : List Placeholder := [automationId, revisionId, subscriptionId, eventId, scheduledAt]

def chars (p : Placeholder) : List Char := p.name.toList

/-- The text that stands for the placeholder in a template. -/
def pattern (p : Placeholder) : List Char := (Template.Segment.hole p.chars).text

end Placeholder

/-- The check of one placeholder, given those before it. -/
def checkPlaceholder (seen : List (List Char)) (name : List Char) : Except String Unit := do
  refuseIf (name ∉ Placeholder.all.map (·.chars))
    ("Automation deduplication template uses unsupported placeholder \x7b" ++ String.ofList name ++
      "\x7d")
  refuseIf (name ∈ seen)
    ("Automation deduplication template repeats \x7b" ++ String.ofList name ++ "\x7d")

def templatePlaceholders : Except String (List (List Char)) := do
  validateSingleLine "Automation deduplication template" value 512
  Template.scan "Automation deduplication template has an unmatched brace" checkPlaceholder [] none
    value.toList

/-! ### Triggers and targets -/

structure AutomationSubscriptionReference where
  subscriptionId : Uuid
  revisionDigest : DigestText
  deriving DecidableEq

def AutomationSubscriptionReference.validate (reference : AutomationSubscriptionReference) :
    Except String Unit := do
  validateUuid "Automation subscription ID" reference.subscriptionId
  validateDigest "Automation subscription revision digest" reference.revisionDigest

structure AutomationScheduleTrigger where
  expression : String
  timezone : String
  deriving DecidableEq

def AutomationScheduleTrigger.validate (trigger : AutomationScheduleTrigger) :
    Except String Unit := do
  validateCronExpression trigger.expression
  validateTimezone trigger.timezone

structure AutomationWebhookTrigger where
  subscription : AutomationSubscriptionReference
  requestSchemaDigest : DigestText
  deriving DecidableEq

def AutomationWebhookTrigger.validate (trigger : AutomationWebhookTrigger) :
    Except String Unit := do
  trigger.subscription.validate
  validateDigest "Automation webhook request schema digest" trigger.requestSchemaDigest

structure AutomationEventTrigger where
  subscription : AutomationSubscriptionReference
  eventKey : String
  filterDigest : Option DigestText
  deriving DecidableEq

def AutomationEventTrigger.validate (trigger : AutomationEventTrigger) (kind : String) :
    Except String Unit := do
  trigger.subscription.validate
  validateEventKey trigger.eventKey
  validateOptionalDigest ("Automation " ++ kind ++ " filter digest") trigger.filterDigest

inductive AutomationTrigger
  | schedule (trigger : AutomationScheduleTrigger)
  | webhook (trigger : AutomationWebhookTrigger)
  | pluginEvent (trigger : AutomationEventTrigger)
  | sourceEvent (trigger : AutomationEventTrigger)
  deriving DecidableEq

namespace AutomationTrigger

def validate : AutomationTrigger → Except String Unit
  | schedule trigger => trigger.validate
  | webhook trigger => trigger.validate
  | pluginEvent trigger => trigger.validate "plugin-event"
  | sourceEvent trigger => trigger.validate "source-event"

def subscription : AutomationTrigger → Option AutomationSubscriptionReference
  | schedule _ => none
  | webhook trigger => some trigger.subscription
  | pluginEvent trigger | sourceEvent trigger => some trigger.subscription

def isSchedule : AutomationTrigger → Bool
  | schedule _ => true
  | _ => false

def requiresEventIdentity (trigger : AutomationTrigger) : Bool := !trigger.isSchedule

end AutomationTrigger

/-- An exact release or revision; the texts of its checks name its parts. -/
inductive AutomationTarget
  | applicationRelease (applicationId applicationReleaseId : Uuid) (releaseDigest : DigestText)
  | workflowRevision (workflowDefinitionId workflowRevisionId : Uuid) (revisionDigest : DigestText)
  | task (taskProfileId taskRevisionId : Uuid) (revisionDigest : DigestText)
  deriving DecidableEq

/-- The identifiers and the digest of a target. -/
def validateTargetBinding (owner revision digestLabel : String) (ownerId revisionId : Uuid)
    (digest : DigestText) : Except String Unit := do
  validateUuid owner ownerId
  validateUuid revision revisionId
  validateDigest digestLabel digest

def AutomationTarget.validate : AutomationTarget → Except String Unit
  | applicationRelease application release digest =>
    validateTargetBinding "Automation application ID" "Automation application release ID"
      "Automation application release digest" application release digest
  | workflowRevision definition revision digest =>
    validateTargetBinding "Automation Workflow definition ID" "Automation Workflow revision ID"
      "Automation Workflow revision digest" definition revision digest
  | task profile revision digest =>
    validateTargetBinding "Automation Task profile ID" "Automation Task revision ID"
      "Automation Task revision digest" profile revision digest

/-! ### Policies -/

inductive AutomationDeduplicationScope
  | automation
  | subscription
  deriving DecidableEq

structure AutomationDeduplicationPolicy where
  scope : AutomationDeduplicationScope
  keyTemplate : String
  windowMs : ℕ
  deriving DecidableEq

def automationMaxDeduplicationTemplateBytes : ℕ := 512

def automationMaxDeduplicationWindowMs : ℕ := 30 * 24 * 60 * 60 * 1000

namespace AutomationDeduplicationPolicy

/-- The placeholders that a trigger asks for and those that it forbids. -/
def checkIdentity (policy : AutomationDeduplicationPolicy) (trigger : AutomationTrigger)
    (placeholders : List (List Char)) : Except String Unit :=
  if trigger.requiresEventIdentity then do
    refuseIf (Placeholder.eventId.chars ∉ placeholders)
      "event-trigger deduplication template must bind the normalized event_id"
    refuseIf (policy.scope = .subscription ∧ Placeholder.subscriptionId.chars ∉ placeholders)
      "subscription-scoped deduplication template must bind subscription_id"
  else
    refuseIf (Placeholder.eventId.chars ∈ placeholders ∨
        Placeholder.subscriptionId.chars ∈ placeholders)
      "schedule deduplication template cannot bind an event identity"

def validate (policy : AutomationDeduplicationPolicy) (trigger : AutomationTrigger) :
    Except String (List (List Char)) := do
  let placeholders ← templatePlaceholders policy.keyTemplate
  refuseIf (automationMaxDeduplicationTemplateBytes < policy.keyTemplate.utf8ByteSize)
    "Automation deduplication template exceeds its byte bound"
  refuseIf (policy.windowMs = 0 ∨ automationMaxDeduplicationWindowMs < policy.windowMs)
    "Automation deduplication window is outside its closed bound"
  refuseIf (Placeholder.automationId.chars ∉ placeholders ∨
      Placeholder.revisionId.chars ∉ placeholders)
    "Automation deduplication template must bind automation_id and revision_id"
  policy.checkIdentity trigger placeholders
  refuseIf (policy.scope = .subscription ∧ trigger.subscription.isNone)
    "subscription-scoped deduplication requires a subscription trigger"
  pure placeholders

end AutomationDeduplicationPolicy

inductive AutomationConcurrencyMode
  | queue
  | drop
  | replace
  deriving DecidableEq

structure AutomationConcurrencyPolicy where
  maximum : ℕ
  mode : AutomationConcurrencyMode
  deriving DecidableEq

def automationMaxConcurrency : ℕ := 4096

def AutomationConcurrencyPolicy.validate (policy : AutomationConcurrencyPolicy) :
    Except String Unit :=
  refuseIf (policy.maximum = 0 ∨ automationMaxConcurrency < policy.maximum)
    "Automation maximum concurrency is outside its closed bound"

inductive AutomationMisfireMode
  | skip
  | fireOnce
  | fireLatest
  deriving DecidableEq

structure AutomationMisfirePolicy where
  mode : AutomationMisfireMode
  graceMs : ℕ
  deriving DecidableEq

def automationMaxMisfireGraceMs : ℕ := 7 * 24 * 60 * 60 * 1000

def AutomationMisfirePolicy.validate (policy : AutomationMisfirePolicy) : Except String Unit :=
  refuseIf (automationMaxMisfireGraceMs < policy.graceMs)
    "Automation misfire grace is outside its closed bound"

structure AutomationTriggerPolicy where
  deduplication : AutomationDeduplicationPolicy
  concurrency : AutomationConcurrencyPolicy
  misfire : AutomationMisfirePolicy
  deriving DecidableEq

def AutomationTriggerPolicy.validate (policy : AutomationTriggerPolicy)
    (trigger : AutomationTrigger) : Except String Unit := do
  let _ ← policy.deduplication.validate trigger
  policy.concurrency.validate
  policy.misfire.validate

structure AutomationAuthorizationPolicy where
  policyDigest : DigestText
  requiredGrants : List String
  deriving DecidableEq

namespace AutomationAuthorizationPolicy

/-- The grants in the order of the contract. -/
def normalize (policy : AutomationAuthorizationPolicy) : AutomationAuthorizationPolicy :=
  { policy with requiredGrants := policy.requiredGrants.insertionSort (· ≤ ·) }

def validate (policy : AutomationAuthorizationPolicy) : Except String Unit := do
  validateDigest "Automation authorization policy digest" policy.policyDigest
  refuseIf (policy.requiredGrants = [] ∨ 32 < policy.requiredGrants.length)
    "Automation authorization must contain one to 32 grants"
  checkAll validateGrant policy.requiredGrants
  refuseIf (¬ policy.requiredGrants.Nodup) "Automation authorization grants contains duplicates"

end AutomationAuthorizationPolicy

/-! ### Definitions and revisions -/

structure AutomationDefinitionSpec where
  schema : SchemaText
  automationId : Uuid
  organizationId : Uuid
  projectId : Uuid
  environmentId : Uuid
  name : String
  trigger : AutomationTrigger
  target : AutomationTarget
  policy : AutomationTriggerPolicy
  authorization : AutomationAuthorizationPolicy
  deriving DecidableEq

def automationMaxNameBytes : ℕ := 128

namespace AutomationDefinitionSpec

def validate (spec : AutomationDefinitionSpec) : Except String Unit := do
  validateSchema "unsupported Automation definition schema" spec.schema
  validateUuid "Automation ID" spec.automationId
  validateUuid "Automation organization ID" spec.organizationId
  validateUuid "Automation project ID" spec.projectId
  validateUuid "Automation environment ID" spec.environmentId
  validateName "Automation name" spec.name automationMaxNameBytes
  spec.trigger.validate
  spec.target.validate
  spec.policy.validate spec.trigger
  spec.authorization.validate

def normalize (spec : AutomationDefinitionSpec) : AutomationDefinitionSpec :=
  { spec with authorization := spec.authorization.normalize }

/-- The template of a definition that passes its check. -/
theorem deduplication_of_validate {spec : AutomationDefinitionSpec} (h : spec.validate = .ok ()) :
    ∃ placeholders, spec.policy.deduplication.validate spec.trigger = .ok placeholders := by
  simp only [validate, AutomationTriggerPolicy.validate, ok_rules] at h
  obtain ⟨-, -, -, -, -, -, -, -, ⟨placeholders, hvalid, -⟩, -⟩ := h
  exact ⟨placeholders, hvalid⟩

end AutomationDefinitionSpec

structure AutomationRevisionSpec where
  schema : SchemaText
  revisionId : Uuid
  revisionNumber : ℕ
  parentRevisionId : Option Uuid
  parentDigest : Option DigestText
  definition : AutomationDefinitionSpec
  deriving DecidableEq

namespace AutomationRevisionSpec

/-- The first revision has no parent, every other one has. -/
def validateParent (spec : AutomationRevisionSpec) : Except String Unit :=
  match spec.parentRevisionId, spec.parentDigest with
  | none, none =>
    refuseIf (spec.revisionNumber ≠ 1) "successor Automation revision requires a parent"
  | parentId, parentDigest =>
    if spec.revisionNumber = 1 then .error "first Automation revision cannot have a parent"
    else match parentId, parentDigest with
    | some parentId, some parentDigest => do
      validateUuid "Automation parent revision ID" parentId
      validateDigest "Automation parent revision digest" parentDigest
    | _, _ => .error "Automation revision parent ID and digest must be paired"

def validate (spec : AutomationRevisionSpec) : Except String Unit := do
  validateSchema "unsupported Automation revision schema" spec.schema
  validateUuid "Automation revision ID" spec.revisionId
  refuseIf (spec.revisionNumber = 0 ∨ maxSafeInteger < spec.revisionNumber)
    "Automation revision number is outside its JSON-safe bound"
  spec.validateParent
  spec.definition.validate
  refuseIf (spec.definition.automationId = 0) "Automation revision definition ID must not be nil"

def normalize (spec : AutomationRevisionSpec) : AutomationRevisionSpec :=
  { spec with definition := spec.definition.normalize }

end AutomationRevisionSpec

/-- A revision and the digest of its canonical ACL text. -/
structure AutomationRevision where
  spec : AutomationRevisionSpec
  digest : DigestText
  deriving DecidableEq

end A3SCloud
