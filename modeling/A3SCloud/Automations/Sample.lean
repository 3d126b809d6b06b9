import A3SCloud.Automations.Dispatch
import A3SCloud.Contracts.Sample

/-!
# Sample automations

The values on which the results about automations are evaluated: texts in unary notation, a calendar
that fires every second, and a revision of a schedule that fires the latest occurrence.
-/

namespace A3SCloud

namespace Sample

/-- A number in unary notation. -/
def unary (c : Char) (n : ℕ) : List Char := List.replicate n c

/-- A time as its seconds and its milliseconds. -/
def timeText (t : ℤ) : List Char :=
  (if t < 0 then ['-'] else []) ++ unary 's' (t / 1000000000).natAbs ++
    unary 'm' (t / 1000000 % 1000).toNat

def automationCodec : AutomationCodec where
  definitionDigest spec := .ok (.sha256 spec.automationId)
  revisionDigest spec := .ok (.sha256 spec.revisionId)
  inlineJson value := .ok (value.length, .sha256 5)
  envelopeDigest envelope := .ok (.sha256 envelope.invocationId)
  uuidText id := String.ofList (unary 'u' id)
  timestampText t := String.ofList (timeText t)
  nanosText t := String.ofList (timeText t)
  uuidV5 space name := 100 * space + name.length

/-- Fires at every full second. -/
def everySecond : AutomationScheduleCalculator where
  after start count := (List.range count).map fun i : ℕ =>
    (start / 1000000000 + 1 + (i : ℤ)) * 1000000000

def calendar : Calendar where
  parse _ := .ok everySecond

/-- A schedule with the template of its keys. -/
def scheduleDefinition (template : String) : AutomationDefinitionSpec where
  schema := .current
  automationId := 4
  organizationId := 1
  projectId := 2
  environmentId := 3
  name := "Nightly export"
  trigger := .schedule ⟨"* * * * * * *", "UTC"⟩
  target := .workflowRevision 11 12 (.sha256 13)
  policy :=
    { deduplication := ⟨.automation, template, 1000⟩
      concurrency := ⟨1, .queue⟩
      misfire := ⟨.fireLatest, 60000⟩ }
  authorization := ⟨.sha256 7, ["workflow:run"]⟩

/-- The template of the contract's own example. -/
def scheduledTemplate : String :=
  "automation/\x7bautomation_id\x7d/revision/\x7brevision_id\x7d/scheduled/\x7bscheduled_at\x7d"

def scheduleRevision (template : String) : AutomationRevision where
  spec :=
    { schema := .current, revisionId := 5, revisionNumber := 1, parentRevisionId := none,
      parentDigest := none, definition := scheduleDefinition template }
  digest := .sha256 5

/-- A template that does not name the occurrence. -/
def unscheduledTemplate : String :=
  "automation/\x7bautomation_id\x7d/revision/\x7brevision_id\x7d"

/-- The invocation of an occurrence, with its key. -/
def scheduleInvocation (invocationId : Uuid) (key : String) (t : ℤ) :
    AutomationInvocationEnvelope where
  schema := .current
  invocationId := invocationId
  automationId := 4
  automationRevisionId := 5
  automationRevisionDigest := .sha256 5
  organizationId := 1
  projectId := 2
  environmentId := 3
  target := .workflowRevision 11 12 (.sha256 13)
  origin := .dueTime t
  subscription := none
  deduplicationKey := key
  input := .inlineJson "\x7b\x7d" (.sha256 5) 2
  authorization := ⟨.sha256 7, .sha256 8, none⟩
  requestedAt := t
  correlationId := 9
  causationId := none

def scheduleState : AutomationScheduleState where
  key := ⟨1, 2, 3, 4⟩
  revisionId := 5
  revisionDigest := .sha256 5
  cursorAt := 0
  leaseGeneration := 0
  lease := none
  createdAt := 0
  updatedAt := 0

/-- A dispatch that observes the schedule at a time and holds its lease for one second. -/
def dispatchRequest (template : String) (leaseId : Uuid) (observedAt : ℤ) :
    AutomationScheduleDispatchRequest where
  key := ⟨1, 2, 3, 4⟩
  revision := scheduleRevision template
  ownerId := 6
  leaseId := leaseId
  reservedAt := observedAt
  leaseExpiresAt := observedAt + seconds 1
  observedAt := observedAt
  limit := 16
  input := .inlineJson "\x7b\x7d" (.sha256 5) 2
  authorization := ⟨.sha256 7, .sha256 8, none⟩

/-- A dispatch at one second and one at three seconds; the second one has evaluated the schedule and
is about to admit its occurrence. -/
def dispatchTwice (template : String) : List ScheduleSystem.Action :=
  [.create scheduleState, .start (dispatchRequest template 21 (seconds 1)),
    .call 0, .call 0, .call 0, .call 0,
    .start (dispatchRequest template 22 (seconds 3)), .call 1, .call 1]

end Sample

end A3SCloud
