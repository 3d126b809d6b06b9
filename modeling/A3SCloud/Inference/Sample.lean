import A3SCloud.Inference.Usage
import A3SCloud.Contracts.Sample

/-!
# Small usage batches

Concrete records on which the statements about usage are evaluated. `Sample.usageCodec` decodes a
payload to the event that a list names it with; every payload has the same digest.
-/

namespace A3SCloud.Sample

/-- A text of 64 hexadecimal digits. -/
def usageDigest : String := "0123456789abcdef0123456789abcdef0123456789abcdef0123456789abcdef"

/-- A codec whose payloads are the names of some events. -/
def usageCodec (events : List (String × InferenceUsageLifecycleEvent)) : UsageCodec where
  decodeBase64 text :=
    match events.findIdx? (fun named => named.1 = text) with
    | some index => .ok [index.toUInt8]
    | none => .error "unknown payload"
  sha256Hex _ := usageDigest
  parseEvent bytes :=
    match bytes with
    | [index] =>
      match events[index.toNat]? with
      | some named => .ok named.2
      | none => .error "unknown event"
    | _ => .error "unknown event"

def usageRequest (requestId : Uuid) : InferenceUsageRequestEvidence where
  requestId := requestId
  correlationId := "c"
  environmentId := 2
  credentialId := 3
  credentialGeneration := 1
  routeId := 4
  routePolicyRevision := 1
  endpoint := .completions
  modelAlias := "m"
  modelId := 5

def requestStarted (requestId : Uuid) (time : ℤ) : InferenceUsageLifecycleEvent where
  schema := .current
  kind := .requestStarted
  occurredAt := time
  request := usageRequest requestId
  attempt := none
  outcome := none
  httpStatus := none
  durationMs := none
  measurementCompleteness := none
  totalTokens := none

def requestTerminal (requestId : Uuid) (time : ℤ) : InferenceUsageLifecycleEvent where
  schema := .current
  kind := .requestTerminal
  occurredAt := time
  request := usageRequest requestId
  attempt := none
  outcome := some .succeeded
  httpStatus := some 200
  durationMs := some 10
  measurementCompleteness := some .upstreamUsage
  totalTokens := some 7

/-- The record of an event: its identifier is made of its position. -/
def usageRecord (cursor : InferenceUsageCursor) (payload : String) : InferenceUsageRecord where
  cursor := cursor
  eventId := 1000 * cursor.bootEpoch + cursor.sequence
  payloadBase64 := payload
  payloadSha256 := usageDigest

/-- A codec in which every payload says that a request has started. -/
def startedCodec : UsageCodec := usageCodec [("started", requestStarted 1 (seconds 10))]

/-- A batch of such records. -/
def usageBatch (after : Option InferenceUsageCursor) (cursors : List InferenceUsageCursor) :
    InferenceUsageBatch where
  schema := .current
  gatewayId := 8
  batchId := 9
  after := after
  records := cursors.map (usageRecord · "started")

end A3SCloud.Sample
