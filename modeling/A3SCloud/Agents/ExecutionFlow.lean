import A3SCloud.Contracts.External
import A3SCloud.Lib.Runs
import A3SCloud.Lib.Table

/-!
# The commands of Agent executions

An Agent execution is bound once to a run of its provider on a Runtime unit
(`AgentExecution::bind_code_run`). Its flow sends the start, approval resume, cancel and recovery
commands of the execution under the binding it has at that time, and a process recovery replaces the
binding by its `recoverySuccessor`, which has a run identity of its own. `AgentFlow` is what the
control plane holds and has enqueued for one node; the deployment flow enqueues its commands for the
same node.

* `sameRuns_enqueued`: when no execution of a provider other than the native one is recovered, all
  commands sent to such a provider for one execution carry one binding.
-/

namespace A3SCloud

open Runs

variable (X : External)

structure AgentProviderProfileBinding where
  profileAcl : String
  profileDigest : DigestText
  deriving DecidableEq

structure AgentCodeRunBinding where
  provider : AgentProviderProfileBinding
  workloadId : Uuid
  workloadRevisionId : Uuid
  deploymentId : Uuid
  replicaId : Uuid
  runtimeUnitId : String
  runtimeGeneration : ℕ
  runtimeSpecDigest : DigestText
  servicePortName : String
  identity : AgentRunIdentity
  boundAt : ℤ
  deriving DecidableEq

namespace AgentCodeRunBinding

def recoveryRunId (executionId : Uuid) (checkpointRunId : String) : String :=
  "agent-recovery-" ++
    toString (X.uuidV5 executionId ("a3s-code-recovery-v1:" ++ checkpointRunId))

def recoverySuccessor (binding : AgentCodeRunBinding) (executionId : Uuid) (recoveredAt : ℤ) :
    AgentCodeRunBinding :=
  { binding with
    identity :=
      { binding.identity with runId := recoveryRunId X executionId binding.identity.runId }
    boundAt := recoveredAt }

def nodeProviderRuntimeBinding (binding : AgentCodeRunBinding) (executionId : Uuid) :
    NodeAgentProviderRuntimeBinding where
  schema := .current
  executionId := executionId
  workloadId := binding.workloadId
  workloadRevisionId := binding.workloadRevisionId
  deploymentId := binding.deploymentId
  replicaId := binding.replicaId
  runtimeUnitId := binding.runtimeUnitId
  runtimeGeneration := binding.runtimeGeneration
  runtimeSpecDigest := binding.runtimeSpecDigest
  servicePortName := binding.servicePortName
  providerProfileAcl := binding.provider.profileAcl
  providerProfileDigest := binding.provider.profileDigest
  providerRunIdentity := binding.identity

end AgentCodeRunBinding

structure AgentExecution where
  id : Uuid
  code : AgentCodeRunBinding
  deriving DecidableEq

def AgentExecution.nodeBinding (execution : AgentExecution) : NodeAgentProviderRuntimeBinding :=
  execution.code.nodeProviderRuntimeBinding execution.id

/-- The bound executions of a node, and the commands enqueued for the node so far. -/
structure AgentFlow where
  executions : Table AgentExecution.id
  stream : List NodeCommandPayload

open AgentFlow

inductive AgentFlowAction
  | bindCodeRun (executionId : Uuid) (binding : AgentCodeRunBinding)
  | recoverCodeRun (executionId : Uuid) (recoveredAt : ℤ)
  /-- The flow of the execution sends a start, resume, cancel or recovery command. -/
  | enqueueCommand (executionId : Uuid) (command : AgentCommand)
  /-- The deployment flow sends a command, which is none of an Agent provider. -/
  | deploy (payload : NodeCommandPayload)

def NodeCommandPayload.providerBinding? :
    NodeCommandPayload → Option NodeAgentProviderRuntimeBinding
  | .adapter (.agentProviderCommand binding _) => some binding
  | _ => none

namespace AgentFlow

def init : AgentFlow := ⟨Table.empty, []⟩

def step (flow : AgentFlow) : AgentFlowAction → AgentFlow
  | .bindCodeRun executionId binding =>
    -- a bound execution keeps its run
    { flow with executions := flow.executions.insertIfAbsent ⟨executionId, binding⟩ }
  | .recoverCodeRun executionId recoveredAt =>
    { flow with
      executions := flow.executions.modify executionId
        (fun execution =>
          { execution with code := execution.code.recoverySuccessor X execution.id recoveredAt })
        (fun _ => rfl) }
  | .enqueueCommand executionId command =>
    match flow.executions.get? executionId with
    | some execution =>
      { flow with
        stream := flow.stream ++ [.adapter (.agentProviderCommand execution.nodeBinding command)] }
    | none => flow
  | .deploy payload =>
    if payload.providerBinding? = none then { flow with stream := flow.stream ++ [payload] }
    else flow

end AgentFlow

def enqueued (plan : List AgentFlowAction) : List NodeCommandPayload :=
  (run (step X) .init plan).stream

/-! ### Recoveries of the native provider -/

/-- The binding is one of a provider other than the native one. -/
def NodeAgentProviderRuntimeBinding.Foreign (binding : NodeAgentProviderRuntimeBinding) : Prop :=
  ∃ profile, X.providerProfile binding = .ok profile ∧ profile.kind ≠ "a3s.code"

/-- A recovery gives no execution of another provider a new run. -/
def NativeRecovery (flow : AgentFlow) : AgentFlowAction → Prop
  | .recoverCodeRun executionId recoveredAt =>
    ∀ execution, flow.executions.get? executionId = some execution →
      ¬ ((execution.code.recoverySuccessor X execution.id
        recoveredAt).nodeProviderRuntimeBinding execution.id).Foreign X
  | .bindCodeRun _ _ | .enqueueCommand _ _ | .deploy _ => True

variable {X}

/-- A command under the binding is in the stream. -/
def Sent (stream : List NodeCommandPayload) (binding : NodeAgentProviderRuntimeBinding) : Prop :=
  ∃ payload ∈ stream, payload.providerBinding? = some binding

theorem sent_concat {stream : List NodeCommandPayload} {payload : NodeCommandPayload}
    {binding : NodeAgentProviderRuntimeBinding} :
    Sent (stream ++ [payload]) binding ↔
      Sent stream binding ∨ payload.providerBinding? = some binding := by
  simp [Sent, or_and_right, exists_or]

variable (X)

/-- All commands sent to another provider for one execution carry one binding. -/
def SameRuns (stream : List NodeCommandPayload) : Prop :=
  ∀ binding binding', Sent stream binding → Sent stream binding' → binding.Foreign X →
    binding'.Foreign X → binding.executionId = binding'.executionId → binding = binding'

/-- What recoveries of the native provider keep. -/
structure FlowInv (flow : AgentFlow) : Prop where
  same : SameRuns X flow.stream
  /-- The execution of a sent binding of another provider still has it, or one of the native
  provider. -/
  held : ∀ binding, Sent flow.stream binding → binding.Foreign X →
    ∃ execution, flow.executions.get? binding.executionId = some execution ∧
      (execution.nodeBinding.Foreign X → execution.nodeBinding = binding)

variable {X}

theorem flowInv_step {flow : AgentFlow} {action : AgentFlowAction} (h : FlowInv X flow)
    (hnative : NativeRecovery X flow action) : FlowInv X (flow.step X action) := by
  cases action with
  | bindCodeRun =>
    refine ⟨h.same, fun binding hsent hforeign => ?_⟩
    obtain ⟨execution, hget, hcurrent⟩ := h.held binding hsent hforeign
    refine ⟨execution, ?_, hcurrent⟩
    simp [step, Table.get?_insertIfAbsent, hget]
  | recoverCodeRun executionId =>
    refine ⟨h.same, fun binding hsent hforeign => ?_⟩
    obtain ⟨execution, hget, hcurrent⟩ := h.held binding hsent hforeign
    by_cases hid : binding.executionId = executionId
    · subst hid
      refine ⟨_, by simp only [step, Table.get?_modify, if_pos, hget]; rfl, ?_⟩
      exact fun hforeign' => absurd hforeign' (hnative execution hget)
    · exact ⟨execution, by simp only [step, Table.get?_modify, if_neg hid, hget],
        hcurrent⟩
  | enqueueCommand executionId command =>
    cases hget : flow.executions.get? executionId with
    | none => simpa only [step, hget] using h
    | some execution =>
      have hcurrentId := Table.get?_key hget
      have hstep : flow.step X (.enqueueCommand executionId command) = { flow with
          stream := flow.stream ++
            [.adapter (.agentProviderCommand execution.nodeBinding command)] } := by
        simp only [step, hget]
      -- a binding sent before is the present one, if the present one is of another provider
      have hbefore : ∀ binding, Sent flow.stream binding → binding.Foreign X →
          execution.nodeBinding.Foreign X → binding.executionId = execution.id →
            execution.nodeBinding = binding := by
        intro binding hsent hforeign hcurrent heq
        obtain ⟨execution', hget', hheld⟩ := h.held binding hsent hforeign
        rw [heq, hcurrentId, Option.some.injEq] at hget'
        subst hget'
        exact hheld hcurrent
      rw [hstep]
      refine ⟨fun binding binding' hsent hsent' hforeign hforeign' heq => ?_,
        fun binding hsent hforeign => ?_⟩
      · rcases sent_concat.1 hsent with hsent | hlast
        · rcases sent_concat.1 hsent' with hsent' | hlast'
          · exact h.same binding binding' hsent hsent' hforeign hforeign' heq
          · cases hlast'
            exact (hbefore binding hsent hforeign hforeign' heq).symm
        · cases hlast
          rcases sent_concat.1 hsent' with hsent' | hlast'
          · exact hbefore binding' hsent' hforeign' hforeign heq.symm
          · cases hlast'
            rfl
      · rcases sent_concat.1 hsent with hsent | hlast
        · exact h.held binding hsent hforeign
        · cases hlast
          exact ⟨execution, hcurrentId, fun _ => rfl⟩
  | deploy payload =>
    simp only [step]
    split
    · rename_i hnone
      have hsent : ∀ binding, Sent (flow.stream ++ [payload]) binding → Sent flow.stream binding := by
        intro binding hsent
        rcases sent_concat.1 hsent with hsent | hlast
        · exact hsent
        · rw [hnone] at hlast
          cases hlast
      exact ⟨fun binding binding' h₁ h₂ => h.same binding binding' (hsent _ h₁) (hsent _ h₂),
        fun binding h₁ => h.held binding (hsent _ h₁)⟩
    · exact h

/-- **Without a recovery of another provider, all commands sent to it for one execution carry one
binding.** -/
theorem sameRuns_enqueued {plan : List AgentFlowAction}
    (hplan : Allowed (step X) (NativeRecovery X) .init plan) :
    SameRuns X (enqueued X plan) := by
  have hinit : FlowInv X .init := by
    refine ⟨fun binding _ hsent => ?_, fun binding hsent => ?_⟩
    all_goals
      obtain ⟨payload, hpayload, -⟩ := hsent
      cases hpayload
  exact (invariant (fun _ _ h hnative => flowInv_step h hnative) hinit hplan).same

end A3SCloud
