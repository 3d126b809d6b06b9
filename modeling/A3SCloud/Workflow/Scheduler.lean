import Mathlib.Data.List.Sort
import A3SCloud.Lib.Checks
import A3SCloud.Lib.Dag

/-!
# The Workflow scheduler

The model of `run_workflow` in `workflow/infrastructure/workflow_run_flow/workflow.rs`: every replay
of a run walks once over the steps of the plan and decides each of them from the recorded history.

* `dependencyState` says whether the edges into a step are decided and which of them are active.
* `walkSteps` is the walk over the plan, `conclude` what follows it and `runWorkflow` the replay.
* `StepRuntime` is what the walk calls. `resolveStep` is the resolution of a step whose dependencies
  are active by its kind (hooks, connectors, composite regions and durable steps), which finds a
  result, schedules a durable step or ends the replay with a command.
* `runWorkflow_settles` says that a run whose plan is in a topological order does not stall.

A `BTreeMap` is a function to options, or the list of its entries where it is iterated.
-/

namespace A3SCloud.Workflow

open Checks List

/-! ### Plans and results -/

inductive WorkflowStepKind
  | input | output | transform | branch | humanDecision | execution | agent | mcp | model | tool
  | service | memory | subworkflow
  deriving DecidableEq

structure WorkflowEdgeSpec where
  id : String
  source : String
  target : String
  sourceHandle : Option String

structure WorkflowPlanStep where
  id : String
  kind : WorkflowStepKind

structure WorkflowPlan where
  steps : List WorkflowPlanStep
  edges : List WorkflowEdgeSpec

structure WorkflowRunApplicationProjection where
  finalOutputStepId : String
  answerStepIds : List String

structure WorkflowRunInput where
  workflowRunId : String
  flowWorkflowName : String
  flowWorkflowVersion : String
  deadlineAt : ℤ
  plan : WorkflowPlan
  applicationProjection : Option WorkflowRunApplicationProjection

structure WorkflowLocalStepResult (Value : Type) where
  output : Value
  selectedHandle : Option String

inductive ResolvedState (Value : Type)
  | active (result : WorkflowLocalStepResult Value)
  | inactive

abbrev Resolved (Value : Type) := String → Option (ResolvedState Value)

/-- The names of the steps of a plan. -/
def WorkflowPlan.ids (plan : WorkflowPlan) : List String := plan.steps.map WorkflowPlanStep.id

/-- An edge leads from a step to another one. -/
def WorkflowPlan.Edge (plan : WorkflowPlan) (source target : String) : Prop :=
  ∃ edge ∈ plan.edges, edge.source = source ∧ edge.target = target

/-! ### Histories and commands -/

structure WorkflowContext (History : Type) where
  cancellationRequested : Bool
  lastTimestamp : Option ℤ
  history : History

inductive FlowError
  | invalidWorkflow (message : String)
  | nonDeterministic (runId reason : String)

/-- What becomes of a step whose dependencies are active: a result, a durable step that is scheduled
behind the walk, or a command (to open a hook, to wait, to run a step alone, or to fail). -/
inductive StepOutcome (Value Step Command : Type)
  | active (result : WorkflowLocalStepResult Value)
  | ready (step : Step)
  | stop (command : Command)

inductive WorkflowFailure
  | output (error : String)
  | stalled

def WorkflowFailure.text : WorkflowFailure → String
  | output error => error
  | stalled => "WorkflowRun graph stalled before all reachable output sinks resolved"

inductive RuntimeCommand (Value Step Command : Type)
  | step (command : Command)
  | timeout (deadlineAt : ℤ) (reason : String)
  | scheduleSteps (steps : List Step)
  | complete (output : Value)
  | fail (reason : WorkflowFailure)

/-- The functions that a replay calls. -/
structure StepRuntime (Value Step Command History : Type) where
  decodeInput : Value → Except FlowError WorkflowRunInput
  resolveCancellation : WorkflowRunInput → WorkflowContext History → Except FlowError Command
  /-- Whether the payloads of all steps are restored. -/
  resolvedSteps : WorkflowRunInput → Except String Unit
  resolveStep : WorkflowRunInput → WorkflowContext History → WorkflowPlanStep →
    Resolved Value → List (String × Value) → Except FlowError (StepOutcome Value Step Command)
  object : List (String × Value) → Value
  valueDigest : Value → Except String ℕ

variable {Value Step Command History : Type} (R : StepRuntime Value Step Command History)

/-! ### The walk over the plan -/

/-- The edges into a step, in the order of their identifiers. -/
def incomingEdges (plan : WorkflowPlan) (stepId : String) : List WorkflowEdgeSpec :=
  (plan.edges.filter fun edge => edge.target = stepId).insertionSort
    fun left right => left.id ≤ right.id

/-- `BTreeMap::insert` on the outputs of the sources. -/
def insertDependency (dependencies : List (String × Value)) (source : String) (output : Value) :
    List (String × Value) :=
  (dependencies.filter fun entry => entry.1 ≠ source) ++ [(source, output)]

/-- The loop of `dependency_state`: nothing while a source is undecided, and otherwise the outputs
of the sources with an active edge, if there is any. -/
def visitEdges (resolved : Resolved Value) : List WorkflowEdgeSpec →
    List (String × Value) → Bool → Option (Option (List (String × Value)))
  | [], dependencies, active => some (if active then some dependencies else none)
  | edge :: edges, dependencies, active =>
    match resolved edge.source with
    | none => none
    | some .inactive => visitEdges resolved edges dependencies active
    | some (.active result) =>
      if result.selectedHandle = edge.sourceHandle then
        visitEdges resolved edges (insertDependency dependencies edge.source result.output) true
      else visitEdges resolved edges dependencies active

def dependencyState (plan : WorkflowPlan) (resolved : Resolved Value) (stepId : String) :
    Option (Option (List (String × Value))) :=
  match incomingEdges plan stepId with
  | [] => some (some [])
  | edges => visitEdges resolved edges [] false

/-- Where a walk ends: with a command at a step, or behind the last step. -/
inductive PassEnd (Value Step Command : Type)
  | stopped (command : Command) (resolved : Resolved Value)
  | finished (resolved : Resolved Value) (ready : List Step)

/-- The loop of `run_workflow`; the steps of a plan have distinct identifiers, so that each of them
is the resolved step of its identifier. -/
def walkSteps (input : WorkflowRunInput) (context : WorkflowContext History) :
    List WorkflowPlanStep → Resolved Value → List Step →
      Except FlowError (PassEnd Value Step Command)
  | [], resolved, ready => .ok (.finished resolved ready)
  | step :: steps, resolved, ready =>
    match dependencyState input.plan resolved step.id with
    | none => walkSteps input context steps resolved ready
    | some none =>
      walkSteps input context steps (Function.update resolved step.id (some .inactive)) ready
    | some (some dependencies) =>
      match R.resolveStep input context step resolved dependencies with
      | .error error => .error error
      | .ok (.active result) =>
        walkSteps input context steps (Function.update resolved step.id (some (.active result)))
          ready
      | .ok (.ready durable) => walkSteps input context steps resolved (ready ++ [durable])
      | .ok (.stop command) => .ok (.stopped command resolved)

def schedulePass (input : WorkflowRunInput) (context : WorkflowContext History) :
    Except FlowError (PassEnd Value Step Command) := do
  (R.resolvedSteps input).mapError fun error =>
    .invalidWorkflow ("invalid WorkflowRun plan: " ++ error)
  walkSteps R input context input.plan.steps (fun _ => none) []

/-! ### The end of a replay -/

/-- The outputs of the active output steps, or nothing if one of them is undecided. -/
def activeOutputs (resolved : Resolved Value) :
    List WorkflowPlanStep → Option (List (String × Value))
  | [] => some []
  | output :: outputs =>
    match resolved output.id with
    | none => none
    | some .inactive => activeOutputs resolved outputs
    | some (.active result) =>
      (activeOutputs resolved outputs).map ((output.id, result.output) :: ·)

def finalOutput (projection : WorkflowRunApplicationProjection) (resolved : Resolved Value) :
    Except String (Option Value) :=
  match resolved projection.finalOutputStepId with
  | none => .error "WorkflowRun lost its projected final Output step"
  | some .inactive => .error "WorkflowRun resolved no reachable final Output step"
  | some (.active result) => do
    let _ ← R.valueDigest result.output
    pure (some result.output)

/-- The output of a run without Answers: that of its only output step, or an object of all. -/
def aggregateOutput (count : ℕ) : List (String × Value) → Except String (Option Value)
  | [] => .error "WorkflowRun resolved no reachable output sink"
  | (id, value) :: active => do
    let output := if count = 1 then value else R.object ((id, value) :: active)
    let _ ← R.valueDigest output
    pure (some output)

def resolvedWorkflowOutput (input : WorkflowRunInput) (resolved : Resolved Value) :
    Except String (Option Value) :=
  let outputs := input.plan.steps.filter fun step => step.kind = .output
  match input.applicationProjection.filter fun projection => !projection.answerStepIds.isEmpty with
  | some projection =>
    if outputs.any fun output => (resolved output.id).isNone then .ok none
    else finalOutput R projection resolved
  | none =>
    match activeOutputs resolved outputs with
    | none => .ok none
    | some active => aggregateOutput R outputs.length active

def conclude (input : WorkflowRunInput) :
    PassEnd Value Step Command → RuntimeCommand Value Step Command
  | .stopped command _ => .step command
  | .finished _ (durable :: ready) => .scheduleSteps (durable :: ready)
  | .finished resolved [] =>
    match resolvedWorkflowOutput R input resolved with
    | .ok (some output) => .complete output
    | .ok none => .fail .stalled
    | .error error => .fail (.output error)

structure WorkflowInvocation (Value History : Type) where
  runId : String
  specName : String
  specVersion : String
  input : Value
  context : WorkflowContext History

def runWorkflow (invocation : WorkflowInvocation Value History) :
    Except FlowError (RuntimeCommand Value Step Command) := do
  let input ← R.decodeInput invocation.input
  refuseIf (invocation.runId ≠ input.workflowRunId ∨ invocation.specName ≠ input.flowWorkflowName ∨
      invocation.specVersion ≠ input.flowWorkflowVersion)
    (.nonDeterministic invocation.runId
      "WorkflowRun identity or Flow WorkflowSpec drifted from its immutable input")
  if invocation.context.cancellationRequested then
    (R.resolveCancellation input invocation.context).map .step
  else if invocation.context.lastTimestamp.any (input.deadlineAt ≤ ·) then
    pure (.timeout input.deadlineAt "WorkflowRun exceeded its immutable deadline")
  else (schedulePass R input invocation.context).map (conclude R input)

/-! ### What a walk decides -/

variable {R} {plan : WorkflowPlan} {input : WorkflowRunInput}
  {context : WorkflowContext History} {resolved : Resolved Value} {ready : List Step}
  {front : List String} {stepId : String} {dependencies : List (String × Value)}

theorem mem_incomingEdges {edge : WorkflowEdgeSpec} :
    edge ∈ incomingEdges plan stepId ↔ edge ∈ plan.edges ∧ edge.target = stepId := by
  simp [incomingEdges]

theorem exists_undecided {edges : List WorkflowEdgeSpec} {active : Bool}
    (h : visitEdges resolved edges dependencies active = none) :
    ∃ edge ∈ edges, resolved edge.source = none := by
  induction edges generalizing dependencies active with
  | nil => cases h
  | cons edge edges ih =>
    rw [visitEdges] at h
    split at h
    · exact ⟨edge, by simp, ‹_›⟩
    · obtain ⟨edge', hmem, hnone⟩ := ih h
      exact ⟨edge', mem_cons_of_mem _ hmem, hnone⟩
    · split_ifs at h <;> obtain ⟨edge', hmem, hnone⟩ := ih h <;>
        exact ⟨edge', mem_cons_of_mem _ hmem, hnone⟩

/-- The dependencies of a step are undecided only as long as a source is. -/
theorem dependencyState_none (h : dependencyState plan resolved stepId = none) :
    ∃ source, plan.Edge source stepId ∧ resolved source = none := by
  rw [dependencyState] at h
  split at h
  · cases h
  · obtain ⟨edge, hmem, hnone⟩ := exists_undecided h
    obtain ⟨hedge, htarget⟩ := mem_incomingEdges.1 hmem
    exact ⟨edge.source, ⟨edge, hedge, rfl, htarget⟩, hnone⟩

/-- A step that the walk has left undecided is one that it schedules, or one behind such a step. -/
theorem walkSteps_decided (hplan : Dag.Ordered input.plan.Edge input.plan.ids)
    {steps : List WorkflowPlanStep} (hsplit : input.plan.ids = front ++ steps.map (·.id))
    (hfront : ∀ id ∈ front, resolved id = none → ready ≠ []) {resolved' : Resolved Value}
    {ready' : List Step}
    (h : walkSteps R input context steps resolved ready = .ok (.finished resolved' ready')) :
    ∀ id ∈ input.plan.ids, resolved' id = none → ready' ≠ [] := by
  induction steps generalizing front resolved ready with
  | nil =>
    cases h
    rwa [hsplit, map_nil, append_nil]
  | cons step steps ih =>
    have hnext : input.plan.ids = (front ++ [step.id]) ++ steps.map (·.id) := by simpa using hsplit
    -- a step that is resolved does not matter for those before it
    have hupdate : ∀ state, ∀ id ∈ front ++ [step.id],
        Function.update resolved step.id (some state) id = none → ready ≠ [] := by
      intro state id hid hnone
      by_cases heq : id = step.id
      · simp [heq] at hnone
      · rw [Function.update_of_ne heq] at hnone
        exact hfront id (by simpa [heq] using hid) hnone
    rw [walkSteps] at h
    split at h
    · rename_i hstate
      obtain ⟨source, hedge, hnone⟩ := dependencyState_none hstate
      have hsource := hplan.before front step.id _ hsplit source hedge
      exact ih hnext (fun _ _ _ => hfront source hsource hnone) h
    · exact ih hnext (hupdate _) h
    · split at h
      · cases h
      · exact ih hnext (hupdate _) h
      · exact ih hnext (by simp) h
      · cases h

theorem activeOutputs_ne_none {outputs : List WorkflowPlanStep}
    (h : ∀ output ∈ outputs, resolved output.id ≠ none) : activeOutputs resolved outputs ≠ none := by
  induction outputs with
  | nil => simp [activeOutputs]
  | cons output outputs ih =>
    obtain ⟨hhead, htail⟩ := forall_mem_cons.1 h
    rw [activeOutputs]
    split
    · contradiction
    · exact ih htail
    · simpa using ih htail

/-- When every step is decided, the output of the run is, too. -/
theorem resolvedWorkflowOutput_ne_none (h : ∀ id ∈ input.plan.ids, resolved id ≠ none) :
    resolvedWorkflowOutput R input resolved ≠ .ok none := by
  have houtputs : ∀ output ∈ input.plan.steps.filter (fun step => step.kind = .output),
      resolved output.id ≠ none :=
    fun output houtput => h _ (mem_map_of_mem (mem_of_mem_filter houtput))
  simp only [resolvedWorkflowOutput]
  split
  · rw [if_neg]
    · unfold finalOutput
      split <;> simp only [ne_eq, ok_rules] <;> simp
    · rw [any_eq_true]
      rintro ⟨output, houtput, hnone⟩
      exact houtputs output houtput (Option.isNone_iff_eq_none.1 hnone)
  · split
    · exact absurd ‹_› (activeOutputs_ne_none houtputs)
    · unfold aggregateOutput
      split <;> simp only [ne_eq, ok_rules] <;> simp

/-- A replay never ends in a stalled graph: when its walk finds nothing to wait for and nothing to
schedule, all steps are decided and the run has an output or a failure of its own. -/
theorem runWorkflow_settles (R : StepRuntime Value Step Command History)
    (invocation : WorkflowInvocation Value History) (input : WorkflowRunInput)
    (hinput : R.decodeInput invocation.input = .ok input)
    (hplan : Dag.Ordered input.plan.Edge input.plan.ids) :
    runWorkflow R invocation ≠ .ok (.fail .stalled) ∧
      ∀ resolved, schedulePass R input invocation.context = .ok (.finished resolved []) →
        (∀ id ∈ input.plan.ids, resolved id ≠ none) ∧
          ((∃ output, conclude R input (.finished resolved []) = .complete output) ∨
            ∃ error, conclude R input (.finished resolved []) = .fail (.output error)) := by
  have hdecided : ∀ resolved,
      schedulePass R input invocation.context = .ok (.finished resolved []) →
        ∀ id ∈ input.plan.ids, resolved id ≠ none := by
    intro resolved hpass id hid hnone
    simp only [schedulePass, ok_rules] at hpass
    exact walkSteps_decided hplan (nil_append _).symm (by simp) hpass.2 id hid hnone rfl
  have hsettled : ∀ resolved,
      schedulePass R input invocation.context = .ok (.finished resolved []) →
        (∃ output, conclude R input (.finished resolved []) = .complete output) ∨
          ∃ error, conclude R input (.finished resolved []) = .fail (.output error) := by
    intro resolved hpass
    have hne := resolvedWorkflowOutput_ne_none (R := R) (hdecided resolved hpass)
    rw [conclude]
    split
    · exact .inl ⟨_, rfl⟩
    · contradiction
    · exact .inr ⟨_, rfl⟩
  refine ⟨fun hstalled => ?_, fun resolved hpass => ⟨hdecided resolved hpass, hsettled resolved hpass⟩⟩
  simp only [runWorkflow, hinput, ok_rules, Except.ok.injEq, exists_eq_left'] at hstalled
  obtain ⟨-, hstalled⟩ := hstalled
  split_ifs at hstalled
  · cases hanswer : R.resolveCancellation input invocation.context <;> rw [hanswer] at hstalled <;>
      cases hstalled
  · cases hstalled
  · cases hpass : schedulePass R input invocation.context with
    | error => rw [hpass] at hstalled; cases hstalled
    | ok pass =>
      rw [hpass] at hstalled
      have hfail : conclude R input pass = .fail .stalled := Except.ok.inj hstalled
      cases pass with
      | stopped => cases hfail
      | finished resolved ready =>
        cases ready with
        | cons => cases hfail
        | nil =>
          rcases hsettled resolved hpass with ⟨output, heq⟩ | ⟨error, heq⟩ <;> rw [heq] at hfail <;>
            cases hfail

/-! ### A run of two steps -/

namespace Sample

/-- One of two steps is chosen, and the output step joins them. -/
def runInput : WorkflowRunInput where
  workflowRunId := "run"
  flowWorkflowName := "workflow"
  flowWorkflowVersion := "1"
  deadlineAt := 10
  plan := ⟨[⟨"start", .input⟩, ⟨"route", .branch⟩, ⟨"left", .transform⟩, ⟨"right", .transform⟩,
      ⟨"end", .output⟩],
    [⟨"a", "start", "route", none⟩, ⟨"b", "route", "left", some "yes"⟩,
      ⟨"c", "route", "right", some "no"⟩, ⟨"d", "left", "end", none⟩, ⟨"e", "right", "end", none⟩]⟩
  applicationProjection := none

/-- A runtime in which every step has a result and every branch selects the first handle. -/
def runtime : StepRuntime ℕ Unit Unit Unit where
  decodeInput _ := .ok runInput
  resolveCancellation _ _ := .ok ()
  resolvedSteps _ := .ok ()
  resolveStep _ _ step _ dependencies :=
    .ok (.active ⟨dependencies.length, if step.kind = .branch then some "yes" else none⟩)
  object _ := 0
  valueDigest n := .ok n

def invocation : WorkflowInvocation ℕ Unit := ⟨"run", "workflow", "1", 0, false, some 5, ()⟩

theorem ordered_runInput : Dag.Ordered runInput.plan.Edge runInput.plan.ids where
  nodup := by decide
  before front a back hsplit source hedge := by
    obtain ⟨edge, hmem, rfl, rfl⟩ := hedge
    have hbefore : ∀ edge ∈ runInput.plan.edges,
        edge.source ∈ runInput.plan.ids.takeWhile (· ≠ edge.target) := by decide
    have hnodup : runInput.plan.ids.Nodup := by decide
    rw [hsplit, nodup_append] at hnodup
    have hfront : ∀ id ∈ front, decide (id ≠ edge.target) = true := fun id hid =>
      decide_eq_true (hnodup.2.2 id hid edge.target mem_cons_self)
    have hsource := hbefore edge hmem
    rw [hsplit, takeWhile_append_of_pos hfront] at hsource
    simpa using hsource

/-- The branch that is not selected is inactive, and the run has the output of the other one. -/
theorem runWorkflow_settles_join :
    (∃ output, runWorkflow runtime invocation = .ok (.complete output)) ∧
      runWorkflow runtime invocation ≠ .ok (.fail .stalled) :=
  ⟨⟨1, rfl⟩, (runWorkflow_settles runtime invocation runInput rfl ordered_runInput).1⟩

end Sample

end A3SCloud.Workflow
