import Mathlib.Data.Finset.Sort
import Mathlib.Data.Finset.Union
import Mathlib.Data.String.Basic
import A3SCloud.Workflow.Scheduler

/-!
# The graph of a Workflow

The passes over the steps of a Workflow in `workflow/domain/workflow_variable_contract/graph.rs`,
which decide what the variables of a step may read.

* `dominators` intersects the dominators of the sources of every step, once and in order.
* `transitiveReachability` collects what is behind every step, against the order.
* `dominators_exact` says that both are exact in every topological order, and that the scheduler
  has the dominators of every active step active.

A `BTreeMap` from steps to `BTreeSet`s is a function to optional finite sets.
-/

namespace A3SCloud.Workflow

open Checks List Function Relation

abbrev StepSets := String → Option (Finset String)

def lost (what : String) (id : String) : String :=
  "Workflow variable graph lost " ++ what ++ " " ++ id.quote

/-- The sets of the steps, with the second part of every pair in the set of the first. -/
def collectPairs (what : String) (steps : List String) (pairs : List (String × String)) :
    Except String StepSets :=
  pairs.foldlM (fun values pair => do
    let set ← orElse (lost what pair.1) (values pair.1)
    pure (update values pair.1 (some (insert pair.2 set))))
    fun id => if id ∈ steps then some ∅ else none

def predecessors (edges : List WorkflowEdgeSpec) (steps : List String) : Except String StepSets :=
  collectPairs "target" steps (edges.map fun edge => (edge.target, edge.source))

/-- The loop over the sources of a step. -/
def intersectSources (values : StepSets) (all : Finset String) (sources : List String) :
    Except String (Finset String) :=
  sources.foldlM (fun intersection source => do
    let dominators ← orElse (lost "dominators for" source) (values source)
    pure (intersection ∩ dominators)) all

def dominators (order : List String) (input : String) (predecessors : StepSets) :
    Except String StepSets :=
  let all := order.toFinset
  (order.filter (· ≠ input)).foldlM (fun values id => do
    let sources ← orElse (lost "predecessors for" id) (predecessors id)
    let intersection ← intersectSources values all (sources.sort (· ≤ ·))
    pure (update values id (some (insert id intersection))))
    fun id => if id ∈ order then some (if id = input then {id} else all) else none

/-- The loop of `transitive_reachability` over the steps, the last one first. -/
def collectDescendants (order : List String) (outgoing : StepSets) : Except String StepSets :=
  order.reverse.foldlM (fun reachable id => do
    let children ← orElse (lost "outgoing edges for" id) (outgoing id)
    pure (update reachable id
      (some (children.biUnion fun child => insert child ((reachable child).getD ∅)))))
    fun _ => none

def transitiveReachability (order : List String) (edges : List WorkflowEdgeSpec)
    (steps : List String) : Except String StepSets := do
  let outgoing ← collectPairs "source" steps (edges.map fun edge => (edge.source, edge.target))
  collectDescendants order outgoing

/-! ### The passes are exact -/

/-- The sets of some steps are those of a relation. -/
def StepSets.Exact (sets : StepSets) (r : String → String → Prop) (ids : List String) : Prop :=
  ∀ id ∈ ids, ∃ set, sets id = some set ∧ ∀ d, d ∈ set ↔ r id d

variable {sets : StepSets} {r : String → String → Prop} {ids order steps : List String}
  {id start : String} {set : Finset String} {plan : WorkflowPlan}

theorem StepSets.Exact.snoc (h : sets.Exact r ids) (hset : ∀ d, d ∈ set ↔ r id d) :
    Exact (update sets id (some set)) r (ids ++ [id]) := by
  intro other hother
  by_cases heq : other = id
  · exact ⟨set, by simp [heq], by simpa [heq] using hset⟩
  · rw [update_of_ne heq]
    exact h other (by simpa [heq] using hother)

theorem collectPairs_exact (what : String) {pairs : List (String × String)}
    (hkeys : ∀ pair ∈ pairs, pair.1 ∈ steps) :
    ∃ values, collectPairs what steps pairs = .ok values ∧
      values.Exact (fun id d => (id, d) ∈ pairs) steps := by
  refine foldlM_total (P := fun front values => StepSets.Exact values (fun id d => (id, d) ∈ front)
    steps) (fun id hid => ⟨∅, if_pos hid, by simp⟩) ?_
  rintro front ⟨key, value⟩ back values rfl hvalues
  obtain ⟨set, hset, hmem⟩ := hvalues key (hkeys (key, value) (by simp))
  refine ⟨_, bind_ok_iff.2 ⟨_, orElse_ok_iff.2 hset, rfl⟩, fun id hid => ?_⟩
  by_cases heq : id = key
  · refine ⟨_, by rw [heq, update_self], fun d => ?_⟩
    simp [heq, hmem, or_comm]
  · obtain ⟨set, hset, hmem⟩ := hvalues id hid
    exact ⟨set, by rwa [update_of_ne heq], fun d => by simp [hmem, heq]⟩

theorem intersectSources_exact {values : StepSets} {all : Finset String} {sources : List String}
    (hvalues : values.Exact r sources) : ∃ intersection,
      intersectSources values all sources = .ok intersection ∧
      ∀ d, d ∈ intersection ↔ d ∈ all ∧ ∀ source ∈ sources, r source d := by
  refine foldlM_total (P := fun front intersection =>
    ∀ d, d ∈ intersection ↔ d ∈ all ∧ ∀ source ∈ front, r source d) (by simp) ?_
  rintro front source back intersection rfl hfront
  obtain ⟨set, hset, hmem⟩ := hvalues source (by simp)
  refine ⟨_, bind_ok_iff.2 ⟨_, orElse_ok_iff.2 hset, rfl⟩, fun d => ?_⟩
  simp [hfront, hmem, and_assoc, or_imp, forall_and]

section Ordered

variable (horder : Dag.Ordered plan.Edge order)
include horder

theorem dominators_of_ordered (hstart : start ∈ order)
    (hreach : ∀ id ∈ order, ReflTransGen plan.Edge start id)
    (hsets : sets.Exact (fun id d => plan.Edge d id) order) :
    ∃ values, dominators order start sets = .ok values ∧
      values.Exact (fun id d => Dag.Dominates plan.Edge start d id) order := by
  have hentered : ∀ id ∈ order, id = start ∨ ∃ source, plan.Edge source id ∧ source ∈ order := by
    intro id hid
    rcases ReflTransGen.cases_tail (hreach id hid) with heq | ⟨source, -, hedge⟩
    · exact .inl heq
    · exact .inr ⟨source, hedge, horder.source_mem hid hedge⟩
  obtain ⟨rest, rfl⟩ := horder.root_first hstart hreach
  have hfresh : start ∉ rest := (nodup_cons.1 horder.nodup).1
  have hfilter : (start :: rest).filter (· ≠ start) = rest := by
    rw [filter_cons_of_neg (by simp), filter_eq_self]
    exact fun id hid => by simpa using ne_of_mem_of_not_mem hid hfresh
  rw [dominators, hfilter]
  refine foldlM_total (P := fun front values => StepSets.Exact values
    (fun id d => Dag.Dominates plan.Edge start d id) (start :: front)) ?_ ?_
  · simp [StepSets.Exact, Dag.dominates_root]
  rintro front id back values rfl hvalues
  have hne : id ≠ start := fun heq => hfresh (by simp [heq])
  obtain ⟨sources, hsources, hmem⟩ := hsets id (by simp)
  have hbefore : values.Exact (fun id d => Dag.Dominates plan.Edge start d id)
      (sources.sort (· ≤ ·)) := fun source hsource =>
    hvalues source (horder.before (start :: front) id back rfl source (by simpa [hmem] using hsource))
  obtain ⟨intersection, hok, hexact⟩ := intersectSources_exact hbefore
  refine ⟨_, bind_ok_iff.2 ⟨_, orElse_ok_iff.2 hsources, bind_ok_iff.2 ⟨_, hok, rfl⟩⟩,
    hvalues.snoc fun d => ?_⟩
  rw [Finset.mem_insert, hexact, Dag.dominates_iff hne]
  refine or_congr_right ⟨fun h => by simpa [hmem] using h.2, fun h => ⟨?_, by simpa [hmem] using h⟩⟩
  -- the dominators of a source are steps, as all its paths are
  obtain ⟨source, hedge, hsource⟩ := (hentered id (by simp)).resolve_left hne
  exact mem_toFinset.2 (Dag.dominates_closed horder (fun a ha _ => hentered a ha) hsource hsource
    (h source hedge))

theorem collectDescendants_exact (htargets : ∀ source target, plan.Edge source target → target ∈ order)
    (hsets : sets.Exact plan.Edge order) :
    ∃ values, collectDescendants order sets = .ok values ∧
      values.Exact (TransGen plan.Edge) order.reverse := by
  refine foldlM_total (P := fun front values => StepSets.Exact values
    (TransGen plan.Edge) front) (by simp [StepSets.Exact]) ?_
  intro front id back values hsplit hvalues
  obtain rfl : order = back.reverse ++ id :: front.reverse := by
    simpa using congrArg reverse hsplit
  obtain ⟨children, hchildren, hmem⟩ := hsets id (by simp)
  refine ⟨_, bind_ok_iff.2 ⟨_, orElse_ok_iff.2 hchildren, rfl⟩, hvalues.snoc fun d => ?_⟩
  rw [Finset.mem_biUnion, TransGen.head'_iff]
  refine exists_congr fun child => ?_
  rw [hmem]
  refine and_congr_right fun hedge => ?_
  obtain ⟨nested, hnested, hreach⟩ := hvalues child
    (mem_reverse.1 (horder.target_mem (htargets _ _ hedge) hedge))
  rw [hnested, Finset.mem_insert, Option.getD_some, hreach, reflTransGen_iff_eq_or_transGen]

end Ordered

/-! ### Active steps -/

def PassEnd.resolved {Value Step Command : Type} : PassEnd Value Step Command → Resolved Value
  | stopped _ resolved => resolved
  | finished resolved _ => resolved

variable {Value Step Command History : Type} {resolved : Resolved Value}
  {R : StepRuntime Value Step Command History} {input : WorkflowRunInput}
  {context : WorkflowContext History} {dependencies dependencies' : List (String × Value)}

def Resolved.Active (resolved : Resolved Value) (id : String) : Prop :=
  ∃ result, resolved id = some (.active result)

/-- A step is the target of no edge, or of an edge from an active step. -/
def Resolved.Enters (resolved : Resolved Value) (plan : WorkflowPlan) (id : String) : Prop :=
  (∃ source, plan.Edge source id) → ∃ source, plan.Edge source id ∧ resolved.Active source

theorem exists_active {edges : List WorkflowEdgeSpec} {active : Bool}
    (h : visitEdges resolved edges dependencies active = some (some dependencies')) :
    active = true ∨ ∃ edge ∈ edges, resolved.Active edge.source := by
  induction edges generalizing dependencies active with
  | nil => exact .inl (by simpa [visitEdges] using congrArg Option.isSome (Option.some.inj h))
  | cons edge edges ih =>
    rw [visitEdges] at h
    split at h
    · cases h
    · exact (ih h).imp_right fun hedges => by simp [hedges]
    · exact .inr ⟨edge, by simp, _, ‹_›⟩

theorem enters_of_dependencyState (h : dependencyState plan resolved id = some (some dependencies)) :
    resolved.Enters plan id := by
  rintro ⟨source, edge, hin, -, htarget⟩
  have hedge := mem_incomingEdges.2 ⟨hin, htarget⟩
  rw [dependencyState] at h
  split at h
  · simp_all
  · obtain ⟨edge, hin, hactive⟩ := (exists_active h).resolve_left (by simp)
    obtain ⟨hin, htarget⟩ := mem_incomingEdges.1 hin
    exact ⟨edge.source, ⟨edge, hin, rfl, htarget⟩, hactive⟩

theorem enters_update {state : ResolvedState Value}
    (h : ∀ id, resolved.Active id → resolved.Enters plan id) (hnone : resolved id = none)
    (hid : resolved.Enters plan id ∨ state = .inactive) : ∀ id',
    Resolved.Active (update resolved id (some state)) id' →
      Resolved.Enters (update resolved id (some state)) plan id' := by
  rintro id' ⟨result, hresult⟩ hsources
  have hold : resolved.Enters plan id' := by
    by_cases heq : id' = id
    · rw [heq]
      exact hid.resolve_right fun hstate => by simp [heq, hstate] at hresult
    · exact h id' ⟨result, by rwa [update_of_ne heq] at hresult⟩
  obtain ⟨source, hedge, result, hactive⟩ := hold hsources
  refine ⟨source, hedge, result, ?_⟩
  rwa [update_of_ne]
  rintro rfl
  rw [hnone] at hactive
  cases hactive

theorem walkSteps_enters {steps : List WorkflowPlanStep} {ready : List Step}
    {pass : PassEnd Value Step Command} (hnodup : (steps.map WorkflowPlanStep.id).Nodup)
    (hnew : ∀ step ∈ steps, resolved step.id = none)
    (henters : ∀ id, resolved.Active id → resolved.Enters input.plan id)
    (h : walkSteps R input context steps resolved ready = .ok pass) :
    ∀ id, pass.resolved.Active id → pass.resolved.Enters input.plan id := by
  induction steps generalizing resolved ready with
  | nil =>
    cases h
    exact henters
  | cons step steps ih =>
    obtain ⟨hfresh, hnodup⟩ := nodup_cons.1 hnodup
    obtain ⟨hstep, hnew⟩ := forall_mem_cons.1 hnew
    have hrest : ∀ state, ∀ other ∈ steps,
        update resolved step.id (some state) other.id = none := by
      intro state other hother
      have hne : other.id ≠ step.id := fun heq => hfresh (heq ▸ mem_map_of_mem hother)
      rw [update_of_ne hne]
      exact hnew other hother
    rw [walkSteps] at h
    split at h
    · exact ih hnodup hnew henters h
    · exact ih hnodup (hrest _) (enters_update henters hstep (.inr rfl)) h
    · have hstate := enters_of_dependencyState ‹_›
      split at h
      · cases h
      · exact ih hnodup (hrest _) (enters_update henters hstep (.inl hstate)) h
      · exact ih hnodup hnew henters h
      · cases h
        exact henters

/-- For a plan whose edges lead to its steps and whose steps are all reached from the input step, in
any topological order: the dominators of a step are the steps on all paths from the input step to
it, what is reachable from a step is what a path of at least one edge leads to, and at the end of
every walk of the scheduler the dominators of an active step are active. -/
theorem dominators_exact (plan : WorkflowPlan) (start : String) (order : List String)
    (hids : plan.ids.Nodup) (htargets : ∀ edge ∈ plan.edges, edge.target ∈ plan.ids)
    (horder : Dag.Ordered plan.Edge order) (hsteps : ∀ id, id ∈ order ↔ id ∈ plan.ids)
    (hstart : start ∈ plan.ids) (hreach : ∀ id ∈ plan.ids, ReflTransGen plan.Edge start id) :
    ∃ sources values reachable, predecessors plan.edges plan.ids = .ok sources ∧
      dominators order start sources = .ok values ∧
      transitiveReachability order plan.edges plan.ids = .ok reachable ∧
      (∀ id ∈ plan.ids, ∃ set, values id = some set ∧
        ∀ d, d ∈ set ↔ Dag.Dominates plan.Edge start d id) ∧
      (∀ id ∈ plan.ids, ∃ set, reachable id = some set ∧
        ∀ d, d ∈ set ↔ TransGen plan.Edge id d) ∧
      ∀ {Value Step Command History : Type} (R : StepRuntime Value Step Command History)
        (input : WorkflowRunInput) (context : WorkflowContext History)
        (pass : PassEnd Value Step Command), input.plan = plan →
        schedulePass R input context = .ok pass → ∀ id ∈ plan.ids, pass.resolved.Active id →
          ∀ set, values id = some set → ∀ d ∈ set, pass.resolved.Active d := by
  have htarget : ∀ source target, plan.Edge source target → target ∈ order := by
    rintro _ _ ⟨edge, hedge, -, rfl⟩
    exact (hsteps _).2 (htargets edge hedge)
  have hsource : ∀ edge ∈ plan.edges, edge.source ∈ plan.ids := fun edge hedge =>
    (hsteps _).1 (horder.source_mem ((hsteps _).2 (htargets edge hedge)) ⟨edge, hedge, rfl, rfl⟩)
  obtain ⟨sources, hsources, hpairs⟩ := collectPairs_exact "target"
    (forall_mem_map.2 htargets : ∀ pair ∈ plan.edges.map fun edge => (edge.target, edge.source),
      pair.1 ∈ plan.ids)
  obtain ⟨outgoing, houtgoing, hpairs'⟩ := collectPairs_exact "source"
    (forall_mem_map.2 hsource : ∀ pair ∈ plan.edges.map fun edge => (edge.source, edge.target),
      pair.1 ∈ plan.ids)
  simp only [StepSets.Exact, ← hsteps] at hpairs hpairs' hstart hreach ⊢
  have hpredecessors : sources.Exact (fun id d => plan.Edge d id) order := by
    simpa [StepSets.Exact, WorkflowPlan.Edge, and_comm] using hpairs
  have hsuccessors : outgoing.Exact plan.Edge order := by
    simpa [StepSets.Exact, WorkflowPlan.Edge] using hpairs'
  obtain ⟨values, hvalues, hdominators⟩ := dominators_of_ordered horder hstart hreach hpredecessors
  obtain ⟨reachable, hreachable, hdescendants⟩ :=
    collectDescendants_exact horder htarget hsuccessors
  refine ⟨sources, values, reachable, hsources, hvalues, bind_ok_iff.2 ⟨_, houtgoing, hreachable⟩,
    hdominators, by simpa [StepSets.Exact] using hdescendants, ?_⟩
  intro Value Step Command History R input context pass hplan hpass id hid hactive set hset d hd
  simp only [schedulePass, ok_rules] at hpass
  have henters := walkSteps_enters (by rw [hplan]; exact hids) (by simp) (by simp [Resolved.Active])
    hpass.2
  rw [hplan] at henters
  obtain ⟨set', hset', hmem⟩ := hdominators id hid
  cases hset'.symm.trans hset
  refine Dag.dominates_closed horder (fun a ha hactive => ?_) hid hactive ((hmem d).1 hd)
  rcases ReflTransGen.cases_tail (hreach a ha) with heq | ⟨source, -, hedge⟩
  · exact .inl heq
  · exact .inr (henters a hactive ⟨source, hedge⟩)

namespace Sample

theorem dominators_exact_join : ∃ sources values set,
    predecessors runInput.plan.edges runInput.plan.ids = .ok sources ∧
      dominators runInput.plan.ids "start" sources = .ok values ∧ values "end" = some set ∧
        ∀ d, d ∈ set ↔ Dag.Dominates runInput.plan.Edge "start" d "end" := by
  have hroute : ReflTransGen runInput.plan.Edge "start" "route" :=
    .single ⟨_, getElem_mem (n := 0) (by decide), rfl, rfl⟩
  have hleft := hroute.tail (c := "left") ⟨_, getElem_mem (n := 1) (by decide), rfl, rfl⟩
  have hright := hroute.tail (c := "right") ⟨_, getElem_mem (n := 2) (by decide), rfl, rfl⟩
  have hend := hleft.tail (c := "end") ⟨_, getElem_mem (n := 3) (by decide), rfl, rfl⟩
  have hreach : ∀ id ∈ runInput.plan.ids,
      ReflTransGen runInput.plan.Edge "start" id := by
    simp only [runInput, WorkflowPlan.ids, map_cons, map_nil, forall_mem_cons]
    exact ⟨.refl, hroute, hleft, hright, hend, by simp⟩
  obtain ⟨sources, values, -, hsources, hvalues, -, hexact, -⟩ := dominators_exact runInput.plan
    "start" runInput.plan.ids (by decide) (by decide) ordered_runInput (fun _ => Iff.rfl) (by decide)
    hreach
  obtain ⟨set, hset, hmem⟩ := hexact "end" (by decide)
  exact ⟨sources, values, set, hsources, hvalues, hset, hmem⟩

end Sample

end A3SCloud.Workflow
