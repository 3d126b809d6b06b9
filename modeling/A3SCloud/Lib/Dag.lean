import Mathlib.Data.List.Induction
import Mathlib.Data.List.Nodup
import Mathlib.Logic.Relation
import Mathlib.Tactic.Common

/-!
# Graphs in a topological order

* `Dag.Ordered` says that a list has every node once, behind the sources of its edges.
* `Dag.Path` are the paths from a root, `Dag.Dominates` what lies on all of them.
* `Dag.dominates_iff` computes the dominators of a node from those of its sources.
* `Dag.dominates_closed` is the rule for sets in which every node is entered from another one: they
  have the dominators of their nodes.
-/

namespace Dag

open List

variable {α : Type*} {edge : α → α → Prop} {order : List α} {root a b c d : α} {path : List α}

/-- A topological order. -/
structure Ordered (edge : α → α → Prop) (order : List α) : Prop where
  nodup : order.Nodup
  before : ∀ front a back, order = front ++ a :: back → ∀ b, edge b a → b ∈ front

theorem Ordered.source_mem (h : Ordered edge order) (ha : a ∈ order) (hedge : edge b a) :
    b ∈ order := by
  obtain ⟨front, back, rfl⟩ := append_of_mem ha
  exact mem_append_left _ (h.before front a back rfl b hedge)

/-- The target of an edge is behind its source. -/
theorem Ordered.target_mem {front back : List α} (h : Ordered edge (front ++ a :: back))
    (hb : b ∈ front ++ a :: back) (hedge : edge a b) : b ∈ back := by
  have hfront : a ∉ front := by
    have hnodup := nodup_append.1 h.nodup
    exact fun ha => hnodup.2.2 a ha a (by simp) rfl
  rcases mem_append.1 hb with hb | hb
  · obtain ⟨first, second, rfl⟩ := append_of_mem hb
    refine absurd (h.before first b (second ++ a :: back) (by simp) a hedge) fun ha => ?_
    exact hfront (mem_append_left _ ha)
  · rcases mem_cons.1 hb with rfl | hb
    · exact absurd (h.before front b back rfl b hedge) hfront
    · exact hb

theorem Ordered.induction (h : Ordered edge order) {P : α → Prop}
    (hstep : ∀ a ∈ order, (∀ b, edge b a → P b) → P a) : ∀ a ∈ order, P a := by
  suffices hfront : ∀ front back, order = front ++ back → ∀ a ∈ front, P a by
    exact hfront order [] (by simp)
  intro front
  induction front using reverseRecOn with
  | nil => simp
  | append_singleton front a ih =>
    intro back heq b hb
    have hsplit : order = front ++ a :: back := by simpa using heq
    rcases mem_append.1 hb with hb | hb
    · exact ih _ hsplit b hb
    · rw [mem_singleton.1 hb]
      exact hstep a (by simp [hsplit]) fun b hedge => ih _ hsplit b (h.before _ _ _ hsplit b hedge)

/-- The paths from a root, each with its last node first. -/
inductive Path (edge : α → α → Prop) (root : α) : α → List α → Prop
  | nil : Path edge root root [root]
  | snoc {a b : α} {path : List α} (hpath : Path edge root a path) (hedge : edge a b) :
      Path edge root b (b :: path)

theorem Path.end_mem (h : Path edge root a path) : a ∈ path := by
  cases h <;> simp

/-- A node that lies on all paths from the root to another one. -/
def Dominates (edge : α → α → Prop) (root d a : α) : Prop :=
  ∀ path, Path edge root a path → d ∈ path

theorem dominates_root : Dominates edge root d root ↔ d = root := by
  constructor
  · intro hd
    simpa using hd _ .nil
  · rintro rfl path hpath
    exact hpath.end_mem

theorem dominates_iff (hne : a ≠ root) :
    Dominates edge root d a ↔ d = a ∨ ∀ b, edge b a → Dominates edge root d b := by
  constructor
  · intro hd
    by_cases heq : d = a
    · exact .inl heq
    · refine .inr fun b hedge path hpath => ?_
      exact (mem_cons.1 (hd _ (hpath.snoc hedge))).resolve_left heq
  · rintro (rfl | hsources) path hpath
    · exact hpath.end_mem
    · cases hpath with
      | nil => exact absurd rfl hne
      | snoc hpath hedge => exact mem_cons_of_mem _ (hsources _ hedge _ hpath)

/-- A set in which every node but the root is entered from another node of the set has the
dominators of its nodes. -/
theorem dominates_closed (h : Ordered edge order) {P : α → Prop}
    (hentered : ∀ a ∈ order, P a → a = root ∨ ∃ b, edge b a ∧ P b) (ha : a ∈ order) (hP : P a)
    (hd : Dominates edge root d a) : P d := by
  have hpaths : ∀ a ∈ order, P a → ∃ path, Path edge root a path ∧ ∀ x ∈ path, P x := by
    refine h.induction fun a ha ih hP => ?_
    rcases hentered a ha hP with rfl | ⟨b, hedge, hPb⟩
    · exact ⟨[a], .nil, by simpa using hP⟩
    · obtain ⟨path, hpath, hall⟩ := ih b hedge hPb
      exact ⟨a :: path, .snoc hpath hedge, forall_mem_cons.2 ⟨hP, hall⟩⟩
  obtain ⟨path, hpath, hall⟩ := hpaths a ha hP
  exact hall d (hd path hpath)

/-- The root from which all nodes are reached comes first. -/
theorem Ordered.root_first (h : Ordered edge order) (hroot : root ∈ order)
    (hreach : ∀ a ∈ order, Relation.ReflTransGen edge root a) : ∃ rest, order = root :: rest := by
  cases order with
  | nil => cases hroot
  | cons a rest =>
    rcases Relation.ReflTransGen.cases_tail (hreach a (by simp)) with rfl | ⟨b, -, hedge⟩
    · exact ⟨rest, rfl⟩
    · exact absurd (h.before [] a rest rfl b hedge) (by simp)

end Dag
