import Mathlib.Tactic.Common

/-!
# Runs of a labelled transition system

A system is a total step function `step : σ → α → σ`; an action that is not possible in a state
leaves it unchanged. `run` is the state after a list of actions and `Allowed` says that each action
of the list meets a condition in the state in which it is taken. `invariant` is the induction rule:
what holds initially and is kept by every allowed step holds after every allowed run.
`afterResult` turns an operation that may fail into a step.
`concat_eq_split` locates an event in a history that a step has extended.
-/

namespace Runs

open List

variable {σ α : Type*} (step : σ → α → σ)

def run (s : σ) (actions : List α) : σ := actions.foldl step s

/-- Each action is allowed in the state in which it is taken. -/
def Allowed (ok : σ → α → Prop) : σ → List α → Prop
  | _, [] => True
  | s, a :: actions => ok s a ∧ Allowed ok (step s a) actions

/-- The state after an operation with a result; one that fails leaves the state as it is. -/
def afterResult {ε β : Type*} (s : σ) : Except ε (β × σ) → σ
  | .ok (_, s') => s'
  | .error _ => s

variable {s : σ} {ok : σ → α → Prop} {actions : List α} {a : α} {I : σ → Prop}

/-- What holds of the present state and of every state that an operation can return holds after
it. -/
theorem afterResult_of {ε β : Type*} {result : Except ε (β × σ)} {P : σ → Prop} (hsame : P s)
    (hok : ∀ b s', result = .ok (b, s') → P s') : P (afterResult s result) := by
  cases result with
  | error => exact hsame
  | ok pair => exact hok pair.1 pair.2 rfl

instance decidableAllowed (ok : σ → α → Prop) [∀ s a, Decidable (ok s a)] (s : σ)
    (actions : List α) : Decidable (Allowed step ok s actions) :=
  match actions with
  | [] => isTrue trivial
  | a :: actions =>
    have := decidableAllowed ok (step s a) actions
    inferInstanceAs (Decidable (ok s a ∧ Allowed step ok (step s a) actions))

variable {step}

@[simp] theorem run_nil (s : σ) : run step s [] = s := rfl

@[simp] theorem run_cons (s : σ) (a : α) (actions : List α) :
    run step s (a :: actions) = run step (step s a) actions := rfl

theorem run_append (s : σ) (l₁ l₂ : List α) :
    run step s (l₁ ++ l₂) = run step (run step s l₁) l₂ := foldl_append

theorem Allowed.mono {ok' : σ → α → Prop} (h : ∀ s a, ok s a → ok' s a)
    (hall : Allowed step ok s actions) : Allowed step ok' s actions := by
  induction actions generalizing s with
  | nil => trivial
  | cons a actions ih => exact ⟨h s a hall.1, ih hall.2⟩

/-- What is allowed of the actions before one of them and of that action. -/
theorem Allowed.split {front back : List α} (hall : Allowed step ok s (front ++ a :: back)) :
    Allowed step ok s front ∧ ok (run step s front) a := by
  induction front generalizing s with
  | nil => exact ⟨trivial, hall.1⟩
  | cons b front ih =>
    obtain ⟨hfront, ha⟩ := ih hall.2
    exact ⟨⟨hall.1, hfront⟩, ha⟩

/-- A condition on the actions alone. -/
theorem allowed_of_forall {p : α → Prop} (h : ∀ a ∈ actions, p a) :
    Allowed step (fun _ a => p a) s actions := by
  induction actions generalizing s with
  | nil => trivial
  | cons a actions ih =>
    obtain ⟨ha, hrest⟩ := forall_mem_cons.1 h
    exact ⟨ha, ih hrest⟩

theorem invariant (hstep : ∀ s a, I s → ok s a → I (step s a)) (hinit : I s)
    (hall : Allowed step ok s actions) : I (run step s actions) := by
  induction actions generalizing s with
  | nil => exact hinit
  | cons a actions ih => exact ih (hstep s a hinit hall.1) hall.2

/-- What every step keeps holds after every run. -/
theorem invariant_all (hstep : ∀ s a, I s → I (step s a)) (hinit : I s) (actions : List α) :
    I (run step s actions) := by
  induction actions generalizing s with
  | nil => exact hinit
  | cons a actions ih => exact ih (hstep s a hinit)

/-- Where an event stands in a history that was extended by one. -/
theorem concat_eq_split {l before after : List α} {x : α} (h : l ++ [x] = before ++ a :: after) :
    (before = l ∧ a = x ∧ after = []) ∨
      ∃ after', after = after' ++ [x] ∧ l = before ++ a :: after' := by
  rcases eq_nil_or_concat after with rfl | ⟨after', y, rfl⟩
  · left
    obtain ⟨h₁, h₂⟩ := append_inj' h rfl
    exact ⟨h₁.symm, (singleton_inj.1 h₂).symm, rfl⟩
  · right
    rw [concat_eq_append] at h ⊢
    have h' : l ++ [x] = (before ++ a :: after') ++ [y] := by simpa using h
    obtain ⟨h₁, h₂⟩ := append_inj' h' rfl
    exact ⟨after', by rw [singleton_inj.1 h₂], h₁⟩

end Runs
