import Mathlib.Data.List.Forall2
import Mathlib.Data.List.Induction
import Mathlib.Tactic.Common

/-!
# Checked computations

Sources that validate their input return `Result<(), Error>` from a chain of early exits. This
module gives the vocabulary for such chains over `Except` and the inversion lemmas with which a
successful chain is taken apart:

* `refuseIf c e` is the early exit `if c { return Err(e) }`;
* `checkAll f l` runs the check `f` on every element of `l` and stops at the first error, and
  `mapAll f l` does so with a function whose values it collects;
* `ok_rules`, `checkAll_ok_iff` and `mapAll_ok_iff` say when a chain succeeds, so that a proof never
  unfolds one;
* `foldlM_ok` is the rule for a loop that changes a state: what each round keeps and establishes
  holds at the end; `foldlM_total` is the rule with which such a loop is shown to end;
* `decidableForallOk` and `decidableExistsOk` decide what holds of the value of a computation.
-/

namespace Checks

open List

universe u

variable {α β : Type u} {ε ε' : Type*}

/-- The early exit `if c { return Err(e) }`. -/
def refuseIf (c : Prop) [Decidable c] (e : ε) : Except ε Unit :=
  if c then .error e else .ok ()

/-- Runs a check on every element and stops at the first error. -/
def checkAll (f : α → Except ε Unit) : List α → Except ε Unit
  | [] => .ok ()
  | a :: l => f a >>= fun _ => checkAll f l

/-- Runs a fallible function on every element, stops at the first error and collects the values. -/
def mapAll {α β : Type*} (f : α → Except ε β) : List α → Except ε (List β)
  | [] => .ok []
  | a :: l =>
    match f a with
    | .error e => .error e
    | .ok b => (mapAll f l).map (b :: ·)

/-- The value of an option, or the error of its absence. -/
def orElse (e : ε) : Option α → Except ε α
  | some a => .ok a
  | none => .error e

variable {x : Except ε α} {f : α → Except ε β} {a : α} {e e' : ε} {u : Unit} {o : Option α}

@[simp] theorem bind_ok_iff {b : β} : (x >>= f) = .ok b ↔ ∃ a, x = .ok a ∧ f a = .ok b := by
  cases x with
  | error => simp [bind, Except.bind]
  | ok => simp [bind, Except.bind]

/-- A check returns nothing but its success. -/
@[simp] theorem exists_unit {p : Unit → Prop} : (∃ u, p u) ↔ p () :=
  ⟨fun ⟨_, h⟩ => h, fun h => ⟨(), h⟩⟩

@[simp] theorem pure_ok_iff {b : α} : (pure a : Except ε α) = .ok b ↔ a = b := by
  simp [pure, Except.pure]

@[simp] theorem mapError_ok_iff {f : ε → ε'} : x.mapError f = .ok a ↔ x = .ok a := by
  cases x <;> simp [Except.mapError]

@[simp] theorem refuseIf_ok_iff {c : Prop} [Decidable c] : refuseIf c e = .ok u ↔ ¬ c := by
  by_cases h : c <;> simp [refuseIf, h]

@[simp] theorem orElse_ok_iff : orElse e o = .ok a ↔ o = some a := by
  cases o <;> simp [orElse]

/-- The rules above in one, so that `simp only [ok_rules]` takes a whole chain apart. -/
theorem ok_rules :
    (∀ {ε α β : Type} {x : Except ε α} {f : α → Except ε β} {b : β},
      (x >>= f) = .ok b ↔ ∃ a, x = .ok a ∧ f a = .ok b) ∧
    (∀ {p : Unit → Prop}, (∃ u, p u) ↔ p ()) ∧
    (∀ {ε α : Type} {a b : α}, (pure a : Except ε α) = .ok b ↔ a = b) ∧
    (∀ {ε ε' α : Type} {x : Except ε α} {f : ε → ε'} {a : α}, x.mapError f = .ok a ↔ x = .ok a) ∧
    (∀ {ε : Type} {e : ε} {u : Unit} {c : Prop} [Decidable c], refuseIf c e = .ok u ↔ ¬ c) ∧
    ∀ {ε α : Type} {e : ε} {o : Option α} {a : α}, orElse e o = .ok a ↔ o = some a :=
  ⟨bind_ok_iff, exists_unit, pure_ok_iff, mapError_ok_iff, refuseIf_ok_iff, orElse_ok_iff⟩

/-! ### Where a chain fails -/

theorem bind_error_iff : (x >>= f) = .error e ↔ x = .error e ∨ ∃ a, x = .ok a ∧ f a = .error e := by
  cases x with
  | error => simp [bind, Except.bind]
  | ok => simp [bind, Except.bind]

theorem mapError_error_iff {f : ε → ε'} {e' : ε'} :
    x.mapError f = .error e' ↔ ∃ e, x = .error e ∧ f e = e' := by
  cases x <;> simp [Except.mapError]

theorem refuseIf_error_iff {c : Prop} [Decidable c] : refuseIf c e = .error e' ↔ c ∧ e = e' := by
  by_cases h : c <;> simp [refuseIf, h]

theorem orElse_error_iff : orElse e o = .error e' ↔ o = none ∧ e = e' := by
  cases o <;> simp [orElse]

/-! ### Checks of a whole list -/

theorem checkAll_ok_iff {f : α → Except ε Unit} {l : List α} :
    checkAll f l = .ok u ↔ ∀ a ∈ l, f a = .ok () := by
  induction l with
  | nil => simp [checkAll]
  | cons a l ih =>
    simp only [checkAll, bind_ok_iff, exists_unit, ih, forall_mem_cons]

theorem mapAll_ok_iff {α β : Type*} {f : α → Except ε β} {l : List α} {l' : List β} :
    mapAll f l = .ok l' ↔ Forall₂ (fun a b => f a = .ok b) l l' := by
  induction l generalizing l' with
  | nil => simp [mapAll, eq_comm]
  | cons a l ih =>
    rw [mapAll, forall₂_cons_left_iff]
    cases hf : f a with
    | error => simp
    | ok b =>
      cases hl : mapAll f l with
      | error =>
        simp only [hl, reduceCtorEq, false_iff] at ih
        simp only [Except.map, reduceCtorEq, false_iff, Except.ok.injEq]
        rintro ⟨b', rest, rfl, hrest, -⟩
        exact ih hrest
      | ok rest =>
        simp only [hl, Except.ok.injEq] at ih
        simp only [Except.map, Except.ok.injEq, ← ih]
        constructor
        · rintro rfl
          exact ⟨b, rest, rfl, rfl, rfl⟩
        · rintro ⟨_, _, rfl, rfl, rfl⟩
          rfl

/-- A loop all of whose rounds succeed: what a round makes of the part behind it holds of the whole
list. -/
theorem foldlM_total {σ α : Type*} {f : σ → α → Except ε σ} {P : List α → σ → Prop} {l : List α}
    {s : σ} (hinit : P [] s) (hstep : ∀ front a back s, l = front ++ a :: back → P front s →
      ∃ s', f s a = .ok s' ∧ P (front ++ [a]) s') : ∃ s', l.foldlM f s = .ok s' ∧ P l s' := by
  induction l using reverseRecOn with
  | nil => exact ⟨s, rfl, hinit⟩
  | append_singleton l a ih =>
    obtain ⟨middle, hmiddle, hP⟩ := ih fun front b back s heq =>
      hstep front b (back ++ [a]) s (by simp [heq])
    obtain ⟨s', hs', hP'⟩ := hstep l a [] middle rfl hP
    exact ⟨s', by simp [foldlM_append, hmiddle, hs', bind, Except.bind], hP'⟩

/-- A loop that ends: `P` is kept by every round, and a round establishes `Q` of its element, which
later rounds keep. -/
theorem foldlM_ok {σ α : Type*} {f : σ → α → Except ε σ} {P : σ → Prop} {Q : α → σ → Prop}
    {l : List α} {s s' : σ}
    (hstep : ∀ a ∈ l, ∀ s s', P s → f s a = .ok s' → P s' ∧ Q a s' ∧ ∀ b, Q b s → Q b s')
    (hinit : P s) (h : l.foldlM f s = .ok s') :
    P s' ∧ (∀ a ∈ l, Q a s') ∧ ∀ b, Q b s → Q b s' := by
  induction l generalizing s with
  | nil =>
    cases h
    exact ⟨hinit, fun _ ha => absurd ha not_mem_nil, fun _ hb => hb⟩
  | cons a l ih =>
    rw [foldlM_cons] at h
    cases hfirst : f s a with
    | error =>
      rw [hfirst] at h
      cases h
    | ok s₁ =>
      rw [hfirst] at h
      obtain ⟨hP, hQ, hkeep⟩ := hstep a mem_cons_self s s₁ hinit hfirst
      obtain ⟨hP', hQ', hkeep'⟩ :=
        ih (fun b hb => hstep b (mem_cons_of_mem _ hb)) hP h
      refine ⟨hP', fun b hb => ?_, fun b hb => hkeep' b (hkeep b hb)⟩
      rcases mem_cons.1 hb with rfl | hb
      · exact hkeep' _ hQ
      · exact hQ' b hb

/-- A list of computations returns if and only if each of them does. -/
theorem exists_mapAll_ok_iff {α β : Type*} {f : α → Except ε β} {l : List α} :
    (∃ l', mapAll f l = .ok l') ↔ ∀ a ∈ l, ∃ b, f a = .ok b := by
  simp only [mapAll_ok_iff]
  induction l with
  | nil => exact ⟨fun _ _ h => absurd h not_mem_nil, fun _ => ⟨[], Forall₂.nil⟩⟩
  | cons a l ih =>
    rw [forall_mem_cons, ← ih]
    constructor
    · rintro ⟨_, hall⟩
      cases hall with
      | cons hfirst hrest => exact ⟨⟨_, hfirst⟩, _, hrest⟩
    · rintro ⟨⟨b, hfirst⟩, l', hrest⟩
      exact ⟨b :: l', Forall₂.cons hfirst hrest⟩

/-! ### Lists of arguments and results -/

section Forall₂

variable {α β : Type*} {R : α → β → Prop} {l : List α} {l' : List β}

theorem exists_left_of_mem (h : Forall₂ R l l') {b : β} (hb : b ∈ l') : ∃ a ∈ l, R a b := by
  induction h with
  | nil => cases hb
  | cons hab _ ih =>
    rcases mem_cons.1 hb with rfl | hb
    · exact ⟨_, mem_cons_self, hab⟩
    · obtain ⟨a, ha, hR⟩ := ih hb
      exact ⟨a, mem_cons_of_mem _ ha, hR⟩

theorem exists_right_of_mem (h : Forall₂ R l l') {a : α} (ha : a ∈ l) : ∃ b ∈ l', R a b := by
  induction h with
  | nil => cases ha
  | cons hab _ ih =>
    rcases mem_cons.1 ha with rfl | ha
    · exact ⟨_, mem_cons_self, hab⟩
    · obtain ⟨b, hb, hR⟩ := ih ha
      exact ⟨b, mem_cons_of_mem _ hb, hR⟩

/-- What the results that are there know of their arguments. -/
theorem map_filterMap_sublist {γ : Type*} {o : List (Option β)} {f : α → γ} {g : β → γ}
    (h : Forall₂ (fun a b => ∀ c, b = some c → g c = f a) l o) :
    ((o.filterMap id).map g).Sublist (l.map f) := by
  induction h with
  | nil => exact Sublist.refl _
  | @cons a b l o hab _ ih =>
    cases b with
    | none => exact ih.cons _
    | some c =>
      rw [filterMap_cons_some (f := id) rfl, map_cons, map_cons, hab c rfl]
      exact ih.cons_cons _

/-- When every element has a value, the values stand beside their elements. -/
theorem forall₂_filterMap {f : α → Option β} (h : ∀ a ∈ l, ∃ b, f a = some b ∧ R a b) :
    Forall₂ R l (l.filterMap f) := by
  induction l with
  | nil => exact .nil
  | cons a l ih =>
    obtain ⟨⟨b, hb, hR⟩, hl⟩ := forall_mem_cons.1 h
    rw [filterMap_cons_some hb]
    exact .cons hR (ih hl)

/-- The last element and the last value stand beside each other. -/
theorem forall₂_concat_left {a : α} (h : Forall₂ R (l ++ [a]) l') :
    ∃ front b, l' = front ++ [b] ∧ Forall₂ R l front ∧ R a b := by
  induction l generalizing l' with
  | nil =>
    obtain ⟨b, rest, hab, hrest, rfl⟩ := forall₂_cons_left_iff.1 h
    cases hrest
    exact ⟨[], b, rfl, .nil, hab⟩
  | cons x l ih =>
    obtain ⟨y, rest, hxy, hrest, rfl⟩ := forall₂_cons_left_iff.1 h
    obtain ⟨front, b, rfl, hfront, hab⟩ := ih hrest
    exact ⟨y :: front, b, rfl, .cons hxy hfront, hab⟩

end Forall₂

/-! ### Decidable statements about a result -/

instance decidableForallOk (x : Except ε α) (p : α → Prop) [DecidablePred p] :
    Decidable (∀ a, x = .ok a → p a) :=
  match x with
  | .ok a => decidable_of_iff (p a) (by simp)
  | .error _ => isTrue (by simp)

instance decidableExistsOk (x : Except ε α) (p : α → Prop) [DecidablePred p] :
    Decidable (∃ a, x = .ok a ∧ p a) :=
  match x with
  | .ok a => decidable_of_iff (p a) (by simp)
  | .error _ => isFalse (by simp)

end Checks
