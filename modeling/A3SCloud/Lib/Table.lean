import Mathlib.Algebra.GroupWithZero.Nat
import Mathlib.Data.List.Nodup
import Mathlib.Data.List.Sort
import Mathlib.Tactic.Common

/-!
# Tables

A `Table key` is a finite map whose values carry their own key: a list of rows in which no key
occurs twice. It stands for the `BTreeMap`s and `HashMap`s of sources whose entries are stored under
one of their fields, with the rows in the order in which they were inserted.

* `Table.get?`, `Table.insert` and `Table.mapRows` are the operations; `Table.modify` changes the
  row under one key and is a special case of `mapRows`.
* `Table.Rewrites` relates a table to a later one row by row.
* `Table.sumBy` is the total of a measure over the rows; `Table.sumBy_insert` and
  `Table.sumBy_filter` say how it changes.
-/

open List

/-- A list of rows with pairwise different keys. -/
structure Table {α κ : Type*} (key : α → κ) where
  rows : List α
  nodup : (rows.map key).Nodup

namespace Table

variable {α κ : Type*} {key : α → κ}

def empty : Table key := ⟨[], nodup_nil⟩

@[simp] theorem rows_empty : (empty : Table key).rows = [] := rfl

variable {t : Table key} {a : α}

theorem ext_rows {t' : Table key} (h : t.rows = t'.rows) : t = t' := by
  cases t; cases t'; cases h; rfl

variable {b : α} {f : α → α} {k : κ} {rows : List α}

/-- Two rows with the same key are the same row. -/
theorem eq_of_key_eq (t : Table key) (ha : a ∈ t.rows) (hb : b ∈ t.rows) (h : key a = key b) :
    a = b :=
  inj_on_of_nodup_map t.nodup ha hb h

/-- Changes every row without changing its key. -/
def mapRows (t : Table key) (f : α → α) (hf : ∀ a, key (f a) = key a) : Table key where
  rows := t.rows.map f
  nodup := by
    have h : (t.rows.map f).map key = t.rows.map key := by
      simp only [map_map]
      exact map_congr_left fun a _ => hf a
    rw [h]
    exact t.nodup

@[simp] theorem rows_mapRows (t : Table key) (f : α → α) (hf : ∀ a, key (f a) = key a) :
    (t.mapRows f hf).rows = t.rows.map f := rfl

theorem mem_mapRows {hf : ∀ a, key (f a) = key a} :
    b ∈ (t.mapRows f hf).rows ↔ ∃ a ∈ t.rows, f a = b := by
  simp

/-- Keeps the rows that satisfy `p`. -/
def filter (t : Table key) (p : α → Bool) : Table key where
  rows := t.rows.filter p
  nodup := t.nodup.sublist (filter_sublist.map key)

variable [DecidableEq κ]

def get? (t : Table key) (k : κ) : Option α := t.rows.find? (fun a => key a = k)

theorem get?_eq_some_iff : t.get? k = some a ↔ a ∈ t.rows ∧ key a = k := by
  constructor
  · intro h
    have hk := find?_some h
    exact ⟨mem_of_find?_eq_some h, by simpa using hk⟩
  · rintro ⟨ha, hk⟩
    cases h : t.get? k with
    | none =>
      have := find?_eq_none.1 h a ha
      simp [hk] at this
    | some =>
      have hkb := find?_some h
      simp only [decide_eq_true_eq] at hkb
      rw [t.eq_of_key_eq (mem_of_find?_eq_some h) ha (hkb.trans hk.symm)]

/-- What is read under some key is what is read under its own key. -/
theorem get?_key (h : t.get? k = some a) :
    t.get? (key a) = some a :=
  get?_eq_some_iff.2 ⟨(get?_eq_some_iff.1 h).1, rfl⟩

theorem get?_eq_none_iff : t.get? k = none ↔ ∀ a ∈ t.rows, key a ≠ k := by
  simp [get?, find?_eq_none]

@[simp] theorem get?_empty (k : κ) : (empty : Table key).get? k = none := rfl

@[simp] theorem get?_mapRows (t : Table key) (f : α → α) (hf : ∀ a, key (f a) = key a) (k : κ) :
    (t.mapRows f hf).get? k = (t.get? k).map f := by
  have hp : ((fun a => decide (key a = k)) ∘ f) = fun a => decide (key a = k) := by
    funext a; simp [hf]
  simp only [get?, rows_mapRows, find?_map, hp]

/-- Changes the row under one key. -/
def modify (t : Table key) (k : κ) (f : α → α) (hf : ∀ a, key (f a) = key a) : Table key :=
  t.mapRows (fun a => if key a = k then f a else a) (by intro a; split_ifs <;> simp [hf])

theorem get?_modify (t : Table key) (k : κ) (f : α → α) (hf : ∀ a, key (f a) = key a) (k' : κ) :
    (t.modify k f hf).get? k' = if k' = k then (t.get? k').map f else t.get? k' := by
  rw [modify, get?_mapRows]
  cases h : t.get? k' with
  | none => simp
  | some a =>
    obtain ⟨-, rfl⟩ := get?_eq_some_iff.1 h
    by_cases hk : key a = k <;> simp [hk]

/-- Stores a row under its key, in place of the row that was there. -/
def insert (t : Table key) (a : α) : Table key :=
  match h : t.get? (key a) with
  | some _ => t.mapRows (fun b => if key b = key a then a else b) (by
      intro b; split_ifs with hb <;> simp [hb])
  | none => {
      rows := t.rows ++ [a]
      nodup := by
        have hne : key a ∉ t.rows.map key := by
          simpa [eq_comm] using get?_eq_none_iff.1 h
        rw [map_append, map_singleton]
        exact nodup_append.2 ⟨t.nodup, nodup_singleton _, by
          rintro x hx y hy rfl
          exact hne (by simpa [mem_singleton.1 hy] using hx)⟩ }

theorem rows_insert_of_none (h : t.get? (key a) = none) : (t.insert a).rows = t.rows ++ [a] := by
  unfold insert
  split
  · rename_i b hb
    rw [h] at hb
    cases hb
  · rfl

theorem get?_insert (t : Table key) (a : α) (k : κ) :
    (t.insert a).get? k = if k = key a then some a else t.get? k := by
  unfold insert
  split
  · rename_i b hb
    rw [get?_mapRows]
    by_cases hk : k = key a
    · subst hk
      have hkey := (get?_eq_some_iff.1 hb).2
      simp [hb, hkey]
    · rw [if_neg hk]
      cases hc : t.get? k with
      | none => rfl
      | some c =>
        have hne : key c ≠ key a := by
          rw [(get?_eq_some_iff.1 hc).2]
          exact hk
        simp [hne]
  · rename_i hn
    by_cases hk : k = key a
    · subst hk
      rw [if_pos rfl, get?_eq_some_iff]
      simp
    · rw [if_neg hk]
      simp only [get?, find?_append]
      have hne : ¬ key a = k := fun h => hk h.symm
      simp [hne]

theorem mem_insert : b ∈ (t.insert a).rows ↔ b = a ∨ (b ∈ t.rows ∧ key b ≠ key a) := by
  have hget := get?_insert t a (key b)
  have hmem : b ∈ (t.insert a).rows ↔ (t.insert a).get? (key b) = some b := by
    simp [get?_eq_some_iff]
  rw [hmem, hget]
  by_cases hk : key b = key a
  · simp only [hk, if_true, Option.some.injEq, ne_eq, not_true_eq_false, and_false, or_false]
    exact eq_comm
  · have hne : b ≠ a := fun h => hk (congrArg key h)
    rw [if_neg hk, get?_eq_some_iff]
    simp [hne, hk]

theorem get?_insert_eq_some :
    (t.insert a).get? k = some b ↔ (k = key a ∧ b = a) ∨ (k ≠ key a ∧ t.get? k = some b) := by
  rw [get?_insert]
  split_ifs with hk
  · simp [hk, eq_comm]
  · simp [hk]

theorem get?_insert_self (t : Table key) (a : α) : (t.insert a).get? (key a) = some a := by
  rw [get?_insert, if_pos rfl]

/-- A row that is replaced: what was read under a key is now the new row, or what it was. -/
theorem get?_insert_of_get? (h : t.get? k = some b) :
    (k = key a ∧ (t.insert a).get? k = some a) ∨ (k ≠ key a ∧ (t.insert a).get? k = some b) := by
  by_cases hk : k = key a
  · exact .inl ⟨hk, by rw [get?_insert, if_pos hk]⟩
  · exact .inr ⟨hk, by rw [get?_insert, if_neg hk, h]⟩

/-- Stores a row unless there is one under its key. -/
def insertIfAbsent (t : Table key) (a : α) : Table key :=
  match t.get? (key a) with
  | some _ => t
  | none => t.insert a

theorem get?_insertIfAbsent (t : Table key) (a : α) (k : κ) :
    (t.insertIfAbsent a).get? k = if k = key a then some ((t.get? k).getD a) else t.get? k := by
  unfold insertIfAbsent
  cases h : t.get? (key a) with
  | some =>
    by_cases hk : k = key a
    · subst hk; simp [h]
    · simp [hk]
  | none =>
    simp only [get?_insert]
    by_cases hk : k = key a
    · subst hk; simp [h]
    · simp [hk]

/-! ### Rows that are followed by others -/

/-- Every row of a table is followed under its key by one that is related to it, and every other row
of the later table satisfies `N`. -/
structure Rewrites (R : α → α → Prop) (N : α → Prop) (t t' : Table key) : Prop where
  forward : ∀ k a, t.get? k = some a → ∃ a', t'.get? k = some a' ∧ R a a'
  backward : ∀ k a', t'.get? k = some a' → (∃ a, t.get? k = some a ∧ R a a') ∨ N a'

section Rewrites

variable {R : α → α → Prop} {N : α → Prop} {t : Table key}

theorem Rewrites.refl (hR : ∀ a, R a a) : Rewrites R N t t :=
  ⟨fun _ a h => ⟨a, h, hR a⟩, fun _ a h => .inl ⟨a, h, hR a⟩⟩

variable {a : α}

theorem Rewrites.insert_new (hR : ∀ a, R a a) (hnone : t.get? (key a) = none) (ha : N a) :
    Rewrites R N t (t.insert a) where
  forward k b hb := by
    rcases get?_insert_of_get? (a := a) hb with ⟨rfl, -⟩ | ⟨-, hb'⟩
    · rw [hnone] at hb
      cases hb
    · exact ⟨b, hb', hR b⟩
  backward k b hb := by
    rcases get?_insert_eq_some.1 hb with ⟨-, rfl⟩ | ⟨-, hb⟩
    · exact .inr ha
    · exact .inl ⟨b, hb, hR b⟩

/-- A row in the place of one that is related to it. -/
theorem Rewrites.insert_at (hR : ∀ a, R a a) (ha : t.get? (key a) = some a) (hkey : key b = key a)
    (hab : R a b) : Rewrites R N t (t.insert b) where
  forward k c hc := by
    rcases get?_insert_of_get? (a := b) hc with ⟨rfl, hb⟩ | ⟨-, hc'⟩
    · rw [hkey, ha] at hc
      cases hc
      exact ⟨b, hb, hab⟩
    · exact ⟨c, hc', hR c⟩
  backward k c hc := by
    rcases get?_insert_eq_some.1 hc with ⟨rfl, rfl⟩ | ⟨-, hc⟩
    · exact .inl ⟨a, by rw [hkey, ha], hab⟩
    · exact .inl ⟨c, hc, hR c⟩

end Rewrites

/-! ### Several rows at once -/

def insertAll (t : Table key) (rows : List α) : Table key := rows.foldl insert t

theorem get?_insertAll_of_not_mem (h : ∀ a ∈ rows, key a ≠ k) :
    (t.insertAll rows).get? k = t.get? k := by
  induction rows generalizing t with
  | nil => rfl
  | cons a rows ih =>
    obtain ⟨ha, hrows⟩ := forall_mem_cons.1 h
    rw [insertAll, foldl_cons, ← insertAll, ih hrows, get?_insert, if_neg (Ne.symm ha)]

theorem get?_insertAll_of_mem (hinj : ∀ a ∈ rows, ∀ b ∈ rows, key a = key b → a = b)
    (h : a ∈ rows) : (t.insertAll rows).get? (key a) = some a := by
  induction rows generalizing t with
  | nil => cases h
  | cons b rows ih =>
    rw [insertAll, foldl_cons, ← insertAll]
    by_cases hmem : a ∈ rows
    · exact ih (fun a ha b hb => hinj a (mem_cons_of_mem _ ha) b (mem_cons_of_mem _ hb))
        hmem
    · obtain rfl : a = b := (mem_cons.1 h).resolve_right hmem
      have hne : ∀ c ∈ rows, key c ≠ key a := fun c hc heq =>
        hmem (hinj c (mem_cons_of_mem _ hc) a mem_cons_self heq ▸ hc)
      rw [get?_insertAll_of_not_mem hne, get?_insert, if_pos rfl]

theorem get?_insertAll_eq_some (hinj : ∀ a ∈ rows, ∀ b ∈ rows, key a = key b → a = b) :
    (t.insertAll rows).get? k = some b ↔
      (b ∈ rows ∧ key b = k) ∨ ((∀ a ∈ rows, key a ≠ k) ∧ t.get? k = some b) := by
  by_cases hmem : ∃ a ∈ rows, key a = k
  · obtain ⟨a, ha, rfl⟩ := hmem
    rw [get?_insertAll_of_mem hinj ha]
    constructor
    · rintro ⟨⟩
      exact .inl ⟨ha, rfl⟩
    · rintro (⟨hb, hkey⟩ | ⟨hnone, -⟩)
      · rw [hinj b hb a ha hkey]
      · exact absurd rfl (hnone a ha)
  · have hnone : ∀ a ∈ rows, key a ≠ k := fun a ha hkey => hmem ⟨a, ha, hkey⟩
    rw [get?_insertAll_of_not_mem hnone]
    exact ⟨fun h => .inr ⟨hnone, h⟩,
      fun h => h.elim (fun ⟨hb, hkey⟩ => absurd hkey (hnone b hb)) And.right⟩

theorem mem_insertAll (h : a ∈ (t.insertAll rows).rows) : a ∈ rows ∨ a ∈ t.rows := by
  induction rows generalizing t with
  | nil => exact .inr h
  | cons b rows ih =>
    rcases ih h with hrows | ht
    · exact .inl (mem_cons_of_mem _ hrows)
    · rcases mem_insert.1 ht with rfl | ⟨ht, -⟩
      · exact .inl mem_cons_self
      · exact .inr ht

/-- Rows that are stored take no key away. -/
theorem isSome_insertAll (h : k ∈ rows.map key ∨ (t.get? k).isSome) :
    ((t.insertAll rows).get? k).isSome := by
  induction rows generalizing t with
  | nil => simpa [insertAll] using h
  | cons a rows ih =>
    refine ih ?_
    by_cases hk : k = key a
    · exact .inr (by rw [get?_insert, if_pos hk]; rfl)
    · rw [get?_insert, if_neg hk]
      simpa [hk] using h

/-- Changes the rows under several keys, one after the other. -/
def modifyAll (t : Table key) (keys : List κ) (f : α → α) (hf : ∀ a, key (f a) = key a) :
    Table key :=
  keys.foldl (fun t k => t.modify k f hf) t

/-- A change that may be repeated is made at exactly the given keys. -/
theorem get?_modifyAll {keys : List κ} {hf : ∀ a, key (f a) = key a} (hidem : ∀ a, f (f a) = f a)
    (k : κ) : (t.modifyAll keys f hf).get? k = if k ∈ keys then (t.get? k).map f else t.get? k := by
  induction keys generalizing t with
  | nil => simp [modifyAll]
  | cons k' keys ih =>
    rw [modifyAll, foldl_cons, ← modifyAll, ih, get?_modify]
    by_cases hk : k = k'
    · subst hk
      by_cases hmem : k ∈ keys
      · simp only [hmem, if_true, mem_cons, true_or, Option.map_map]
        congr 1
        funext a
        exact hidem a
      · simp [hmem]
    · by_cases hmem : k ∈ keys <;> simp [hk, hmem]

/-! ### Rows that are dropped -/

theorem get?_filter (t : Table key) (p : α → Bool) (k : κ) :
    (t.filter p).get? k = (t.get? k).filter p := by
  cases h : t.get? k with
  | none =>
    rw [get?_eq_none_iff] at h
    rw [Option.filter_none, get?_eq_none_iff]
    exact fun a ha => h a (mem_filter.1 ha).1
  | some a =>
    obtain ⟨ha, hk⟩ := get?_eq_some_iff.1 h
    by_cases hp : p a = true
    · rw [Option.filter_some_pos hp, get?_eq_some_iff]
      exact ⟨mem_filter.2 ⟨ha, hp⟩, hk⟩
    · rw [Option.filter_some_neg (by simpa using hp), get?_eq_none_iff]
      intro b hb hkb
      obtain ⟨hb, hpb⟩ := mem_filter.1 hb
      exact hp (t.eq_of_key_eq hb ha (hkb.trans hk.symm) ▸ hpb)

/-- The first rows in some order among those that satisfy `p`. -/
def firstRows (t : Table key) (p : α → Bool) (le : α → α → Prop) [DecidableRel le] (limit : ℕ) :
    List α := ((t.rows.filter p).insertionSort le).take limit

/-- Drops the first rows in some order among those that satisfy `p`. -/
def dropFirst (t : Table key) (p : α → Bool) (le : α → α → Prop) [DecidableRel le] (limit : ℕ) :
    Table key := t.filter (fun a => key a ∉ (t.firstRows p le limit).map key)

section dropFirst

variable {t : Table key} {p : α → Bool} {le : α → α → Prop} [DecidableRel le] {limit : ℕ} {a : α}

omit [DecidableEq κ] in
theorem mem_of_mem_firstRows (h : a ∈ t.firstRows p le limit) : a ∈ t.rows ∧ p a = true := by
  have hsorted := mem_of_mem_take h
  rw [mem_insertionSort] at hsorted
  exact mem_filter.1 hsorted

omit [DecidableEq κ] in
/-- The first row in a linear order, if there is any. -/
theorem firstRows_one [Std.Total le] [IsTrans α le] (t : Table key) (p : α → Bool) :
    (t.firstRows p le 1 = [] ∧ ∀ a ∈ t.rows, p a = false) ∨
      ∃ a ∈ t.rows, t.firstRows p le 1 = [a] ∧ p a = true ∧
        ∀ b ∈ t.rows, p b = true → le a b := by
  have hmem : ∀ b, b ∈ (t.rows.filter p).insertionSort le ↔ b ∈ t.rows ∧ p b = true :=
    fun b => by rw [mem_insertionSort, mem_filter]
  have hsorted := pairwise_insertionSort le (t.rows.filter p)
  cases hlist : (t.rows.filter p).insertionSort le with
  | nil =>
    refine .inl ⟨by rw [firstRows, hlist, take_nil], fun a ha => ?_⟩
    by_contra hp
    have := (hmem a).2 ⟨ha, by simpa using hp⟩
    rw [hlist] at this
    cases this
  | cons a =>
    rw [hlist] at hmem hsorted
    obtain ⟨ha, hp⟩ := (hmem a).1 mem_cons_self
    refine .inr ⟨a, ha, by rw [firstRows, hlist]; rfl, hp, fun b hb hpb => ?_⟩
    rcases mem_cons.1 ((hmem b).2 ⟨hb, hpb⟩) with rfl | hl
    · exact (Std.Total.total b b).elim id id
    · exact (pairwise_cons.1 hsorted).1 b hl

theorem mem_of_mem_dropFirst (h : a ∈ (t.dropFirst p le limit).rows) : a ∈ t.rows :=
  (mem_filter.1 h).1

theorem mem_dropFirst_of_not (ha : a ∈ t.rows) (hp : p a = false) :
    a ∈ (t.dropFirst p le limit).rows := by
  refine mem_filter.2 ⟨ha, decide_eq_true ?_⟩
  rw [mem_map]
  rintro ⟨b, hb, hkey⟩
  obtain ⟨hb, hpb⟩ := mem_of_mem_firstRows hb
  rw [t.eq_of_key_eq hb ha hkey, hp] at hpb
  cases hpb

/-- When fewer rows were dropped than might have been, all of them were. -/
theorem not_of_mem_dropFirst (hlt : (t.firstRows p le limit).length < limit)
    (h : a ∈ (t.dropFirst p le limit).rows) : p a = false := by
  obtain ⟨ha, hkey⟩ := mem_filter.1 h
  by_contra hp
  have hall : t.firstRows p le limit = (t.rows.filter p).insertionSort le := by
    rw [firstRows, length_take] at hlt
    rw [firstRows, take_of_length_le (by omega)]
  refine of_decide_eq_true hkey (mem_map.2 ⟨a, ?_, rfl⟩)
  rw [hall, mem_insertionSort]
  exact mem_filter.2 ⟨ha, by simpa using hp⟩

end dropFirst

/-! ### Totals -/

def sumBy (t : Table key) (g : α → ℕ) : ℕ := (t.rows.map g).sum

/-- A row that is stored adds its measure in place of that of the row it replaces. -/
theorem sumBy_insert (t : Table key) (a : α) (g : α → ℕ) :
    (t.insert a).sumBy g + ((t.get? (key a)).map g).getD 0 = t.sumBy g + g a := by
  cases h : t.get? (key a) with
  | none => simp [sumBy, rows_insert_of_none h]
  | some b =>
    -- Exactly one row of the list is replaced, since the keys are different.
    have hlist : ∀ rows : List α, (rows.map key).Nodup → b ∈ rows → key b = key a →
        (rows.map (g ∘ fun c => if key c = key a then a else c)).sum + g b =
          (rows.map g).sum + g a := by
      intro rows
      induction rows with
      | nil => intro _ hb; cases hb
      | cons c rows ih =>
        intro hnodup hb hkb
        obtain ⟨hc, hnodup⟩ := nodup_cons.1 hnodup
        rcases mem_cons.1 hb with rfl | hb
        · have hsame : rows.map (g ∘ fun c => if key c = key a then a else c) = rows.map g := by
            refine map_congr_left fun d hd => ?_
            have hne : key d ≠ key a := fun hd' =>
              hc (mem_map.2 ⟨d, hd, hd'.trans hkb.symm⟩)
            simp [hne]
          simp only [map_cons, sum_cons, hsame, Function.comp_apply, hkb, if_true]
          omega
        · have hne : key c ≠ key a := fun hc' =>
            hc (mem_map.2 ⟨b, hb, hkb.trans hc'.symm⟩)
          have hrest := ih hnodup hb hkb
          simp only [map_cons, sum_cons, Function.comp_apply, hne, if_false]
          omega
    obtain ⟨hb, hkb⟩ := get?_eq_some_iff.1 h
    have hrows : (t.insert a).rows = t.rows.map (fun c => if key c = key a then a else c) := by
      unfold insert
      split
      · rfl
      · rename_i hn
        rw [h] at hn
        cases hn
    simp only [sumBy, hrows, map_map, Option.map_some, Option.getD_some]
    exact hlist t.rows t.nodup hb hkb

omit [DecidableEq κ] in
/-- Rows without a measure may be dropped. -/
theorem sumBy_filter {p : α → Bool} {g : α → ℕ} (h : ∀ a ∈ t.rows, p a = false → g a = 0) :
    (t.filter p).sumBy g = t.sumBy g := by
  have hlist : ∀ rows : List α, (∀ a ∈ rows, p a = false → g a = 0) →
      ((rows.filter p).map g).sum = (rows.map g).sum := by
    intro rows
    induction rows with
    | nil => intro _; rfl
    | cons a rows ih =>
      intro hrows
      obtain ⟨ha, hrows⟩ := forall_mem_cons.1 hrows
      cases hp : p a with
      | true => simp [hp, ih hrows]
      | false => simp [hp, ih hrows, ha hp]
  exact hlist t.rows h

end Table
