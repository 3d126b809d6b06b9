import Mathlib.Algebra.Order.Floor.Div
import Mathlib.Data.Finset.Card
import Mathlib.Data.Finset.Max
import Mathlib.Data.List.Sort
import Mathlib.Data.List.TakeWhile
import Mathlib.Data.Nat.ModEq
import Mathlib.Data.Prod.Lex
import Mathlib.Tactic.Common

/-!
# Keyset pages and retried batches

Two ways to work through a list in bounded batches, over arbitrary items with a key in a linear
order.

* `Keyset.next` reads the page of items behind a cursor, wraps around at the end and keeps the key of
  the last item as the next cursor. `Keyset.next_progress` is its rank: every call either returns a
  given item or decreases `Keyset.remaining`, whatever other items come and go in between.
* `Keyset.retry` takes the front of a queue and puts the items that failed back in their places.
  `Keyset.mem_retry_iterate_of_blocked` and `Keyset.notMem_retry_iterate` say when an item gets its
  turn: exactly if fewer failing items than the batch holds are queued before it.
-/

namespace Keyset

open List

section Pages

variable {α κ : Type*} [LinearOrder κ] (key : α → κ)

/-- The items in ascending order of their keys. -/
def sortByKey (items : List α) : List α := items.insertionSort (fun a b => key a ≤ key b)

instance total_key : Std.Total (fun a b => key a ≤ key b) := ⟨fun a b => le_total (key a) (key b)⟩

instance trans_key : IsTrans α (fun a b => key a ≤ key b) := ⟨fun _ _ _ => le_trans⟩

variable {items : List α} {a : α} {after : Option κ} {keys : Finset κ} {b : ℕ}

@[simp] theorem mem_sortByKey : a ∈ sortByKey key items ↔ a ∈ items :=
  mem_insertionSort _

theorem pairwise_sortByKey (items : List α) :
    (sortByKey key items).Pairwise (fun a b => key a ≤ key b) :=
  pairwise_insertionSort _ items

theorem perm_sortByKey (items : List α) : (sortByKey key items).Perm items :=
  perm_insertionSort _ items

/-- With different keys the order is strict. -/
theorem pairwise_lt_sortByKey (hnodup : (items.map key).Nodup) :
    (sortByKey key items).Pairwise (fun a b => key a < key b) := by
  have hne : (sortByKey key items).Pairwise (fun a b => key a ≠ key b) :=
    pairwise_map.1 (((perm_sortByKey key items).map key).nodup_iff.2 hnodup)
  exact ((pairwise_sortByKey key items).and hne).imp fun h => lt_of_le_of_ne h.1 h.2

/-- Items kept by a condition are in the same order. -/
theorem sortByKey_filter (hnodup : (items.map key).Nodup) (p : α → Bool) :
    sortByKey key (items.filter p) = (sortByKey key items).filter p := by
  have hsub : ((items.filter p).map key).Nodup := hnodup.sublist (filter_sublist.map key)
  refine Perm.eq_of_pairwise (fun a b _ _ h h' => absurd h (lt_asymm h'))
    (pairwise_lt_sortByKey key hsub)
    ((pairwise_lt_sortByKey key hnodup).sublist filter_sublist) ?_
  exact (perm_sortByKey key _).trans ((perm_sortByKey key items).symm.filter p)

def page (limit : ℕ) (after : Option κ) (items : List α) : List α :=
  (sortByKey key (items.filter fun a => after.all (· < key a))).take limit

/-- The page behind the cursor, or the first page if there is none, and the next cursor. -/
def next (limit : ℕ) (cursor : Option κ) (items : List α) : List α × Option κ :=
  let found := page key limit cursor items
  let found := if found = [] ∧ cursor.isSome then page key limit none items else found
  (found, if found.length = limit then found.getLast?.map key else none)

variable {key}

variable {limit : ℕ}

theorem mem_of_mem_page (h : a ∈ page key limit after items) :
    a ∈ items ∧ after.all (· < key a) = true := by
  have hmem := (mem_sortByKey key).1 (mem_of_mem_take h)
  exact mem_filter.1 hmem

theorem pairwise_page (hnodup : (items.map key).Nodup) :
    (page key limit after items).Pairwise (fun a b => key a < key b) :=
  (pairwise_lt_sortByKey key (hnodup.sublist (filter_sublist.map key))).sublist
    (take_sublist _ _)

/-- An item behind the cursor that is not on the page stands behind a full page. -/
theorem page_full (hnodup : (items.map key).Nodup) (ha : a ∈ items)
    (hafter : after.all (· < key a) = true) (hpage : a ∉ page key limit after items) :
    (page key limit after items).length = limit ∧
      ∀ b ∈ page key limit after items, key b < key a := by
  have hsorted := pairwise_lt_sortByKey key
    (hnodup.sublist ((filter_sublist (p := fun a => after.all (· < key a))).map key))
  have hmem : a ∈ sortByKey key (items.filter fun a => after.all (· < key a)) :=
    (mem_sortByKey key).2 (mem_filter.2 ⟨ha, hafter⟩)
  unfold page at hpage ⊢
  generalize sortByKey key (items.filter fun a => after.all (· < key a)) = sorted at *
  have hdrop : a ∈ sorted.drop limit := by
    rw [← take_append_drop limit sorted, mem_append] at hmem
    exact hmem.resolve_left hpage
  constructor
  · have hlength := length_pos_of_mem hdrop
    rw [length_drop] at hlength
    rw [length_take]
    omega
  · intro b hb
    rw [← take_append_drop limit sorted, pairwise_append] at hsorted
    exact hsorted.2.2 b hb a hdrop

/-- A page with `limit` items ends with an item, and so many keys lie behind the cursor up to it. -/
theorem page_last (hlimit : 0 < limit) (hnodup : (items.map key).Nodup)
    (hkeys : ∀ a ∈ items, key a ∈ keys) (hfull : (page key limit after items).length = limit) :
    ∃ last ∈ page key limit after items, (page key limit after items).getLast? = some last ∧
      limit ≤ (keys.filter fun k => after.all (· < k) = true ∧ k ≤ key last).card := by
  have hpairwise : (page key limit after items).Pairwise (fun a b => key a < key b) :=
    pairwise_page hnodup
  have hmem : ∀ a ∈ page key limit after items, key a ∈ keys ∧ after.all (· < key a) = true :=
    fun a ha => ⟨hkeys a (mem_of_mem_page ha).1, (mem_of_mem_page ha).2⟩
  generalize page key limit after items = found at *
  rcases eq_nil_or_concat found with rfl | ⟨front, last, rfl⟩
  · exact absurd hfull hlimit.ne
  rw [concat_eq_append] at *
  refine ⟨last, by simp, by simp, ?_⟩
  have hdistinct : ((front ++ [last]).map key).Nodup :=
    pairwise_map.2 (hpairwise.imp ne_of_lt)
  calc limit = ((front ++ [last]).map key).toFinset.card := by
        rw [toFinset_card_of_nodup hdistinct, length_map, hfull]
    _ ≤ _ := ?_
  apply Finset.card_le_card
  intro k hk
  obtain ⟨a, ha, rfl⟩ := mem_map.1 (mem_toFinset.1 hk)
  refine Finset.mem_filter.2 ⟨(hmem a ha).1, (hmem a ha).2, ?_⟩
  rcases mem_append.1 ha with hfront | hlast
  · exact ((pairwise_append.1 hpairwise).2.2 a hfront last (mem_singleton_self _)).le
  · rw [mem_singleton.1 hlast]

/-! ### The rank of an item -/

/-- The number of calls that may pass before the item under a key is returned, counted over a set
that holds all keys. -/
def remaining (keys : Finset κ) (limit : ℕ) (cursor : Option κ) (k : κ) : ℕ :=
  if cursor.all (· < k) then
    (keys.filter fun j => cursor.all (· < j) = true ∧ j ≤ k).card ⌈/⌉ limit
  else
    (keys.filter fun j => cursor.all (· < j) = true).card ⌈/⌉ limit +
      (keys.filter fun j => j ≤ k).card ⌈/⌉ limit

theorem ceilDiv_add_one_le {a : ℕ} (hlimit : 0 < limit) (h : a + limit ≤ b) :
    a ⌈/⌉ limit + 1 ≤ b ⌈/⌉ limit := by
  have hb : b ≤ limit • (b ⌈/⌉ limit) := (ceilDiv_le_iff_le_smul hlimit).1 le_rfl
  have hpos : 0 < b ⌈/⌉ limit := by
    rcases Nat.eq_zero_or_pos (b ⌈/⌉ limit) with hzero | hpos
    · rw [hzero, smul_zero] at hb
      omega
    · exact hpos
  have ha : a ⌈/⌉ limit ≤ b ⌈/⌉ limit - 1 := by
    rw [ceilDiv_le_iff_le_smul hlimit]
    rw [smul_eq_mul] at hb ⊢
    rw [Nat.mul_sub, Nat.mul_one]
    omega
  omega

theorem ceilDiv_pos {a : ℕ} (hlimit : 0 < limit) (h : 0 < a) : 0 < a ⌈/⌉ limit := by
  by_contra hzero
  have ha : a ≤ limit • 0 := (ceilDiv_le_iff_le_smul hlimit).1 (Nat.le_of_not_lt hzero)
  rw [smul_zero] at ha
  omega

theorem ceilDiv_add_ceilDiv_le {a n : ℕ} (hlimit : 0 < limit) (h : a + b ≤ n) :
    a ⌈/⌉ limit + b ⌈/⌉ limit ≤ n ⌈/⌉ limit + 1 := by
  rw [Nat.ceilDiv_eq_add_pred_div, Nat.ceilDiv_eq_add_pred_div, Nat.ceilDiv_eq_add_pred_div]
  have hsum : a + limit - 1 + (b + limit - 1) ≤ n + limit - 1 + limit - 1 := by omega
  calc (a + limit - 1) / limit + (b + limit - 1) / limit
      ≤ (a + limit - 1 + (b + limit - 1)) / limit := Nat.div_add_div_le_add_div
    _ ≤ (n + limit - 1 + limit) / limit := Nat.div_le_div_right (by omega)
    _ = (n + limit - 1) / limit + 1 := Nat.add_div_right _ hlimit

theorem remaining_pos (hlimit : 0 < limit) (cursor : Option κ) {k : κ} (hk : k ∈ keys) :
    0 < remaining keys limit cursor k := by
  unfold remaining
  split_ifs with hbehind
  · apply ceilDiv_pos hlimit
    exact Finset.card_pos.2 ⟨k, Finset.mem_filter.2 ⟨hk, hbehind, le_rfl⟩⟩
  · have hpos : 0 < (keys.filter fun j => j ≤ k).card ⌈/⌉ limit := by
      apply ceilDiv_pos hlimit
      exact Finset.card_pos.2 ⟨k, Finset.mem_filter.2 ⟨hk, le_rfl⟩⟩
    exact Nat.add_pos_right _ hpos

/-- One walk to the end and one from the start. -/
theorem remaining_le (hlimit : 0 < limit) (cursor : Option κ) (k : κ) :
    remaining keys limit cursor k ≤ keys.card ⌈/⌉ limit + 1 := by
  have hmono : ∀ p : κ → Prop, ∀ _ : DecidablePred p,
      (keys.filter p).card ⌈/⌉ limit ≤ keys.card ⌈/⌉ limit := by
    intro p _
    rw [ceilDiv_le_iff_le_smul hlimit]
    exact (Finset.card_filter_le _ _).trans ((ceilDiv_le_iff_le_smul hlimit).1 le_rfl)
  unfold remaining
  split_ifs with hk
  · exact (hmono _ _).trans (Nat.le_succ _)
  · apply ceilDiv_add_ceilDiv_le hlimit
    rw [← Finset.card_union_of_disjoint]
    · exact Finset.card_le_card (Finset.union_subset (Finset.filter_subset _ _)
        (Finset.filter_subset _ _))
    · rw [Finset.disjoint_filter]
      intro j _ hj hjk
      cases cursor with
      | none => exact hk rfl
      | some =>
        simp only [Option.all_some, decide_eq_true_eq, not_lt] at hk hj
        exact absurd (hj.trans_le hjk) (not_lt.2 hk)

theorem card_behind_split (keys : Finset κ) {last : κ} (hlast : after.all (· < last) = true)
    (p : κ → Prop) [DecidablePred p] (hp : ∀ j, j ≤ last → p j) :
    (keys.filter fun j => last < j ∧ p j).card +
        (keys.filter fun j => after.all (· < j) = true ∧ j ≤ last).card ≤
      (keys.filter fun j => after.all (· < j) = true ∧ p j).card := by
  rw [← Finset.card_union_of_disjoint]
  · apply Finset.card_le_card
    intro j hj
    simp only [Finset.mem_union, Finset.mem_filter] at hj ⊢
    rcases hj with ⟨hmem, hlt, hpj⟩ | ⟨hmem, hafter, hle⟩
    · refine ⟨hmem, ?_, hpj⟩
      cases after with
      | none => rfl
      | some =>
        simp only [Option.all_some, decide_eq_true_eq] at hlast ⊢
        exact hlast.trans hlt
    · exact ⟨hmem, hafter, hp j hle⟩
  · rw [Finset.disjoint_filter]
    rintro j - ⟨hlt, -⟩ ⟨-, hle⟩
    exact absurd hle (not_le.2 hlt)

/-- A page behind which an item stands brings the cursor nearer to it. -/
theorem page_progress (hlimit : 0 < limit) (hnodup : (items.map key).Nodup)
    (hkeys : ∀ a ∈ items, key a ∈ keys) (ha : a ∈ items) (hafter : after.all (· < key a) = true)
    (hpage : a ∉ page key limit after items) :
    (page key limit after items).length = limit ∧
      remaining keys limit ((page key limit after items).getLast?.map key) (key a) + 1 ≤
        (keys.filter fun j => after.all (· < j) = true ∧ j ≤ key a).card ⌈/⌉ limit := by
  obtain ⟨hfull, hbefore⟩ := page_full hnodup ha hafter hpage
  obtain ⟨last, hlast, hget, hcount⟩ := page_last hlimit hnodup hkeys hfull
  have hlt := hbefore last hlast
  refine ⟨hfull, ?_⟩
  have hsplit := card_behind_split keys (mem_of_mem_page hlast).2 (· ≤ key a)
    fun j hj => hj.trans hlt.le
  rw [hget, Option.map_some, remaining, if_pos (by simpa using hlt)]
  apply ceilDiv_add_one_le hlimit
  simp only [Option.all_some, decide_eq_true_eq]
  omega

/-- Every call returns the item or brings it nearer. -/
theorem next_progress (hlimit : 0 < limit) (cursor : Option κ) (hnodup : (items.map key).Nodup)
    (hkeys : ∀ a ∈ items, key a ∈ keys) (ha : a ∈ items) :
    a ∈ (next key limit cursor items).1 ∨
      remaining keys limit (next key limit cursor items).2 (key a) + 1 ≤
        remaining keys limit cursor (key a) := by
  by_cases hbehind : cursor.all (· < key a) = true
  · -- the item stands behind the cursor, so the page is not empty
    have hfound : ¬ (page key limit cursor items = [] ∧ cursor.isSome = true) := by
      rintro ⟨hnil, -⟩
      have hpage : a ∉ page key limit cursor items := by simp [hnil]
      have hfull := (page_full hnodup ha hbehind hpage).1
      rw [hnil] at hfull
      exact hlimit.ne hfull
    simp only [next, if_neg hfound]
    by_cases hpage : a ∈ page key limit cursor items
    · exact .inl hpage
    · right
      obtain ⟨hfull, hle⟩ := page_progress hlimit hnodup hkeys ha hbehind hpage
      rw [if_pos hfull]
      refine hle.trans (le_of_eq ?_)
      rw [remaining, if_pos hbehind]
  · have hsome : cursor.isSome = true := by
      cases cursor with
      | none => exact absurd rfl hbehind
      | some => rfl
    have hremaining : remaining keys limit cursor (key a) =
        (keys.filter fun j => cursor.all (· < j) = true).card ⌈/⌉ limit +
          (keys.filter fun j => j ≤ key a).card ⌈/⌉ limit := by
      rw [remaining, if_neg hbehind]
    have hstart : remaining keys limit none (key a) =
        (keys.filter fun j => j ≤ key a).card ⌈/⌉ limit := by
      simp [remaining]
    by_cases hnil : page key limit cursor items = []
    · -- the walk is over and starts again
      simp only [next, if_pos (And.intro hnil hsome)]
      by_cases hpage : a ∈ page key limit none items
      · exact .inl hpage
      · right
        obtain ⟨hfull, hle⟩ := page_progress hlimit hnodup hkeys ha rfl hpage
        simp only [Option.all_none, true_and] at hle
        rw [if_pos hfull, hremaining]
        omega
    · right
      simp only [next, if_neg fun h : _ ∧ _ => hnil h.1]
      split_ifs with hfull
      · -- a full page on the way to the end
        obtain ⟨last, hlast, hget, hcount⟩ := page_last hlimit hnodup hkeys hfull
        have hbound : ¬ (some (key last)).all (· < key a) = true := by
          cases cursor with
          | none => exact absurd rfl hbehind
          | some =>
            have hc := (mem_of_mem_page hlast).2
            simp only [Option.all_some, decide_eq_true_eq, not_lt] at hbehind hc ⊢
            exact hbehind.trans hc.le
        have hsplit := card_behind_split keys (mem_of_mem_page hlast).2 (fun _ => True)
          fun _ _ => trivial
        rw [hget, Option.map_some, hremaining, remaining, if_neg hbound]
        have hdecrease := ceilDiv_add_one_le hlimit
          ((Nat.add_le_add_left hcount _).trans hsplit)
        simp only [and_true] at hdecrease
        simp only [Option.all_some, decide_eq_true_eq]
        omega
      · -- a short page ends the walk
        obtain ⟨b, hb⟩ := exists_mem_of_ne_nil _ hnil
        obtain ⟨hitem, hafter⟩ := mem_of_mem_page hb
        have hpos : 0 < (keys.filter fun j => cursor.all (· < j) = true).card ⌈/⌉ limit :=
          ceilDiv_pos hlimit (Finset.card_pos.2
            ⟨key b, Finset.mem_filter.2 ⟨hkeys b hitem, hafter⟩⟩)
        rw [hstart, hremaining]
        omega

end Pages

/-! ### Batches that are retried -/

section Batches

variable {α : Type*} (limit : ℕ) (failing : α → Bool)

/-- The queue after a batch: the items at its front leave it unless they fail. -/
def retry (queue : List α) : List α :=
  (queue.take limit).filter failing ++ queue.drop limit

variable {limit failing}

variable {queue : List α} {a : α} {n : ℕ}

theorem mem_retry (h : a ∈ retry limit failing queue) : a ∈ queue := by
  rcases mem_append.1 h with hfront | hback
  · exact mem_of_mem_take (mem_filter.1 hfront).1
  · exact mem_of_mem_drop hback

theorem mem_of_mem_iterate (h : a ∈ (retry limit failing)^[n] queue) : a ∈ queue := by
  induction n generalizing queue with
  | zero => exact h
  | succ n ih => exact mem_retry (ih h)

/-- In a queue without repetitions an item stays unless it is served. -/
theorem mem_retry_iff (hnodup : queue.Nodup) (hmem : a ∈ queue) (ha : failing a = false) :
    a ∈ retry limit failing queue ↔ a ∉ queue.take limit := by
  have hsplit := hmem
  rw [← take_append_drop limit queue] at hnodup hsplit
  rw [retry, mem_append, mem_filter, ha]
  constructor
  · rintro (⟨-, h⟩ | hdrop) htake
    · cases h
    · exact (nodup_append.1 hnodup).2.2 a htake a hdrop rfl
  · exact fun htake => .inr ((mem_append.1 hsplit).resolve_left htake)

/-- The batch as a condition on the items. -/
theorem retry_eq_filter [DecidableEq α] (hnodup : queue.Nodup) :
    retry limit failing queue =
      queue.filter fun a => failing a || decide (a ∉ queue.take limit) := by
  have hdisjoint := hnodup
  rw [← take_append_drop limit queue] at hdisjoint
  conv_rhs =>
    arg 2
    rw [← take_append_drop limit queue]
  rw [filter_append, retry]
  congr 1
  · apply filter_congr
    intro a ha
    simp [ha]
  · symm
    rw [filter_eq_self]
    intro a ha
    have htake : a ∉ queue.take limit :=
      fun h => (nodup_append.1 hdisjoint).2.2 a h a ha rfl
    simp [htake]

theorem nodup_retry (hnodup : queue.Nodup) : (retry limit failing queue).Nodup := by
  have hsub : (retry limit failing queue).Sublist queue := by
    conv_rhs => rw [← take_append_drop limit queue]
    exact filter_sublist.append (Sublist.refl _)
  exact hnodup.sublist hsub

theorem countP_retry : (retry limit failing queue).countP failing = queue.countP failing := by
  conv_rhs => rw [← take_append_drop limit queue]
  rw [retry, countP_append, countP_append, countP_filter]
  simp

/-- A round serves as many items as the failing ones leave room for. -/
theorem length_retry_le : (retry limit failing queue).length ≤ queue.countP failing +
    (queue.length - queue.countP failing - (limit - queue.countP failing)) := by
  have hsplit : (queue.take limit).countP failing + (queue.drop limit).countP failing =
      queue.countP failing := by
    rw [← countP_append, take_append_drop]
  have htaken := countP_le_length (p := failing) (l := queue.take limit)
  rw [length_take] at htaken
  rw [retry, length_append, ← countP_eq_length_filter, length_drop]
  omega

/-- Only failing items are left after rounds with room for all others. -/
theorem failing_of_mem_iterate
    (hroom : queue.length ≤ queue.countP failing + n * (limit - queue.countP failing))
    (ha : a ∈ (retry limit failing)^[n] queue) : failing a = true := by
  induction n generalizing queue with
  | zero =>
    rw [Nat.zero_mul, Nat.add_zero] at hroom
    exact countP_eq_length.1 (countP_le_length.antisymm hroom) a ha
  | succ n ih =>
    have hlength := @length_retry_le _ limit failing queue
    rw [Nat.succ_mul] at hroom
    refine ih ?_ ha
    rw [countP_retry]
    omega

variable [DecidableEq α]

def blockers (failing : α → Bool) (queue : List α) (a : α) : ℕ :=
  (queue.takeWhile (· ≠ a)).countP failing

/-- What is queued before an item that is not served: the front without what has left it, and what
follows. -/
theorem takeWhile_retry (htake : a ∉ queue.take limit) (hmem : a ∈ queue) :
    (queue.takeWhile (· ≠ a)).take limit = queue.take limit ∧
      (retry limit failing queue).takeWhile (· ≠ a) =
        retry limit failing (queue.takeWhile (· ≠ a)) := by
  have hfront : ∀ b ∈ queue.take limit, decide (b ≠ a) = true := by
    intro b hb
    exact decide_eq_true fun h => htake (h ▸ hb)
  have hsplit : queue.takeWhile (· ≠ a) =
      queue.take limit ++ (queue.drop limit).takeWhile (· ≠ a) := by
    conv_lhs => rw [← take_append_drop limit queue]
    exact takeWhile_append_of_pos hfront
  have hlength : (queue.take limit).length = limit := by
    have hdrop : a ∈ queue.drop limit := by
      rw [← take_append_drop limit queue, mem_append] at hmem
      exact hmem.resolve_left htake
    have hpos := length_pos_of_mem hdrop
    rw [length_drop] at hpos
    rw [length_take]
    omega
  have htaken : (queue.takeWhile (· ≠ a)).take limit = queue.take limit := by
    rw [hsplit, take_append_of_le_length hlength.ge, take_take, min_self]
  refine ⟨htaken, ?_⟩
  have hdropped : (queue.takeWhile (· ≠ a)).drop limit = (queue.drop limit).takeWhile (· ≠ a) := by
    rw [hsplit, drop_append_of_le_length hlength.ge, drop_take, Nat.sub_self,
      take_zero, nil_append]
  rw [retry, retry, htaken, hdropped]
  apply takeWhile_append_of_pos
  intro b hb
  exact hfront b (mem_filter.1 hb).1

/-- An item that is not served keeps the failing items before it. -/
theorem blockers_retry (htake : a ∉ queue.take limit) (hmem : a ∈ queue) :
    blockers failing (retry limit failing queue) a = blockers failing queue a := by
  rw [blockers, blockers, (takeWhile_retry htake hmem).2, retry, countP_append,
    countP_filter]
  simp only [Bool.and_self]
  rw [← countP_append, take_append_drop]

/-- The items before one in the batch do not fill it. -/
theorem length_takeWhile_lt (htake : a ∈ queue.take limit) :
    (queue.takeWhile (· ≠ a)).length < limit := by
  by_contra hle
  have hsub : (queue.takeWhile (· ≠ a)).take limit = queue.take limit := by
    obtain ⟨rest, hrest⟩ := takeWhile_prefix (fun b => decide (b ≠ a)) (l := queue)
    conv_rhs => rw [← hrest]
    rw [take_append_of_le_length (by omega)]
  rw [← hsub] at htake
  have hne := mem_takeWhile_imp (mem_of_mem_take htake)
  simp at hne

/-- A batch that does not serve an item, with too few failing items before it, brings it forward. -/
theorem length_takeWhile_retry_lt (htake : a ∉ queue.take limit) (hmem : a ∈ queue)
    (hfew : blockers failing queue a < limit) :
    ((retry limit failing queue).takeWhile (· ≠ a)).length <
      (queue.takeWhile (· ≠ a)).length := by
  obtain ⟨htaken, hretry⟩ : _ ∧ (retry limit failing queue).takeWhile (· ≠ a) = _ :=
    takeWhile_retry htake hmem
  rw [hretry, retry]
  have hlength : limit ≤ (queue.takeWhile (· ≠ a)).length := by
    by_contra hlt
    have hall : (queue.takeWhile (· ≠ a)).take limit = queue.takeWhile (· ≠ a) :=
      take_of_length_le (by omega)
    have hqueue : queue.take limit = queue := by
      apply take_of_length_le
      have heq := congrArg length (htaken.symm.trans hall)
      rw [length_take] at heq
      omega
    rw [hqueue] at htake
    exact htake hmem
  have hcount : ((queue.takeWhile (· ≠ a)).take limit).countP failing ≤ blockers failing queue a :=
    (take_sublist _ _).countP_le
  rw [length_append, ← countP_eq_length_filter, length_drop]
  omega

/-- An item is never served if the failing items before it fill a batch. -/
theorem mem_retry_iterate_of_blocked (n : ℕ) (hnodup : queue.Nodup) (hmem : a ∈ queue)
    (ha : failing a = false) (hblocked : limit ≤ blockers failing queue a) :
    a ∈ (retry limit failing)^[n] queue := by
  induction n generalizing queue with
  | zero => exact hmem
  | succ n ih =>
    have htake : a ∉ queue.take limit := by
      intro htake
      have hlt := length_takeWhile_lt htake
      have hle : blockers failing queue a ≤ (queue.takeWhile (· ≠ a)).length :=
        countP_le_length
      omega
    rw [Function.iterate_succ_apply]
    exact ih (nodup_retry hnodup) ((mem_retry_iff hnodup hmem ha).2 htake)
      ((blockers_retry htake hmem).symm ▸ hblocked)

/-- Otherwise it is served when as many batches have been taken as items were before it, and one
more. -/
theorem notMem_retry_iterate (hnodup : queue.Nodup) (hmem : a ∈ queue) (ha : failing a = false)
    (hfew : blockers failing queue a < limit) (hn : (queue.takeWhile (· ≠ a)).length < n) :
    a ∉ (retry limit failing)^[n] queue := by
  induction n generalizing queue with
  | zero => exact absurd hn (Nat.not_lt_zero _)
  | succ n ih =>
    rw [Function.iterate_succ_apply]
    by_cases htake : a ∈ queue.take limit
    · intro hlater
      exact (mem_retry_iff hnodup hmem ha).1 (mem_of_mem_iterate hlater) htake
    · have hlt := length_takeWhile_retry_lt htake hmem hfew
      exact ih (nodup_retry hnodup) ((mem_retry_iff hnodup hmem ha).2 htake)
        ((blockers_retry htake hmem).symm ▸ hfew) (by omega)

end Batches

end Keyset
