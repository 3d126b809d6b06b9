import A3SCloud.Inference.Ledger
import A3SCloud.Inference.Sample

/-!
# Contiguous acknowledgement

The acknowledged records of a Gateway should run `1, 2, 3, …` in every boot epoch, and the watermark
should not come back to an epoch it has left. The check of a batch and the loop of the ledger see to
this within an epoch, but at a change of the epoch the loop takes the record as it is.

* `LedgerHistory` is a ledger with all the positions that its watermark went over, and `Orderly`
  says what is asked of them.
* `orderly_concat_iff` reduces order to one position more, and `orderly_iff` finds that a history is
  orderly exactly when every change of the epoch is to the first record of a new one.
* `acknowledged_contiguous_iff`: order is kept and every batch that would break it is held at the
  missing position, exactly when every accepted batch is `InStep` with the ledger before it.
-/

namespace A3SCloud

open Checks List Sample

/-! ### Histories -/

/-- The positions of a batch up to an acknowledged one. -/
def cursorsThrough (tip : Option InferenceUsageCursor) (cursors : List InferenceUsageCursor) :
    List InferenceUsageCursor :=
  match tip with
  | none => []
  | some cursor => cursors.take (cursors.idxOf cursor + 1)

/-- A ledger and the positions its watermark went over. -/
structure LedgerHistory where
  state : InferenceUsageLedgerState
  covered : List InferenceUsageCursor

namespace LedgerHistory

def initial : LedgerHistory := ⟨.initial, []⟩

/-- A batch is applied; one that is refused leaves the ledger as it is. When the watermark moves, it
goes over the records of the batch up to the one it moves to. -/
def apply (codec : UsageCodec) (history : LedgerHistory) (batch : InferenceUsageBatch) :
    LedgerHistory :=
  match applyInferenceUsageBatch codec history.state batch with
  | .ok applied =>
    { state := applied.next
      covered := history.covered ++
        if applied.next.watermark = history.state.watermark then []
        else cursorsThrough applied.next.watermark batch.cursors }
  | .error _ => history

/-- The history of the batches applied in turn to an empty ledger. -/
def after (codec : UsageCodec) (batches : List InferenceUsageBatch) : LedgerHistory :=
  Runs.run (apply codec) initial batches

end LedgerHistory

/-- The sequences of an epoch that occur among some positions. -/
def sequencesOf (epoch : Uuid) (cursors : List InferenceUsageCursor) : List ℕ :=
  (cursors.filter (·.bootEpoch = epoch)).map (·.sequence)

/-- In every epoch the sequences run `1, 2, …, n`, and once the positions have left an epoch they do
not come back to it. -/
structure Orderly (covered : List InferenceUsageCursor) : Prop where
  contiguous : ∀ epoch, sequencesOf epoch covered =
    range' 1 (sequencesOf epoch covered).length
  noReturn : ∀ front cursor back, covered = front ++ cursor :: back →
    cursor.bootEpoch ∈ front.map (·.bootEpoch) →
      front.getLast?.map (·.bootEpoch) = some cursor.bootEpoch

/-- Every change of the epoch is to the first record of an epoch that was not seen before. -/
def EpochsStartAtOne (covered : List InferenceUsageCursor) : Prop :=
  ∀ front previous cursor back, covered = front ++ previous :: cursor :: back →
    previous.bootEpoch ≠ cursor.bootEpoch →
      cursor.sequence = 1 ∧ cursor.bootEpoch ∉ (front ++ [previous]).map (·.bootEpoch)

/-- The positions that the watermark has not gone over. -/
def LedgerHistory.pending (history : LedgerHistory) (cursors : List InferenceUsageCursor) :
    List InferenceUsageCursor := cursors.filter (· ∉ history.covered)

/-- A batch whose pending positions would break the order is acknowledged up to the one before the
break, and the missing position is reported. -/
def HeldAtGap (codec : UsageCodec) (history : LedgerHistory) (batch : InferenceUsageBatch) : Prop :=
  ∀ applied, applyInferenceUsageBatch codec history.state batch = .ok applied →
    ∀ front cursor back, batch.cursors = front ++ cursor :: back → cursor ∉ history.covered →
      Orderly (history.covered ++ history.pending front) →
        ¬ Orderly (history.covered ++ history.pending front ++ [cursor]) →
          applied.receipt.acknowledgedThrough =
              (history.covered ++ history.pending front).getLast? ∧
            applied.receipt.gaps = [⟨cursor.bootEpoch, (sequencesOf cursor.bootEpoch
              (history.covered ++ history.pending front)).length + 1⟩]

/-- The ledger does not refuse a batch. -/
def Accepts (codec : UsageCodec) (state : InferenceUsageLedgerState) (batch : InferenceUsageBatch) :
    Prop := ∃ applied, applyInferenceUsageBatch codec state batch = .ok applied

/-- The first record of a batch for an empty ledger is number `1`. -/
def InferenceUsageBatch.Starts (batch : InferenceUsageBatch) : Prop :=
  batch.after = none → ∀ first, batch.cursors.head? = some first → first.sequence = 1

/-- A batch that comes after the watermark enters only new epochs, at their first records, unless
its first record is missing; any other one skips no position. -/
structure InStep (history : LedgerHistory) (batch : InferenceUsageBatch) : Prop where
  epochs : batch.after = history.state.watermark → batch.Starts →
    EpochsStartAtOne (history.covered ++ batch.cursors)
  skipsNone : batch.after ≠ history.state.watermark →
    Orderly (history.covered ++ history.pending batch.cursors)

/-! ### One position more -/

/-- The next position of an orderly list. -/
structure Extends (front : List InferenceUsageCursor) (cursor : InferenceUsageCursor) : Prop where
  sequence : cursor.sequence = (sequencesOf cursor.bootEpoch front).length + 1
  noReturn : cursor.bootEpoch ∈ front.map (·.bootEpoch) →
    front.getLast?.map (·.bootEpoch) = some cursor.bootEpoch

section Orderly

variable {l front : List InferenceUsageCursor} {cursor : InferenceUsageCursor}

theorem sequencesOf_concat (epoch : Uuid) (l : List InferenceUsageCursor)
    (cursor : InferenceUsageCursor) : sequencesOf epoch (l ++ [cursor]) =
      sequencesOf epoch l ++ if cursor.bootEpoch = epoch then [cursor.sequence] else [] := by
  by_cases h : cursor.bootEpoch = epoch <;> simp [sequencesOf, h]

theorem sequencesOf_eq_nil {epoch : Uuid} (h : epoch ∉ l.map (·.bootEpoch)) :
    sequencesOf epoch l = [] := by
  simp only [mem_map, not_exists, not_and] at h
  simpa [sequencesOf] using h

theorem orderly_nil : Orderly [] :=
  ⟨fun _ => rfl, fun front cursor back heq => by simp at heq⟩

theorem orderly_concat_iff : Orderly (l ++ [cursor]) ↔ Orderly l ∧ Extends l cursor := by
  constructor
  · intro h
    have hcontiguous : ∀ epoch, sequencesOf epoch l =
        range' 1 (sequencesOf epoch l).length ∧ (cursor.bootEpoch = epoch →
          cursor.sequence = (sequencesOf epoch l).length + 1) := by
      intro epoch
      have hepoch := h.contiguous epoch
      rw [sequencesOf_concat] at hepoch
      by_cases heq : cursor.bootEpoch = epoch
      · rw [if_pos heq, length_append, length_singleton, range'_concat] at hepoch
        obtain ⟨hfront, hlast⟩ := append_inj' hepoch rfl
        refine ⟨hfront, fun _ => ?_⟩
        rw [singleton_inj.1 hlast]
        omega
      · rw [if_neg heq, append_nil] at hepoch
        exact ⟨hepoch, fun h => absurd h heq⟩
    refine ⟨⟨fun epoch => (hcontiguous epoch).1, ?_⟩, (hcontiguous _).2 rfl, ?_⟩
    · intro front c back heq
      exact h.noReturn front c (back ++ [cursor]) (by rw [heq, append_assoc]; rfl)
    · exact h.noReturn l cursor [] rfl
  · rintro ⟨hl, hextends⟩
    constructor
    · intro epoch
      rw [sequencesOf_concat]
      by_cases heq : cursor.bootEpoch = epoch
      · subst heq
        rw [if_pos rfl, length_append, length_singleton, range'_concat,
          ← hl.contiguous, hextends.sequence, Nat.add_comm, Nat.one_mul]
      · rw [if_neg heq, append_nil]
        exact hl.contiguous epoch
    · intro front c back heq
      rcases Runs.concat_eq_split heq with ⟨rfl, rfl, -⟩ | ⟨back', -, heq'⟩
      · exact hextends.noReturn
      · exact hl.noReturn front c back' heq'

theorem Orderly.of_append {m : List InferenceUsageCursor} (h : Orderly (l ++ m)) : Orderly l := by
  induction m using reverseRecOn with
  | nil => simpa using h
  | append_singleton m c ih =>
    rw [← append_assoc] at h
    exact ih (orderly_concat_iff.1 h).1

/-- The next position was not there before. -/
theorem Extends.fresh (hl : Orderly l) (h : Extends l cursor) : cursor ∉ l := by
  intro hmem
  have hsequence : cursor.sequence ∈ sequencesOf cursor.bootEpoch l :=
    mem_map.2 ⟨cursor, mem_filter.2 ⟨hmem, by simp⟩, rfl⟩
  rw [hl.contiguous, mem_range'_1] at hsequence
  have hnext := h.sequence
  omega

theorem Orderly.notMem {m : List InferenceUsageCursor} (h : Orderly (l ++ m)) :
    ∀ c ∈ m, c ∉ l := by
  intro c hc hmem
  obtain ⟨front, back, rfl⟩ := append_of_mem hc
  have hbegin : Orderly ((l ++ front) ++ [c]) := Orderly.of_append (m := back) (by simpa using h)
  obtain ⟨hfront, hextends⟩ := orderly_concat_iff.1 hbegin
  exact hextends.fresh hfront (mem_append_left _ hmem)

/-- Within an epoch the next position has the next sequence. -/
theorem Extends.succ {tip : InferenceUsageCursor} (hl : Orderly l) (h : Extends l cursor)
    (htip : l.getLast? = some tip) (hepoch : tip.bootEpoch = cursor.bootEpoch) :
    cursor.sequence = tip.sequence + 1 := by
  obtain ⟨front, rfl⟩ := getLast?_eq_some_iff.1 htip
  have hlast := (orderly_concat_iff.1 hl).2.sequence
  rw [h.sequence, sequencesOf_concat, if_pos hepoch, length_append, length_singleton,
    hlast, hepoch]

/-- What the ledger sees to: the first record is number `1`, and within an epoch the sequence goes
on by one. -/
def Next (previous : Option InferenceUsageCursor) (cursor : InferenceUsageCursor) : Prop :=
  match previous with
  | none => cursor.sequence = 1
  | some tip => tip.bootEpoch = cursor.bootEpoch → cursor.sequence = tip.sequence + 1

/-- A position that is next and enters only new epochs extends an orderly list. -/
theorem extends_of_next (hl : Orderly l) (hnext : Next l.getLast? cursor)
    (hnew : ∀ tip, l.getLast? = some tip → tip.bootEpoch ≠ cursor.bootEpoch →
      cursor.sequence = 1 ∧ cursor.bootEpoch ∉ l.map (·.bootEpoch)) : Extends l cursor := by
  rcases eq_nil_or_concat l with rfl | ⟨l', tip, rfl⟩
  · exact ⟨hnext, by simp⟩
  · rw [concat_eq_append] at *
    rw [getLast?_concat] at hnext hnew
    by_cases hepoch : tip.bootEpoch = cursor.bootEpoch
    · have htip := (orderly_concat_iff.1 hl).2.sequence
      refine ⟨?_, fun _ => by simp [hepoch]⟩
      rw [sequencesOf_concat, if_pos hepoch, length_append, length_singleton,
        hnext hepoch, htip, hepoch]
    · obtain ⟨hone, hfresh⟩ := hnew tip rfl hepoch
      exact ⟨by rw [sequencesOf_eq_nil hfresh, hone]; rfl, fun h => absurd h hfresh⟩

/-- A list of next positions is orderly exactly when every change of the epoch is to the first
record of a new one. -/
theorem orderly_iff (hnext : ∀ front cursor back, l = front ++ cursor :: back →
    Next front.getLast? cursor) : Orderly l ↔ EpochsStartAtOne l := by
  constructor
  · intro h front tip cursor back heq hepoch
    have hbegin : Orderly ((front ++ [tip]) ++ [cursor]) := by
      refine Orderly.of_append (m := back) ?_
      simpa [heq] using h
    have hextends := (orderly_concat_iff.1 hbegin).2
    have hfresh : cursor.bootEpoch ∉ (front ++ [tip]).map (·.bootEpoch) := by
      intro hmem
      have hlast := hextends.noReturn hmem
      rw [getLast?_concat, Option.map_some, Option.some.injEq] at hlast
      exact hepoch hlast
    refine ⟨?_, hfresh⟩
    rw [hextends.sequence, sequencesOf_eq_nil hfresh]
    rfl
  · intro h
    induction l using reverseRecOn with
    | nil => exact orderly_nil
    | append_singleton l cursor ih =>
      have hl : Orderly l := by
        refine ih (fun front c back heq => hnext front c (back ++ [cursor]) (by simp [heq]))
          (fun front tip c back heq => h front tip c (back ++ [cursor]) (by simp [heq]))
      refine orderly_concat_iff.2 ⟨hl, extends_of_next hl (hnext l cursor [] rfl) ?_⟩
      intro tip htip hepoch
      obtain ⟨front, rfl⟩ := getLast?_eq_some_iff.1 htip
      exact h front tip cursor [] (by simp) hepoch

end Orderly

/-! ### What a batch adds -/

theorem cursorsThrough_append {front rest : List InferenceUsageCursor}
    {cursor : InferenceUsageCursor} (h : cursor ∉ front) :
    cursorsThrough (some cursor) (front ++ cursor :: rest) = front ++ [cursor] := by
  have hidx : (front ++ cursor :: rest).idxOf cursor = front.length := by
    rw [idxOf_append_of_notMem h, idxOf_cons_self, Nat.add_zero]
  rw [cursorsThrough, hidx, take_length_add_append]
  simp

variable {front rest : List InferenceUsageRecord} {codec : UsageCodec} {batch : InferenceUsageBatch}
  {record : InferenceUsageRecord}

/-- The records of a valid batch that the loop goes through are next to each other. -/
theorem next_of_follows (hvalid : batch.Valid codec)
    (hsplit : batch.records = front ++ record :: rest)
    (hcontinues : Continues (lastCursor batch.after front) record.cursor) :
    Next (lastCursor batch.after front) record.cursor := by
  have hfollows := hvalid.follows front record rest hsplit
  rcases eq_nil_or_concat front with rfl | ⟨front', last, rfl⟩
  · rw [lastCursor_nil] at hcontinues ⊢
    cases hafter : batch.after with
    | none =>
      rw [hafter] at hcontinues
      rcases hcontinues with hexpected | hstart
      · exact congrArg InferenceUsageCursor.sequence hexpected
      · simp [newEpochStart] at hstart
    | some tip => exact fun hepoch => (hfollows.first rfl tip hafter hepoch).2
  · rw [concat_eq_append] at *
    have hlast : lastCursor batch.after (front' ++ [last]) = some last.cursor := by
      simp [lastCursor]
    rw [hlast]
    exact fun hepoch => (hfollows.next last (getLast?_concat) hepoch).2

/-- At a record of a valid batch the loop stops only if nothing was acknowledged before. -/
theorem acknowledged_none_of_stop (hvalid : batch.Valid codec)
    (hsplit : batch.records = front ++ record :: rest)
    (hstop : ¬ Continues (lastCursor batch.after front) record.cursor) :
    front = [] ∧ batch.after = none := by
  have hfollows := hvalid.follows front record rest hsplit
  -- A cursor of the same epoch is followed by the next one, and any other is taken as it is.
  have hsome : ∀ tip, (tip.bootEpoch = record.cursor.bootEpoch →
      tip.sequence + 1 < 2 ^ 64 ∧ record.cursor.sequence = tip.sequence + 1) →
        Continues (some tip) record.cursor := by
    intro tip hnext
    refine .inl ?_
    rw [expectedCursor]
    by_cases hepoch : tip.bootEpoch = record.cursor.bootEpoch
    · obtain ⟨hlt, hseq⟩ := hnext hepoch
      have hsat : saturatingAdd tip.sequence 1 = record.cursor.sequence := by
        rw [hseq, saturatingAdd, u64Max]
        omega
      rw [if_pos hepoch, hsat, hepoch]
    · rw [if_neg hepoch]
  rcases eq_nil_or_concat front with rfl | ⟨front', last, rfl⟩
  · refine ⟨rfl, ?_⟩
    rw [lastCursor_nil] at hstop
    cases hafter : batch.after with
    | none => rfl
    | some tip =>
      rw [hafter] at hstop
      exact absurd (hsome tip (hfollows.first rfl tip hafter)) hstop
  · rw [concat_eq_append] at *
    have hlast : lastCursor batch.after (front' ++ [last]) = some last.cursor := by
      simp [lastCursor]
    rw [hlast] at hstop
    exact absurd (hsome last.cursor (hfollows.next last getLast?_concat)) hstop

/-- What an accepted batch does to a history: it adds next positions, and when it comes after the
watermark these are all of its positions, or none because the very first record is missing. -/
structure Advances (state : InferenceUsageLedgerState) (batch : InferenceUsageBatch)
    (applied : InferenceUsageLedgerApply) (added : List InferenceUsageCursor) : Prop where
  watermark : applied.next.watermark = added.getLast?.or state.watermark
  next : ∀ front cursor back, added = front ++ cursor :: back →
    Next (front.getLast?.or state.watermark) cursor
  all : batch.after = state.watermark → added = batch.cursors ∨
    (added = [] ∧ state.watermark = none ∧ ∃ cursor back, batch.cursors = cursor :: back ∧
      cursor.sequence ≠ 1 ∧ applied.receipt.acknowledgedThrough = none ∧
        applied.receipt.gaps = [⟨cursor.bootEpoch, 1⟩])
  held : batch.after ≠ state.watermark → added = [] ∧ applied.receipt.gaps = []

/-- The positions that the watermark goes over are those of the covered records. -/
theorem cursorsThrough_covered {watermark watermark' : Option InferenceUsageCursor}
    {covered rest : List InferenceUsageRecord} (hvalid : batch.Valid codec)
    (hafter : batch.after = watermark) (hrecords : batch.records = covered ++ rest)
    (hwatermark : watermark' = lastCursor watermark covered) :
    (if watermark' = watermark then [] else cursorsThrough watermark' batch.cursors) =
      covered.map (·.cursor) := by
  rcases eq_nil_or_concat covered with rfl | ⟨front, last, rfl⟩
  · rw [hwatermark, lastCursor_nil, if_pos rfl]
    rfl
  · rw [concat_eq_append, append_assoc, singleton_append] at hrecords
    have hfollows := hvalid.follows front last rest hrecords
    have htip : watermark' = some last.cursor := by
      rw [hwatermark]
      simp [lastCursor]
    rw [htip, if_neg (fun hsame => hfollows.notAfter (hafter.trans hsame.symm)),
      InferenceUsageBatch.cursors, hrecords, map_append, map_cons,
      cursorsThrough_append hfollows.fresh]
    simp

theorem applied_covers {state : InferenceUsageLedgerState} {applied : InferenceUsageLedgerApply}
    (h : applyInferenceUsageBatch codec state batch = .ok applied) :
    Advances state batch applied (if applied.next.watermark = state.watermark then []
      else cursorsThrough applied.next.watermark batch.cursors) := by
  obtain ⟨hvalid, ⟨hafter, hnext, -, hreceipt⟩ | ⟨hafter, loop, hloop, hnext, -, hreceipt⟩⟩ :=
    applyInferenceUsageBatch_ok h
  · rw [hnext, if_pos rfl]
    exact ⟨by rw [hnext]; rfl, by simp, fun h => absurd h hafter, fun _ => ⟨rfl, by rw [hreceipt]; rfl⟩⟩
  · obtain ⟨covered, rest, hrecords, hcovers⟩ := applyRecords_ok hloop
    have hwatermark : applied.next.watermark = lastCursor state.watermark covered := by
      rw [hnext]
      exact hcovers.acknowledged
    rw [cursorsThrough_covered hvalid hafter hrecords hwatermark]
    refine ⟨?_, ?_, fun _ => ?_, fun h => absurd hafter h⟩
    · rw [hwatermark, lastCursor, getLast?_map]
    · intro front cursor back heq
      obtain ⟨front', back', rfl, rfl, hback⟩ := map_eq_append_iff.1 heq
      obtain ⟨record, tail, rfl, rfl, rfl⟩ := map_eq_cons_iff.1 hback
      have hcontinues := hcovers.continues front' record tail rfl
      have hsplit : batch.records = front' ++ record :: (tail ++ rest) := by
        rw [hrecords]
        simp
      have hnext := next_of_follows hvalid hsplit (by rw [hafter]; exact hcontinues)
      rw [hafter] at hnext
      rw [getLast?_map]
      exact hnext
    · rcases hcovers.stops with ⟨rfl, -⟩ | ⟨record, back, rfl, hstop, hgaps⟩
      · rw [append_nil] at hrecords
        exact .inl (by rw [InferenceUsageBatch.cursors, hrecords])
      · rw [hcovers.acknowledged] at hstop hgaps
        obtain ⟨rfl, hnone⟩ := acknowledged_none_of_stop hvalid hrecords (by
          rw [hafter]; exact hstop)
        have hstate : state.watermark = none := hafter.symm.trans hnone
        have hack : loop.acknowledgedThrough = none := by
          rw [hcovers.acknowledged, lastCursor_nil]
          exact hstate
        simp only [hstate, lastCursor_nil] at hstop hgaps
        refine .inr ⟨rfl, hstate, record.cursor, back.map (·.cursor), ?_, ?_, ?_, ?_⟩
        · rw [InferenceUsageBatch.cursors, hrecords]
          rfl
        · intro hone
          refine hstop (.inl ?_)
          rw [expectedCursor, ← hone]
        · rw [hreceipt]
          exact hack
        · rw [hreceipt]
          exact hgaps

/-! ### The history of a ledger -/

/-- What every history satisfies: the watermark is the last position it went over, and each position
is next to the one before it. -/
structure LedgerHistory.Recorded (history : LedgerHistory) : Prop where
  watermark : history.state.watermark = history.covered.getLast?
  next : ∀ front cursor back, history.covered = front ++ cursor :: back →
    Next front.getLast? cursor

namespace LedgerHistory

variable {codec : UsageCodec} {history : LedgerHistory} {batch : InferenceUsageBatch}

theorem recorded_initial : initial.Recorded :=
  ⟨rfl, fun front cursor back heq => by simp [initial] at heq⟩

/-- A list that was extended is cut within the old part or within the new one. -/
theorem append_eq_split {α : Type} {l m front back : List α} {a : α}
    (h : l ++ m = front ++ a :: back) :
    (∃ back', l = front ++ a :: back') ∨ ∃ front', front = l ++ front' ∧ m = front' ++ a :: back := by
  rcases append_eq_append_iff.1 h with ⟨front', rfl, hm⟩ | ⟨rest, rfl, hrest⟩
  · exact .inr ⟨front', rfl, hm⟩
  · cases rest with
    | nil => exact .inr ⟨[], by simp, by simpa using hrest.symm⟩
    | cons b rest =>
      simp only [cons_append, cons.injEq] at hrest
      exact .inl ⟨rest, by rw [hrest.1]⟩

theorem Recorded.apply (h : history.Recorded) : (history.apply codec batch).Recorded := by
  rw [LedgerHistory.apply]
  cases happly : applyInferenceUsageBatch codec history.state batch with
  | error => exact h
  | ok applied =>
    have hadvances := applied_covers happly
    simp only
    generalize (if applied.next.watermark = history.state.watermark then []
      else cursorsThrough applied.next.watermark batch.cursors) = added at hadvances ⊢
    constructor
    · rw [getLast?_append, ← h.watermark]
      exact hadvances.watermark
    · intro front cursor back heq
      rcases append_eq_split heq with ⟨back', hold⟩ | ⟨front', rfl, hnew⟩
      · exact h.next front cursor back' hold
      · rw [getLast?_append, ← h.watermark]
        exact hadvances.next front' cursor back hnew

theorem recorded_after (batches : List InferenceUsageBatch) :
    (after codec batches).Recorded :=
  Runs.invariant_all (fun _ _ h => h.apply) recorded_initial batches

theorem covered_after_append (codec : UsageCodec) (front back : List InferenceUsageBatch) :
    ∃ added, (after codec (front ++ back)).covered = (after codec front).covered ++ added := by
  induction back using reverseRecOn with
  | nil => exact ⟨[], by simp⟩
  | append_singleton back batch ih =>
    obtain ⟨added, hadded⟩ := ih
    rw [← append_assoc, after, Runs.run_append, Runs.run_cons, Runs.run_nil, ← after]
    rw [LedgerHistory.apply]
    cases applyInferenceUsageBatch codec (after codec (front ++ back)).state batch with
    | error => exact ⟨added, hadded⟩
    | ok =>
      simp only [hadded, append_assoc]
      exact ⟨_, rfl⟩

theorem pending_of_orderly {cursors : List InferenceUsageCursor}
    (h : Orderly (history.covered ++ cursors)) : history.pending cursors = cursors :=
  filter_eq_self.2 fun cursor hcursor => decide_eq_true (h.notMem cursor hcursor)

theorem pending_split {front back : List InferenceUsageCursor} {cursor : InferenceUsageCursor}
    (h : cursor ∉ history.covered) : history.pending (front ++ cursor :: back) =
      history.pending front ++ cursor :: history.pending back := by
  simp [pending, h]

/-- What an accepted batch adds to a history. -/
theorem exists_added {applied : InferenceUsageLedgerApply}
    (h : applyInferenceUsageBatch codec history.state batch = .ok applied) :
    ∃ added, (history.apply codec batch).covered = history.covered ++ added ∧
      Advances history.state batch applied added := by
  have hadvances := applied_covers h
  refine ⟨_, ?_, hadvances⟩
  rw [LedgerHistory.apply, h]

/-- Nothing has to hold a batch whose pending positions keep the order. -/
theorem heldAtGap_of_orderly (h : Orderly (history.covered ++ history.pending batch.cursors)) :
    HeldAtGap codec history batch := by
  intro _ _ front cursor back hcursors hnew _ hbroken
  rw [hcursors, pending_split hnew] at h
  exact absurd (Orderly.of_append (m := history.pending back) (by simpa using h)) hbroken

/-- The first batch of a Gateway is held at its first record if this is not number `1`. -/
theorem heldAtGap_first {applied : InferenceUsageLedgerApply} {first : InferenceUsageCursor}
    {rest : List InferenceUsageCursor} (hempty : history.covered = [])
    (happly : applyInferenceUsageBatch codec history.state batch = .ok applied)
    (hfirst : batch.cursors = first :: rest) (hone : first.sequence ≠ 1)
    (hack : applied.receipt.acknowledgedThrough = none)
    (hgaps : applied.receipt.gaps = [⟨first.bootEpoch, 1⟩]) : HeldAtGap codec history batch := by
  intro applied' happly' front cursor back hcursors _ hfront _
  rw [happly, Except.ok.injEq] at happly'
  subst happly'
  have hpending : history.pending front = front := by simp [pending, hempty]
  rw [hempty, nil_append, hpending] at hfront ⊢
  rw [hcursors] at hfirst
  cases front with
  | nil =>
    simp only [nil_append, cons.injEq] at hfirst
    rw [hfirst.1]
    exact ⟨hack, hgaps⟩
  | cons c front =>
    -- A nonempty orderly list begins with number `1`.
    simp only [cons_append, cons.injEq] at hfirst
    have hbegin : Orderly ([] ++ [c]) := Orderly.of_append (m := front) (by simpa using hfront)
    have hsequence := (orderly_concat_iff.1 hbegin).2.sequence
    rw [hfirst.1] at hsequence
    exact absurd hsequence hone

/-- A batch that is in step with an orderly history keeps it orderly, and is held at the very first
record if this is missing. -/
theorem orderly_apply (hrecorded : history.Recorded) (horderly : Orderly history.covered)
    (hstep : Accepts codec history.state batch → InStep history batch) :
    Orderly (history.apply codec batch).covered ∧ HeldAtGap codec history batch := by
  cases happly : applyInferenceUsageBatch codec history.state batch with
  | error =>
    refine ⟨by rw [LedgerHistory.apply, happly]; exact horderly, fun applied h => ?_⟩
    rw [happly] at h
    cases h
  | ok applied =>
    obtain ⟨added, hadded, hadvances⟩ := exists_added happly
    have hinStep := hstep ⟨applied, happly⟩
    have hnext := (show (history.apply codec batch).Recorded from hrecorded.apply).next
    rw [hadded] at hnext ⊢
    by_cases hafter : batch.after = history.state.watermark
    · rcases hadvances.all hafter with rfl | ⟨rfl, hnone, first, rest, hfirst, hone, hack, hgaps⟩
      · have hall : Orderly (history.covered ++ batch.cursors) := by
          refine (orderly_iff hnext).2 (hinStep.epochs hafter fun hnone first hfirst => ?_)
          obtain ⟨rest, hrest⟩ := head?_eq_some_iff.1 hfirst
          have hone := hadvances.next [] first rest hrest
          rw [getLast?_nil, Option.none_or, ← hafter, hnone] at hone
          exact hone
        exact ⟨hall, heldAtGap_of_orderly (by rwa [pending_of_orderly hall])⟩
      · rw [append_nil]
        rw [hrecorded.watermark, getLast?_eq_none_iff] at hnone
        exact ⟨horderly, heldAtGap_first hnone happly hfirst hone hack hgaps⟩
    · rw [(hadvances.held hafter).1, append_nil]
      exact ⟨horderly, heldAtGap_of_orderly (hinStep.skipsNone hafter)⟩

/-- A batch that keeps a history orderly and is held where it has to be is in step. -/
theorem inStep_of_orderly (hrecorded : history.Recorded)
    (horderly : Orderly (history.apply codec batch).covered)
    (hheld : HeldAtGap codec history batch) (haccepts : Accepts codec history.state batch) :
    InStep history batch := by
  obtain ⟨applied, happly⟩ := haccepts
  obtain ⟨added, hadded, hadvances⟩ := exists_added happly
  have hnext := (show (history.apply codec batch).Recorded from hrecorded.apply).next
  rw [hadded] at hnext horderly
  constructor
  · intro hafter hstarts
    rcases hadvances.all hafter with rfl | ⟨-, hnone, first, rest, hfirst, hone, -⟩
    · exact (orderly_iff hnext).1 horderly
    · exact absurd (hstarts (hafter.trans hnone) first (by rw [hfirst]; rfl)) hone
  · intro hafter
    suffices hfront : ∀ front back, batch.cursors = front ++ back →
        Orderly (history.covered ++ history.pending front) from
      hfront batch.cursors [] (by simp)
    intro front
    induction front using reverseRecOn with
    | nil => exact fun _ _ => by simpa [pending] using horderly.of_append
    | append_singleton front cursor ih =>
      intro back hcursors
      rw [append_assoc, singleton_append] at hcursors
      have hfront := ih _ hcursors
      by_cases hmem : cursor ∈ history.covered
      · simpa [pending, hmem] using hfront
      · rw [pending_split hmem]
        by_contra hbroken
        have hgaps := (hheld applied happly front cursor back hcursors hmem hfront
          (by simpa [pending] using hbroken)).2
        rw [(hadvances.held hafter).2] at hgaps
        cases hgaps

theorem after_concat (front : List InferenceUsageBatch) (batch : InferenceUsageBatch) :
    after codec (front ++ [batch]) = (after codec front).apply codec batch := by
  rw [after, after, Runs.run_append, Runs.run_cons, Runs.run_nil]

/-- The positions that a Gateway's watermark goes over are orderly, and every batch that would break
their order is held at the missing one, exactly when every accepted batch is in step with the ledger
before it. -/
theorem acknowledged_contiguous_iff (codec : UsageCodec) (batches : List InferenceUsageBatch) :
    (Orderly (after codec batches).covered ∧
      ∀ front batch back, batches = front ++ batch :: back →
        HeldAtGap codec (after codec front) batch) ↔
      ∀ front batch back, batches = front ++ batch :: back →
        Accepts codec (after codec front).state batch → InStep (after codec front) batch := by
  constructor
  · rintro ⟨horderly, hheld⟩ front batch back rfl
    refine inStep_of_orderly (recorded_after front) ?_ (hheld front batch back rfl)
    obtain ⟨added, hadded⟩ := covered_after_append codec (front ++ [batch]) back
    rw [append_assoc, singleton_append] at hadded
    rw [hadded] at horderly
    rw [← after_concat]
    exact horderly.of_append
  · intro hsteps
    have horderly : ∀ front back, batches = front ++ back → Orderly (after codec front).covered := by
      intro front
      induction front using reverseRecOn with
      | nil => exact fun _ _ => orderly_nil
      | append_singleton front batch ih =>
        intro back hsplit
        rw [append_assoc, singleton_append] at hsplit
        rw [after_concat]
        exact (orderly_apply (recorded_after front) (ih _ hsplit) (hsteps front batch back hsplit)).1
    exact ⟨horderly batches [] (by simp), fun front batch back hsplit =>
      (orderly_apply (recorded_after front) (horderly front _ hsplit)
        (hsteps front batch back hsplit)).2⟩

/-- After a restart a Gateway's records may begin anywhere: sequence `5` of the second epoch is
acknowledged though its first four records never arrived, and no gap is reported; and a later batch
takes the watermark back to the epoch it had left. A batch that does not come after the watermark is
held, but the position it skips is acknowledged and not reported. -/
theorem epoch_change_accepted :
    let first := usageBatch none [⟨1, 1⟩]
    let hole := usageBatch (some ⟨1, 1⟩) [⟨2, 5⟩]
    let back := usageBatch (some ⟨2, 5⟩) [⟨1, 2⟩]
    let skip := usageBatch (some ⟨1, 2⟩) [⟨1, 3⟩]
    (∀ batch ∈ [first, hole, back, skip], batch.validate startedCodec = .ok ()) ∧
      (after startedCodec [first, hole]).covered = [⟨1, 1⟩, ⟨2, 5⟩] ∧
      (∃ applied, applyInferenceUsageBatch startedCodec
        (after startedCodec [first]).state hole = .ok applied ∧ applied.receipt.gaps = []) ∧
      (∃ applied, applyInferenceUsageBatch startedCodec
        (after startedCodec [first]).state skip = .ok applied ∧ applied.receipt.gaps = [] ∧
          applied.receipt.acknowledgedThrough = some ⟨1, 2⟩) ∧
      (after startedCodec [first, hole, back]).covered = [⟨1, 1⟩, ⟨2, 5⟩, ⟨1, 2⟩] ∧
      ¬ Orderly (after startedCodec [first, hole, back]).covered := by
  have hcovered : (after startedCodec [usageBatch none [⟨1, 1⟩],
      usageBatch (some ⟨1, 1⟩) [⟨2, 5⟩],
      usageBatch (some ⟨2, 5⟩) [⟨1, 2⟩]]).covered = [⟨1, 1⟩, ⟨2, 5⟩, ⟨1, 2⟩] := by
    decide +kernel
  refine ⟨by decide +kernel, by decide +kernel, by decide +kernel, by decide +kernel, hcovered, ?_⟩
  rw [hcovered]
  intro h
  have hsequences := h.contiguous 2
  revert hsequences
  decide

end LedgerHistory

end A3SCloud
