import A3SCloud.NodeAgent.Journal
import Mathlib.Order.Interval.Finset.Nat

/-!
# What the journal operations do

* `CommandJournal.Valid` is what the check of a journal accepts (`validate_ok_iff`).
* Each operation that writes has one inversion lemma, `beginSync_ok`, `completeSync_ok` and
  `markAcknowledgedSync_ok`; no later proof unfolds an operation.
* `CommandJournal.Ordered` says that the entries stand in sequence order, which every operation
  keeps; the replays then run over the entries as they stand.
-/

namespace A3SCloud

open Checks List CommandJournal JournalEntry Table

variable (X : External)

/-! ### Valid journals -/

/-- What the check of a journal asks of one entry. -/
structure EntryValid (nodeId : Uuid) (entry : JournalEntry) : Prop where
  envelope : entry.envelope.Valid X
  nodeId : entry.envelope.nodeId = nodeId
  acknowledged : entry.acknowledged = true → entry.completion ≠ none
  completion : ∀ completion, entry.completion = some completion →
    (report entry.envelope completion).validateAgainst X entry.envelope = .ok ()

/-- What `CommandJournal.validate` accepts. -/
structure CommandJournal.Valid (journal : CommandJournal) : Prop where
  schema : journal.schema = .current
  nodeId : journal.nodeId ≠ 0
  acknowledged : journal.lastAcknowledgedSequence ≤ journal.lastReceivedSequence
  entries : ∀ entry ∈ journal.entries.rows, EntryValid X journal.nodeId entry
  nodup : (journal.entries.rows.map JournalEntry.sequence).Nodup
  gapless : ∀ sequence, sequence ∈ journal.entries.rows.map JournalEntry.sequence ↔
    1 ≤ sequence ∧ sequence ≤ journal.lastReceivedSequence
  contiguous : journal.contiguousAcknowledgedSequence = journal.lastAcknowledgedSequence
  generations : ∀ current ∈ journal.aggregateGenerations.rows,
    current.generation ≠ 0 ∧ isSha256 current.stateDigest = true
  claims : ∃ projection, journal.resourceClaimProjection X = .ok projection
  codeRuns : ∃ bindings, journal.codeRunBindingsProjection X = .ok bindings
  providerRuns : ∃ bindings, journal.providerRunBindingsProjection X = .ok bindings

variable {X}

theorem acknowledgement_ok_iff {entry : JournalEntry} {ack? : Option NodeCommandAck} :
    entry.acknowledgement X = .ok ack? ↔
      ack? = entry.completion.map (report entry.envelope) ∧
        ∀ completion, entry.completion = some completion →
          (report entry.envelope completion).validateAgainst X entry.envelope =
            .ok () := by
  unfold JournalEntry.acknowledgement
  cases entry.completion with
  | none => simp [eq_comm]
  | some =>
    simp only [ok_rules, Option.some.injEq, forall_eq', Option.map_some]
    exact ⟨fun h => ⟨h.2.symm, h.1⟩, fun h => ⟨h.2, h.1.symm⟩⟩

variable {entries : List JournalEntry} {sequences : List ℕ} {u : Unit}
  {journal journal' : CommandJournal} {envelope : NodeCommandEnvelope} {decision : JournalDecision}
  {commandId : Uuid} {acknowledgement : NodeCommandAck} {completion : JournalCompletion}

theorem validateEntries_ok_iff {nodeId : Uuid} {seen : List ℕ} :
    validateEntries X nodeId seen entries = .ok sequences ↔
      sequences = (entries.map JournalEntry.sequence).reverse ++ seen ∧
        (∀ entry ∈ entries, EntryValid X nodeId entry) ∧
        (entries.map JournalEntry.sequence).Nodup ∧
        ∀ entry ∈ entries, entry.sequence ∉ seen := by
  induction entries generalizing seen with
  | nil => simp [validateEntries, eq_comm]
  | cons entry entries ih =>
    simp only [validateEntries, ok_rules, NodeCommandEnvelope.validate_ok_iff,
      acknowledgement_ok_iff, ih]
    constructor
    · rintro ⟨hvalid, hid, ack?, ⟨-, hack⟩, rfl, hall, hnodup, hseen⟩
      simp only [not_or, not_not, not_and] at hid
      refine ⟨by simp, ?_, ?_, ?_⟩
      · intro e he
        rcases mem_cons.1 he with rfl | he
        · exact ⟨hvalid, hid.1, hid.2.2, hack⟩
        · exact hall e he
      · rw [map_cons, nodup_cons]
        refine ⟨?_, hnodup⟩
        rw [mem_map]
        rintro ⟨e, he, heq⟩
        exact hseen e he (by simp [heq])
      · intro e he
        rcases mem_cons.1 he with rfl | he
        · exact hid.2.1
        · exact fun hmem => hseen e he (by simp [hmem])
    · rintro ⟨rfl, hall, hnodup, hseen⟩
      have hentry := hall entry (by simp)
      rw [map_cons, nodup_cons] at hnodup
      refine ⟨hentry.envelope, ?_, _, ⟨rfl, hentry.completion⟩, by simp,
        fun e he => hall e (by simp [he]), hnodup.2, fun e he => ?_⟩
      · simp only [not_or, not_not, not_and]
        exact ⟨hentry.nodeId, hseen entry (by simp), hentry.acknowledged⟩
      · rw [mem_cons, not_or]
        refine ⟨fun heq => hnodup.1 ?_, hseen e (by simp [he])⟩
        rw [← heq]
        exact mem_map_of_mem he

/-- Sequences without repetition pass the gap check exactly when they are `1, …, n`. -/
theorem validateSequences_ok_iff {n : ℕ} (hnodup : sequences.Nodup) :
    validateSequences n sequences = .ok u ↔ ∀ s, s ∈ sequences ↔ 1 ≤ s ∧ s ≤ n := by
  unfold validateSequences
  by_cases hn : n = 0
  · subst hn
    simp only [if_true, refuseIf_ok_iff, ne_eq, not_not]
    constructor
    · rintro rfl s
      simp only [not_mem_nil, false_iff]
      omega
    · intro h
      refine eq_nil_iff_forall_not_mem.2 fun s hs => ?_
      have := (h s).1 hs
      omega
  · simp only [if_neg hn, refuseIf_ok_iff, not_or, ne_eq, not_not, min?_eq_some_iff,
      max?_eq_some_iff]
    have hcard : sequences.toFinset.card = sequences.length := toFinset_card_of_nodup hnodup
    constructor
    · rintro ⟨hlen, ⟨-, hmin⟩, -, hmax⟩ s
      have hsub : sequences.toFinset ⊆ Finset.Icc 1 n := by
        intro a ha
        rw [mem_toFinset] at ha
        exact Finset.mem_Icc.2 ⟨hmin a ha, hmax a ha⟩
      have heq : sequences.toFinset = Finset.Icc 1 n := by
        refine Finset.eq_of_subset_of_card_le hsub ?_
        rw [hcard, Nat.card_Icc]
        omega
      rw [← mem_toFinset, heq, Finset.mem_Icc]
    · intro h
      have heq : sequences.toFinset = Finset.Icc 1 n := by
        ext s
        rw [mem_toFinset, h, Finset.mem_Icc]
      rw [heq, Nat.card_Icc] at hcard
      refine ⟨by omega, ⟨(h 1).2 (by omega), fun b hb => ((h b).1 hb).1⟩,
        (h n).2 (by omega), fun b hb => ((h b).1 hb).2⟩

namespace CommandJournal

variable {journal fenced : CommandJournal} {u : Unit} {envelope : NodeCommandEnvelope}

theorem validate_ok_iff : journal.validate X = .ok u ↔ journal.Valid X := by
  simp only [validate, ok_rules, not_or, not_not, not_lt, validateEntries_ok_iff, checkAll_ok_iff,
    and_true]
  constructor
  · rintro ⟨⟨hs, hn⟩, hack, sequences, ⟨rfl, hentries, hnodup, -⟩, hseq, hcont, hgen, p, hp, c, hc,
      r, hr⟩
    rw [append_nil, validateSequences_ok_iff (nodup_reverse.2 hnodup)] at hseq
    refine ⟨hs, hn, hack, hentries, hnodup, ?_, hcont, hgen, ⟨p, hp⟩, ⟨c, hc⟩, ⟨r, hr⟩⟩
    intro s
    rw [← hseq s, mem_reverse]
  · rintro ⟨hs, hn, hack, hentries, hnodup, hgap, hcont, hgen, ⟨p, hp⟩, ⟨c, hc⟩, ⟨r, hr⟩⟩
    refine ⟨⟨hs, hn⟩, hack, _, ⟨rfl, hentries, hnodup, by simp⟩, ?_, hcont, hgen, p, hp, c, hc, r,
      hr⟩
    rw [append_nil, validateSequences_ok_iff (nodup_reverse.2 hnodup)]
    intro s
    rw [← hgap s, mem_reverse]

/-- The generation fence, for the record of the aggregate. -/
theorem checkGeneration_ok_iff {digest : DigestText} :
    journal.checkGeneration envelope digest = .ok u ↔
      ∀ current, journal.aggregateGenerations.get? envelope.aggregateId = some current →
        current.generation ≤ envelope.generation ∧
          (current.generation = envelope.generation → current.stateDigest = digest) := by
  unfold checkGeneration
  cases journal.aggregateGenerations.get? envelope.aggregateId with
  | none => simp
  | some =>
    simp only [ok_rules, not_lt, not_and, ne_eq, not_not, Option.some.injEq, forall_eq']

theorem applyFence_ok (h : journal.applyFence X envelope = .ok fenced) :
    (stateMutationDigest X envelope.payload = .ok none ∧ fenced = journal) ∨
      ∃ digest, stateMutationDigest X envelope.payload = .ok (some digest) ∧
        journal.checkGeneration envelope digest = .ok () ∧
        fenced = journal.fenceGeneration envelope digest := by
  simp only [applyFence, bind_ok_iff] at h
  obtain ⟨digest?, hdigest, h⟩ := h
  cases digest? with
  | none =>
    simp only [pure_ok_iff] at h
    exact .inl ⟨hdigest, h.symm⟩
  | some digest =>
    simp only [ok_rules] at h
    exact .inr ⟨digest, hdigest, h.1, h.2.symm⟩

/-- A fence changes the generations only. -/
theorem applyFence_frame (h : journal.applyFence X envelope = .ok fenced) :
    fenced.schema = journal.schema ∧ fenced.nodeId = journal.nodeId ∧
      fenced.lastReceivedSequence = journal.lastReceivedSequence ∧
      fenced.lastAcknowledgedSequence = journal.lastAcknowledgedSequence ∧
      fenced.entries = journal.entries := by
  rcases applyFence_ok h with ⟨-, rfl⟩ | ⟨_, -, -, rfl⟩
  · exact ⟨rfl, rfl, rfl, rfl, rfl⟩
  · exact ⟨rfl, rfl, rfl, rfl, rfl⟩

/-- Rebinding an entry to the lease it has changes nothing. -/
theorem rebind_self {existing : JournalEntry} (h : journal.entries.get? commandId = some existing) :
    journal.rebind commandId existing.envelope.leaseId = journal := by
  have hrows : (journal.entries.modify commandId
      (JournalEntry.rebind existing.envelope.leaseId)
      (commandId_rebind existing.envelope.leaseId)) = journal.entries := by
    refine ext_rows ?_
    rw [Table.modify, rows_mapRows]
    conv_rhs => rw [← map_id journal.entries.rows]
    refine map_congr_left fun entry hentry => ?_
    split_ifs with hid
    · have hsame : journal.entries.get? commandId = some entry :=
        get?_eq_some_iff.2 ⟨hentry, hid⟩
      rw [h, Option.some.injEq] at hsame
      subst hsame
      rfl
    · rfl
  unfold rebind
  rw [hrows]

end CommandJournal

/-! ### Inversion of the operations -/

theorem readJournal_ok_iff {nodeId : Uuid} :
    readJournal X nodeId journal = .ok u ↔ journal.nodeId = nodeId ∧ journal.Valid X := by
  simp only [readJournal, ok_rules, ne_eq, not_not, validate_ok_iff]

/-- The decision about a command whose entry has the given completion. -/
def decisionFor (envelope : NodeCommandEnvelope) :
    Option JournalCompletion → JournalDecision
  | none => .execute
  | some completion => .replay (report envelope completion)

/-- The two ways in which a command is begun: its entry is rebound to the lease of the redelivery,
or it is the next command of the sequence and gets an entry. -/
inductive Begun (journal : CommandJournal) (envelope : NodeCommandEnvelope) :
    JournalDecision → CommandJournal → Prop
  | redelivered (existing : JournalEntry)
      (hget : journal.entries.get? envelope.commandId = some existing)
      (hsame : existing.envelope.withLease envelope.leaseId = envelope) :
      Begun journal envelope (decisionFor envelope existing.completion)
        (journal.rebind envelope.commandId envelope.leaseId)
  | received (fenced : CommandJournal)
      (hget : journal.entries.get? envelope.commandId = none)
      (hsequence : envelope.sequence = journal.lastReceivedSequence + 1)
      (hfence : journal.applyFence X envelope = .ok fenced) :
      Begun journal envelope .execute (fenced.receive envelope)

theorem beginSync_ok {nodeId : Uuid}
    (h : beginSync X nodeId journal envelope = .ok (decision, journal')) :
    journal.nodeId = nodeId ∧ journal.Valid X ∧ envelope.Valid X ∧ envelope.nodeId = nodeId ∧
      journal'.Valid X ∧ Begun (X := X) journal envelope decision journal' := by
  simp only [beginSync, ok_rules, ne_eq, not_not, NodeCommandEnvelope.validate_ok_iff,
    readJournal_ok_iff] at h
  obtain ⟨henvelope, hnode, ⟨hjournal, hvalid⟩, h⟩ := h
  refine ⟨hjournal, hvalid, henvelope, hnode, ?_⟩
  cases hget : journal.entries.get? envelope.commandId with
  | some existing =>
    simp only [hget, redeliver, ok_rules, ne_eq, not_not, acknowledgement_ok_iff] at h
    obtain ⟨hsame, ack?, ⟨rfl, -⟩, h⟩ := h
    have hdecision : (((existing.rebind envelope.leaseId).completion.map (report
        (existing.rebind envelope.leaseId).envelope)).elim JournalDecision.execute
          JournalDecision.replay) = decisionFor envelope existing.completion := by
      rw [show (existing.rebind envelope.leaseId).envelope = envelope from hsame]
      rw [show (existing.rebind envelope.leaseId).completion = existing.completion from rfl]
      cases existing.completion <;> rfl
    rw [hdecision] at h
    by_cases hlease : existing.envelope.leaseId = envelope.leaseId
    · simp only [hlease, not_true_eq_false, if_false, pure_ok_iff, Prod.mk.injEq] at h
      obtain ⟨rfl, rfl⟩ := h
      refine ⟨hvalid, ?_⟩
      have hbegun := Begun.redelivered (X := X) existing hget hsame
      rwa [← hlease, rebind_self hget] at hbegun
    · simp only [hlease, not_false_eq_true, if_true, ok_rules, Prod.mk.injEq, validate_ok_iff] at h
      obtain ⟨hvalid', rfl, rfl⟩ := h
      exact ⟨hvalid', Begun.redelivered existing hget hsame⟩
  | none =>
    simp only [hget, receiveNew, ok_rules, ne_eq, not_not, checkedAdd_eq_some, Prod.mk.injEq,
      validate_ok_iff] at h
    obtain ⟨expected, ⟨rfl, -⟩, hsequence, fenced, hfence, hvalid', rfl, rfl⟩ := h
    exact ⟨hvalid', Begun.received fenced hget hsequence hfence⟩

/-- The two ways in which a command is completed: with the outcome it already has, or anew. -/
inductive Completed (journal : CommandJournal) (commandId : Uuid) (completion : JournalCompletion) :
    NodeCommandAck → CommandJournal → Prop
  | replayed (entry : JournalEntry) (existing : JournalCompletion)
      (hget : journal.entries.get? commandId = some entry)
      (hcompletion : entry.completion = some existing)
      (houtcome : existing.outcome = completion.outcome) :
      Completed journal commandId completion (report entry.envelope existing) journal
  | recorded (entry : JournalEntry) (hget : journal.entries.get? commandId = some entry)
      (hcompletion : entry.completion = none) :
      Completed journal commandId completion (report entry.envelope completion)
        (journal.complete commandId completion)

theorem completeSync_ok {nodeId : Uuid} {completedAt : ℤ} {outcome : NodeCommandOutcome}
    (h : completeSync X nodeId journal commandId completedAt outcome =
      .ok (acknowledgement, journal')) :
    journal.nodeId = nodeId ∧ journal.Valid X ∧ journal'.Valid X ∧
      Completed journal commandId ⟨completedAt, outcome⟩ acknowledgement journal' := by
  simp only [completeSync, ok_rules, readJournal_ok_iff] at h
  obtain ⟨⟨hjournal, hvalid⟩, entry, hget, h⟩ := h
  refine ⟨hjournal, hvalid, ?_⟩
  cases hcompletion : entry.completion with
  | some existing =>
    simp only [hcompletion, ok_rules, ne_eq, not_not, acknowledgement_ok_iff, Prod.mk.injEq] at h
    obtain ⟨houtcome, ack?, ⟨rfl, -⟩, ack, hack, rfl, rfl⟩ := h
    rw [Option.map_some, Option.some.injEq] at hack
    subst hack
    exact ⟨hvalid, Completed.replayed entry existing hget hcompletion houtcome⟩
  | none =>
    simp only [hcompletion, ok_rules, acknowledgement_ok_iff, Prod.mk.injEq, validate_ok_iff] at h
    obtain ⟨ack?, ⟨rfl, -⟩, ack, hack, hvalid', rfl, rfl⟩ := h
    rw [JournalEntry.complete, Option.map_some, Option.some.injEq] at hack
    subst hack
    exact ⟨hvalid', Completed.recorded entry hget hcompletion⟩

theorem markAcknowledgedSync_ok {nodeId : Uuid} {receipt : NodeCommandAckReceipt}
    (h : markAcknowledgedSync X nodeId journal receipt = .ok journal') :
    journal.nodeId = nodeId ∧ journal.Valid X ∧ journal'.Valid X ∧
      ∃ entry, journal.entries.get? receipt.commandId = some entry ∧ entry.completion ≠ none ∧
        journal' = { journal.acknowledge receipt.commandId with
          lastAcknowledgedSequence :=
            (journal.acknowledge receipt.commandId).contiguousAcknowledgedSequence } := by
  simp only [markAcknowledgedSync, ok_rules, readJournal_ok_iff, validate_ok_iff] at h
  obtain ⟨-, -, ⟨hjournal, hvalid⟩, entry, hget, hcompletion, hvalid', rfl⟩ := h
  exact ⟨hjournal, hvalid, hvalid', entry, hget, hcompletion, rfl⟩

/-! ### Entries in sequence order -/

theorem bySequence_of_pairwise (h : entries.Pairwise (fun a b => a.sequence < b.sequence)) :
    bySequence entries = entries :=
  Pairwise.insertionSort_eq (h.imp fun hab => le_of_lt hab)

namespace CommandJournal

def Ordered (journal : CommandJournal) : Prop :=
  journal.entries.rows.Pairwise (fun a b => a.sequence < b.sequence)

variable {journal fenced : CommandJournal} {f : JournalEntry → JournalEntry}
  {envelope : NodeCommandEnvelope}

theorem Ordered.bySequence (h : journal.Ordered) :
    A3SCloud.bySequence journal.entries.rows = journal.entries.rows :=
  bySequence_of_pairwise h

/-- A change of entries that keeps their sequences keeps their order. -/
theorem ordered_mapRows {rows : List JournalEntry}
    (hf : ∀ entry, (f entry).sequence = entry.sequence)
    (h : rows.Pairwise (fun a b => a.sequence < b.sequence)) :
    (rows.map f).Pairwise (fun a b => a.sequence < b.sequence) := by
  rw [pairwise_map]
  simpa only [hf] using h

theorem sequence_modify (hf : ∀ entry, (f entry).sequence = entry.sequence) (entry : JournalEntry) :
    (if entry.commandId = commandId then f entry else entry).sequence = entry.sequence := by
  split_ifs
  · exact hf entry
  · rfl

theorem Ordered.rebind (h : journal.Ordered) (commandId leaseId : Uuid) :
    (journal.rebind commandId leaseId).Ordered :=
  ordered_mapRows (sequence_modify fun _ => rfl) h

theorem Ordered.complete (h : journal.Ordered) (commandId : Uuid) (completion : JournalCompletion) :
    (journal.complete commandId completion).Ordered :=
  ordered_mapRows (sequence_modify fun _ => rfl) h

theorem Ordered.acknowledge (h : journal.Ordered) (commandId : Uuid) :
    (journal.acknowledge commandId).Ordered :=
  ordered_mapRows (sequence_modify fun _ => rfl) h

theorem Valid.sequence_le (h : journal.Valid X) {entry : JournalEntry}
    (hentry : entry ∈ journal.entries.rows) :
    1 ≤ entry.sequence ∧ entry.sequence ≤ journal.lastReceivedSequence :=
  (h.gapless entry.sequence).1 (mem_map_of_mem hentry)

theorem rows_receive (hfence : journal.applyFence X envelope = .ok fenced)
    (hget : journal.entries.get? envelope.commandId = none) :
    (fenced.receive envelope).entries.rows = journal.entries.rows ++ [.received envelope] := by
  have hentries := (applyFence_frame hfence).2.2.2.2
  rw [receive, hentries]
  exact rows_insert_of_none hget

theorem Ordered.receive (hvalid : journal.Valid X) (h : journal.Ordered)
    (hget : journal.entries.get? envelope.commandId = none)
    (hsequence : envelope.sequence = journal.lastReceivedSequence + 1)
    (hfence : journal.applyFence X envelope = .ok fenced) : (fenced.receive envelope).Ordered := by
  rw [Ordered, rows_receive hfence hget, pairwise_append]
  refine ⟨h, pairwise_singleton _ _, fun a ha b hb => ?_⟩
  rw [mem_singleton] at hb
  subst hb
  have hle := (hvalid.sequence_le ha).2
  show a.sequence < envelope.sequence
  omega

theorem sequences_eq_range (hvalid : journal.Valid X) (h : journal.Ordered) :
    journal.entries.rows.map JournalEntry.sequence =
      range' 1 journal.lastReceivedSequence := by
  have hrows : (journal.entries.rows.map JournalEntry.sequence).Pairwise (· ≤ ·) := by
    rw [pairwise_map]
    exact h.imp le_of_lt
  have hperm : (journal.entries.rows.map JournalEntry.sequence).Perm
      (range' 1 journal.lastReceivedSequence) := by
    refine (perm_ext_iff_of_nodup hvalid.nodup nodup_range').2 fun s => ?_
    rw [hvalid.gapless s, mem_range'_1]
    omega
  exact hperm.eq_of_pairwise (fun a b _ _ => le_antisymm) hrows pairwise_le_range'

end CommandJournal

theorem Begun.ordered (h : Begun (X := X) journal envelope decision journal')
    (hvalid : journal.Valid X) (hordered : journal.Ordered) : journal'.Ordered := by
  cases h with
  | redelivered => exact hordered.rebind _ _
  | received fenced hget hsequence hfence => exact hordered.receive hvalid hget hsequence hfence

theorem Completed.ordered (h : Completed journal commandId completion acknowledgement journal')
    (hordered : journal.Ordered) : journal'.Ordered := by
  cases h with
  | replayed => exact hordered
  | recorded => exact hordered.complete _ _

theorem Begun.entry (h : Begun (X := X) journal envelope decision journal') :
    ∃ entry, journal'.entries.get? envelope.commandId = some entry ∧ entry.envelope = envelope ∧
      decision = decisionFor envelope entry.completion := by
  cases h with
  | redelivered existing hget hsame =>
    refine ⟨existing.rebind envelope.leaseId, ?_, hsame, rfl⟩
    rw [CommandJournal.rebind, get?_modify, if_pos rfl, hget, Option.map_some]
  | received =>
    refine ⟨.received envelope, ?_, rfl, rfl⟩
    rw [CommandJournal.receive, get?_insert]
    exact if_pos rfl

theorem Begun.nodeId (h : Begun (X := X) journal envelope decision journal') :
    journal'.nodeId = journal.nodeId := by
  cases h with
  | redelivered => rfl
  | received fenced hget hsequence hfence => exact (applyFence_frame hfence).2.1

theorem Completed.nodeId (h : Completed journal commandId completion acknowledgement journal') :
    journal'.nodeId = journal.nodeId := by
  cases h with
  | replayed | recorded => rfl

theorem decisionFor_eq_execute {completion : Option JournalCompletion}
    (h : .execute = decisionFor envelope completion) : completion = none := by
  cases completion with
  | none => rfl
  | some => cases h

theorem CommandJournal.valid_empty {nodeId : Uuid} (h : nodeId ≠ 0) :
    (CommandJournal.empty nodeId).Valid X where
  schema := rfl
  nodeId := h
  acknowledged := le_refl _
  entries := by simp [CommandJournal.empty]
  nodup := by simp [CommandJournal.empty]
  gapless := by
    intro sequence
    simp only [CommandJournal.empty, rows_empty, map_nil, not_mem_nil, false_iff]
    omega
  contiguous := rfl
  generations := by simp [CommandJournal.empty]
  claims := ⟨_, rfl⟩
  codeRuns := ⟨_, rfl⟩
  providerRuns := ⟨_, rfl⟩

theorem CommandJournal.ordered_empty (nodeId : Uuid) : (CommandJournal.empty nodeId).Ordered :=
  Pairwise.nil

/-! ### What an entry keeps -/

/-- An entry at a later time: it may have another lease, a completion it did not have, and the mark
of its acknowledgement. -/
structure KeepsEntry (entry entry' : JournalEntry) : Prop where
  envelope : ∃ leaseId, entry'.envelope = entry.envelope.withLease leaseId
  completion : ∀ completion, entry.completion = some completion →
    entry'.completion = some completion

theorem KeepsEntry.refl (entry : JournalEntry) : KeepsEntry entry entry :=
  ⟨⟨entry.envelope.leaseId, rfl⟩, fun _ h => h⟩

theorem KeepsEntry.trans {a b c : JournalEntry} (hab : KeepsEntry a b) (hbc : KeepsEntry b c) :
    KeepsEntry a c := by
  obtain ⟨l, hl⟩ := hab.envelope
  obtain ⟨l', hl'⟩ := hbc.envelope
  refine ⟨⟨l', ?_⟩, fun completion h => hbc.completion completion (hab.completion completion h)⟩
  rw [hl', hl]
  rfl

/-- Every entry of a journal is kept in a later one. -/
def KeepsEntries (journal journal' : CommandJournal) : Prop :=
  ∀ commandId entry, journal.entries.get? commandId = some entry →
    ∃ entry', journal'.entries.get? commandId = some entry' ∧ KeepsEntry entry entry'

theorem KeepsEntries.refl (journal : CommandJournal) : KeepsEntries journal journal :=
  fun _ entry h => ⟨entry, h, KeepsEntry.refl entry⟩

theorem KeepsEntries.trans {a b c : CommandJournal} (hab : KeepsEntries a b)
    (hbc : KeepsEntries b c) : KeepsEntries a c := by
  intro commandId entry hget
  obtain ⟨entry', hget', hkept⟩ := hab commandId entry hget
  obtain ⟨entry'', hget'', hkept'⟩ := hbc commandId entry' hget'
  exact ⟨entry'', hget'', hkept.trans hkept'⟩

theorem keepsEntries_modify {f : JournalEntry → JournalEntry}
    (hf : ∀ entry, (f entry).commandId = entry.commandId)
    (hentries : journal'.entries = journal.entries.modify commandId f hf)
    (hkeeps : ∀ entry, journal.entries.get? commandId = some entry → KeepsEntry entry (f entry)) :
    KeepsEntries journal journal' := by
  intro id entry hget
  rw [hentries, get?_modify]
  by_cases hid : id = commandId
  · subst hid
    exact ⟨f entry, by rw [if_pos rfl, hget, Option.map_some], hkeeps entry hget⟩
  · exact ⟨entry, by rw [if_neg hid, hget], KeepsEntry.refl entry⟩

theorem Begun.keeps (h : Begun (X := X) journal envelope decision journal') :
    KeepsEntries journal journal' := by
  cases h with
  | redelivered =>
    exact keepsEntries_modify (commandId_rebind _) rfl fun entry _ =>
      ⟨⟨envelope.leaseId, rfl⟩, fun _ h => h⟩
  | received fenced hget hsequence hfence =>
    intro id entry hentry
    refine ⟨entry, ?_, KeepsEntry.refl entry⟩
    rw [CommandJournal.receive, get?_insert, (applyFence_frame hfence).2.2.2.2]
    have hne : id ≠ (JournalEntry.received envelope).commandId := by
      rintro rfl
      rw [show (JournalEntry.received envelope).commandId = envelope.commandId from rfl, hget]
        at hentry
      cases hentry
    rw [if_neg hne, hentry]

theorem Completed.keeps (h : Completed journal commandId completion acknowledgement journal') :
    KeepsEntries journal journal' := by
  cases h with
  | replayed => exact KeepsEntries.refl journal
  | recorded entry hget hcompletion =>
    refine keepsEntries_modify (commandId_complete _) rfl fun entry' hentry' => ?_
    rw [hget, Option.some.injEq] at hentry'
    subst hentry'
    refine ⟨⟨entry.envelope.leaseId, rfl⟩, fun c hc => ?_⟩
    rw [hcompletion] at hc
    cases hc

theorem CommandJournal.keeps_acknowledge (journal : CommandJournal) (commandId : Uuid) :
    KeepsEntries journal (journal.acknowledge commandId) :=
  keepsEntries_modify commandId_acknowledge rfl fun entry _ =>
    ⟨⟨entry.envelope.leaseId, rfl⟩, fun _ h => h⟩

/-! ### Completing the last command -/

namespace CommandJournal

variable {journal : CommandJournal} {entries : List JournalEntry}

/-- The acknowledged sequence depends on the sequences and the acknowledged marks only. -/
theorem contiguous_of_map {f : JournalEntry → JournalEntry}
    (hrows : journal'.entries.rows = journal.entries.rows.map f)
    (hf : ∀ entry, (f entry).sequence = entry.sequence ∧
      (f entry).acknowledged = entry.acknowledged) :
    journal'.contiguousAcknowledgedSequence = journal.contiguousAcknowledgedSequence := by
  unfold contiguousAcknowledgedSequence
  rw [hrows, length_map]
  congr 1
  funext sequence
  rw [any_map]
  congr 1
  funext entry
  simp only [Function.comp_apply, (hf entry).1, (hf entry).2]

theorem rows_complete (journal : CommandJournal) (commandId : Uuid)
    (completion : JournalCompletion) :
    (journal.complete commandId completion).entries.rows = journal.entries.rows.map
      (fun entry => if entry.commandId = commandId then entry.complete completion else entry) := rfl

variable {entry : JournalEntry}

/-- One entry of a list without repetitions is completed. -/
theorem map_complete_split {l front back : List JournalEntry}
    (hnodup : (l.map JournalEntry.commandId).Nodup) (hl : l = front ++ entry :: back)
    (completion : JournalCompletion) :
    l.map (fun e => if e.commandId = entry.commandId then e.complete completion else e) =
      front ++ entry.complete completion :: back := by
  subst hl
  rw [map_append, map_cons, nodup_append, nodup_cons] at hnodup
  have hsame : ∀ rest : List JournalEntry, (∀ e ∈ rest, e.commandId ≠ entry.commandId) →
      rest.map (fun e => if e.commandId = entry.commandId then e.complete completion else e) =
        rest := by
    intro rest hrest
    conv_rhs => rw [← map_id rest]
    exact map_congr_left fun e he => if_neg (hrest e he)
  rw [map_append, map_cons, if_pos rfl, hsame front, hsame back]
  · exact fun e he heq => hnodup.2.1.1 (heq ▸ mem_map_of_mem he)
  · exact fun e he heq => hnodup.2.2 _ (mem_map_of_mem he) _ mem_cons_self heq

theorem rows_complete_last
    (hrows : journal.entries.rows = entries ++ [entry]) (completion : JournalCompletion) :
    (journal.complete entry.commandId completion).entries.rows =
      entries ++ [entry.complete completion] :=
  map_complete_split journal.entries.nodup hrows completion

theorem applyCodeRun_of_none (h : entry.success? = none)
    (bindings : Table NodeCodeAgentRuntimeBinding.executionId) :
    applyCodeRun X bindings entry = .ok bindings := by
  unfold applyCodeRun
  rw [h]
  split
  all_goals first | rfl | simp_all

theorem applyProviderRun_of_none (h : entry.success? = none)
    (bindings : Table NodeAgentProviderRuntimeBinding.executionId) :
    applyProviderRun X bindings entry = .ok bindings := by
  unfold applyProviderRun
  rw [h]
  split
  all_goals first | rfl | simp_all

/-- One more round finds nothing when the sequence it would look at is not acknowledged. -/
theorem contiguousFrom_succ {acknowledged : ℕ → Bool} {rounds sequence : ℕ}
    (h : acknowledged (sequence + rounds + 1) = false) :
    contiguousFrom acknowledged (rounds + 1) sequence =
      contiguousFrom acknowledged rounds sequence := by
  induction rounds generalizing sequence with
  | zero => simp only [contiguousFrom, show acknowledged (sequence + 1) = false from h]; rfl
  | succ rounds ih =>
    rw [contiguousFrom]
    conv_rhs => rw [contiguousFrom]
    by_cases hnext : acknowledged (sequence + 1) = true
    · rw [if_pos hnext, if_pos hnext]
      refine ih ?_
      rw [← h]
      congr 1
      omega
    · rw [if_neg hnext, if_neg hnext]

theorem Valid.length_rows (h : journal.Valid X) :
    journal.entries.rows.length = journal.lastReceivedSequence := by
  have heq : (journal.entries.rows.map JournalEntry.sequence).toFinset =
      Finset.Icc 1 journal.lastReceivedSequence := by
    ext sequence
    rw [mem_toFinset, h.gapless, Finset.mem_Icc]
  have hcard := toFinset_card_of_nodup h.nodup
  rw [heq, Nat.card_Icc, length_map] at hcard
  omega

/-- A journal stays valid when it receives the next command, if the replay of the claims accepts
the open entry. -/
theorem Valid.receive {fenced : CommandJournal} (h : journal.Valid X) (hordered : journal.Ordered)
    (henvelope : envelope.Valid X) (hnode : envelope.nodeId = journal.nodeId)
    (hget : journal.entries.get? envelope.commandId = none)
    (hsequence : envelope.sequence = journal.lastReceivedSequence + 1)
    (hfence : journal.applyFence X envelope = .ok fenced)
    (hdigest : ∀ digest, stateMutationDigest X envelope.payload = .ok (some digest) →
      isSha256 digest = true)
    (hclaims : ∀ before, projectEntries X journal.entries.rows = .ok before →
      ∃ after, before.apply X (.received envelope) = .ok after) :
    (fenced.receive envelope).Valid X := by
  have hrows := rows_receive hfence hget
  have hordered' := hordered.receive h hget hsequence hfence
  obtain ⟨hschema, hnodeId, hreceived, hacknowledged, hentries⟩ := applyFence_frame hfence
  have hlast : (fenced.receive envelope).lastReceivedSequence = journal.lastReceivedSequence + 1 :=
    hsequence
  have hsequences : (fenced.receive envelope).entries.rows.map JournalEntry.sequence =
      journal.entries.rows.map JournalEntry.sequence ++ [journal.lastReceivedSequence + 1] := by
    rw [hrows, map_append, map_singleton, ← hsequence]
    rfl
  have hfresh : journal.lastReceivedSequence + 1 ∉
      journal.entries.rows.map JournalEntry.sequence := by
    rw [h.gapless]
    omega
  refine ⟨hschema.trans h.schema, ?_, ?_, ?_, ?_, ?_, ?_, ?_, ?_, ?_, ?_⟩
  · exact fun hzero => h.nodeId (hnodeId.symm.trans hzero)
  · have hle := h.acknowledged
    rw [hlast]
    show fenced.lastAcknowledgedSequence ≤ _
    omega
  · intro entry hentry
    rw [hrows, mem_append, mem_singleton] at hentry
    rw [show (fenced.receive envelope).nodeId = journal.nodeId from hnodeId]
    rcases hentry with hentry | rfl
    · exact h.entries entry hentry
    · refine ⟨henvelope, hnode, fun hack => ?_, fun completion hcompletion => ?_⟩
      · cases hack
      · cases hcompletion
  · rw [hsequences, nodup_append]
    refine ⟨h.nodup, nodup_singleton _, fun a ha b hb hab => hfresh ?_⟩
    rw [mem_singleton] at hb
    rwa [← hb, ← hab]
  · intro sequence
    rw [hsequences, hlast, mem_append, h.gapless, mem_singleton]
    omega
  · have hany : ∀ sequence, (fenced.receive envelope).entries.rows.any
        (fun entry => entry.sequence = sequence && entry.acknowledged) =
          journal.entries.rows.any (fun entry => entry.sequence = sequence && entry.acknowledged) := by
      intro sequence
      rw [hrows, any_append]
      simp [JournalEntry.received]
    have hend : journal.entries.rows.any (fun entry =>
        entry.sequence = 0 + journal.entries.rows.length + 1 && entry.acknowledged) = false := by
      rw [any_eq_false]
      intro entry hentry
      have hle := (h.sequence_le hentry).2
      rw [← h.length_rows] at hle
      simp only [Bool.and_eq_true, decide_eq_true_eq, not_and]
      omega
    rw [show (fenced.receive envelope).lastAcknowledgedSequence =
      journal.lastAcknowledgedSequence from hacknowledged, ← h.contiguous]
    unfold contiguousAcknowledgedSequence
    simp only [hany]
    rw [hrows, length_append, length_singleton]
    exact contiguousFrom_succ hend
  · intro current hcurrent
    rcases applyFence_ok hfence with ⟨-, rfl⟩ | ⟨digest, hmutation, -, rfl⟩
    · exact h.generations current hcurrent
    · rcases mem_insert.1 hcurrent with rfl | ⟨hcurrent, -⟩
      · exact ⟨henvelope.generation, hdigest digest hmutation⟩
      · exact h.generations current hcurrent
  · obtain ⟨projection, hprojection⟩ := h.claims
    rw [resourceClaimProjection, hordered.bySequence] at hprojection
    obtain ⟨after, hafter⟩ := hclaims projection hprojection
    refine ⟨after, ?_⟩
    rw [resourceClaimProjection, hordered'.bySequence, hrows, projectEntries_concat_ok]
    exact ⟨projection, hprojection, hafter⟩
  · obtain ⟨bindings, hbindings⟩ := h.codeRuns
    refine ⟨bindings, ?_⟩
    rw [codeRunBindingsProjection, hordered.bySequence] at hbindings
    rw [codeRunBindingsProjection, hordered'.bySequence, hrows, foldlM_append, bind_ok_iff]
    refine ⟨bindings, hbindings, ?_⟩
    rw [foldlM_cons, applyCodeRun_of_none rfl]
    rfl
  · obtain ⟨bindings, hbindings⟩ := h.providerRuns
    refine ⟨bindings, ?_⟩
    rw [providerRunBindingsProjection, hordered.bySequence] at hbindings
    rw [providerRunBindingsProjection, hordered'.bySequence, hrows, foldlM_append, bind_ok_iff]
    refine ⟨bindings, hbindings, ?_⟩
    rw [foldlM_cons, applyProviderRun_of_none rfl]
    rfl

/-- A journal stays valid when a command is completed with an acknowledgeable outcome that the
replays accept. -/
theorem Valid.complete (h : journal.Valid X) (hentry : entry ∈ journal.entries.rows)
    (hack : (report entry.envelope completion).validateAgainst X entry.envelope =
      .ok ())
    (hclaims : ∃ projection,
      (journal.complete entry.commandId completion).resourceClaimProjection X = .ok projection)
    (hcode : ∃ bindings,
      (journal.complete entry.commandId completion).codeRunBindingsProjection X = .ok bindings)
    (hprovider : ∃ bindings,
      (journal.complete entry.commandId completion).providerRunBindingsProjection X = .ok bindings) :
    (journal.complete entry.commandId completion).Valid X := by
  have hsequences : (journal.complete entry.commandId completion).entries.rows.map
      JournalEntry.sequence = journal.entries.rows.map JournalEntry.sequence := by
    rw [rows_complete, map_map]
    exact map_congr_left fun e _ => sequence_modify (f := JournalEntry.complete completion)
      (fun _ => rfl) e
  refine ⟨h.schema, h.nodeId, h.acknowledged, ?_, ?_, ?_, ?_, h.generations, hclaims, hcode,
    hprovider⟩
  · intro e' he'
    rw [rows_complete, mem_map] at he'
    obtain ⟨e, he, rfl⟩ := he'
    split_ifs with hid
    · rw [journal.entries.eq_of_key_eq he hentry hid]
      have hvalid := h.entries entry hentry
      refine ⟨hvalid.envelope, hvalid.nodeId, fun _ => by simp [JournalEntry.complete], ?_⟩
      intro c hc
      cases hc
      exact hack
    · exact h.entries e he
  · rw [hsequences]
    exact h.nodup
  · intro sequence
    rw [hsequences]
    exact h.gapless sequence
  · refine (contiguous_of_map rfl fun e => ?_).trans h.contiguous
    split_ifs
    · exact ⟨rfl, rfl⟩
    · exact ⟨rfl, rfl⟩

/-- The last command is completed. -/
theorem Valid.complete_last (h : journal.Valid X) (hordered : journal.Ordered)
    (hrows : journal.entries.rows = entries ++ [entry])
    (hack : (report entry.envelope completion).validateAgainst X entry.envelope = .ok ())
    (hclaims : ∀ before, projectEntries X entries = .ok before →
      ∃ after, before.apply X (entry.complete completion) = .ok after)
    (hcode : ∀ bindings, ∃ bindings', applyCodeRun X bindings (entry.complete completion) =
      .ok bindings')
    (hprovider : ∀ bindings, entries.foldlM (applyProviderRun X) Table.empty = .ok bindings →
      ∃ bindings', applyProviderRun X bindings (entry.complete completion) = .ok bindings') :
    (journal.complete entry.commandId completion).Valid X := by
  have hrows' := rows_complete_last hrows completion
  have hordered' := hordered.complete entry.commandId completion
  refine h.complete (by rw [hrows]; simp) hack ?_ ?_ ?_
  · obtain ⟨projection, hprojection⟩ := h.claims
    rw [resourceClaimProjection, hordered.bySequence, hrows, projectEntries_concat_ok] at hprojection
    obtain ⟨before, hbefore, -⟩ := hprojection
    obtain ⟨after, hafter⟩ := hclaims before hbefore
    refine ⟨after, ?_⟩
    rw [resourceClaimProjection, hordered'.bySequence, hrows', projectEntries_concat_ok]
    exact ⟨before, hbefore, hafter⟩
  · obtain ⟨bindings, hbindings⟩ := h.codeRuns
    rw [codeRunBindingsProjection, hordered.bySequence, hrows, foldlM_append, bind_ok_iff]
      at hbindings
    obtain ⟨before, hbefore, -⟩ := hbindings
    obtain ⟨after, hafter⟩ := hcode before
    refine ⟨after, ?_⟩
    rw [codeRunBindingsProjection, hordered'.bySequence, hrows', foldlM_append, bind_ok_iff]
    exact ⟨before, hbefore, by simp [hafter]⟩
  · obtain ⟨bindings, hbindings⟩ := h.providerRuns
    rw [providerRunBindingsProjection, hordered.bySequence, hrows, foldlM_append, bind_ok_iff]
      at hbindings
    obtain ⟨before, hbefore, -⟩ := hbindings
    obtain ⟨after, hafter⟩ := hprovider before hbefore
    refine ⟨after, ?_⟩
    rw [providerRunBindingsProjection, hordered'.bySequence, hrows', foldlM_append,
      bind_ok_iff]
    exact ⟨before, hbefore, by simp [hafter]⟩

end CommandJournal

/-- A completion is accepted when it can be acknowledged and leaves a valid journal. -/
theorem completeSync_recorded {nodeId : Uuid} {entry : JournalEntry}
    (hnode : journal.nodeId = nodeId) (hvalid : journal.Valid X)
    (hget : journal.entries.get? entry.commandId = some entry) (hnone : entry.completion = none)
    (hack : (report entry.envelope completion).validateAgainst X entry.envelope =
      .ok ()) (hvalid' : (journal.complete entry.commandId completion).Valid X) :
    completeSync X nodeId journal entry.commandId completion.completedAt completion.outcome =
      .ok (report entry.envelope completion,
        journal.complete entry.commandId completion) := by
  simp only [completeSync, ok_rules, readJournal_ok_iff]
  refine ⟨⟨hnode, hvalid⟩, entry, hget, ?_⟩
  simp only [hnone, ok_rules, acknowledgement_ok_iff, validate_ok_iff]
  refine ⟨_, ⟨rfl, ?_⟩, _, rfl, hvalid', rfl⟩
  intro c hc
  cases hc
  exact hack

/-- The next command is begun when its fence and the replay of the claims accept it. -/
theorem beginSync_received {nodeId : Uuid} {fenced : CommandJournal}
    (hnode : journal.nodeId = nodeId) (hvalid : journal.Valid X) (henvelope : envelope.Valid X)
    (henvelopeNode : envelope.nodeId = nodeId)
    (hget : journal.entries.get? envelope.commandId = none)
    (hsequence : envelope.sequence = journal.lastReceivedSequence + 1)
    (hbound : envelope.sequence < 2 ^ 64) (hfence : journal.applyFence X envelope = .ok fenced)
    (hvalid' : (fenced.receive envelope).Valid X) :
    beginSync X nodeId journal envelope = .ok (.execute, fenced.receive envelope) := by
  simp only [beginSync, ok_rules, ne_eq, not_not, NodeCommandEnvelope.validate_ok_iff,
    readJournal_ok_iff]
  refine ⟨henvelope, henvelopeNode, ⟨hnode, hvalid⟩, ?_⟩
  simp only [hget, receiveNew, ok_rules, ne_eq, not_not, checkedAdd_eq_some, validate_ok_iff]
  exact ⟨_, ⟨rfl, by omega⟩, hsequence, fenced, hfence, hvalid', rfl⟩

end A3SCloud
