import A3SCloud.Fleet.Queue
import A3SCloud.NodeAgent.JournalSpec

/-!
# Two fences for one generation

Both ends keep a Runtime generation to one content. The control plane compares the specification of
a new apply with that of an earlier one, the journal of the node compares whole commands once a
resource claim is bound.

* `AdmittedApplies` is what holds of the applies that the control plane has accepted for a node, and
  `admittedApplies_enqueueAll` that it accepts no others.
* `FencesDelivered` is what the journal has fenced after it has executed some of them.
* `apply_begun_iff`: the journal begins the next one exactly when it agrees with the earlier ones of
  its generation, which unbound applies always do.
* `reissued_apply_refused`: a bound apply that is issued anew with another deadline is refused.
-/

namespace A3SCloud

open Checks List CommandJournal NodeCommand Sample

variable (X : External)

/-! ### The commands that are accepted -/

namespace NodeCommand

/-- The digest of the specification of an apply. -/
def specDigest? (command : NodeCommand) : Option (Except String DigestText) :=
  match command.payload with
  | .runtimeApply request _ => some (X.specDigest request.spec)
  | _ => none

end NodeCommand

namespace NodeControl

/-- Drafts that are enqueued one after the other, with the commands that are new. -/
def enqueueAll (control : NodeControl) :
    List NodeCommandDraft → Except RepositoryError (List NodeCommand × NodeControl)
  | [] => .ok ([], control)
  | draft :: drafts => do
    let (write, control) ← control.enqueueCommand X draft
    let (commands, control) ← enqueueAll control drafts
    pure (if write.replayed then commands else write.value :: commands, control)

end NodeControl

/-- One accepted apply for a node. -/
structure AdmittedApply (nodeId : Uuid) (command : NodeCommand) : Prop where
  issued : command.Issued X
  nodeId : command.nodeId = nodeId
  bound : command.sequence < 2 ^ 64
  spec : ∃ digest, command.specDigest? X = some (.ok digest)

/-- An earlier and a later accepted apply: within an aggregate the generation does not fall, and
within a generation the specification stays. -/
structure AppliesInOrder (earlier later : NodeCommand) : Prop where
  generation : earlier.generation ≤ later.generation
  spec : earlier.generation = later.generation → earlier.specDigest? X = later.specDigest? X

/-- The applies that were accepted for a node, in this order. -/
structure AdmittedApplies (nodeId : Uuid) (commands : List NodeCommand) : Prop where
  each : ∀ command ∈ commands, AdmittedApply X nodeId command
  sequences : ∀ before command after, commands = before ++ command :: after →
    command.sequence = before.length + 1
  ids : (commands.map NodeCommand.id).Nodup
  inOrder : commands.Pairwise (fun earlier later =>
    earlier.aggregateId = later.aggregateId → AppliesInOrder X earlier later)

/-- The queue of a node consists of these commands. -/
structure NodeControl.Holds (control : NodeControl) (nodeId : Uuid) (commands : List NodeCommand) :
    Prop where
  stored : ∀ stored ∈ control.commands.rows, stored.command.nodeId = nodeId →
    stored.command ∈ commands
  rows : ∀ command ∈ commands, ∃ stored ∈ control.commands.rows, stored.command = command
  lastSequence : ∀ node, control.nodes.get? nodeId = some node →
    node.lastSequence = commands.length

section

variable {X} {nodeId : Uuid} {command : NodeCommand}

/-- The generation and the kind of an accepted apply are those of its payload. -/
theorem AdmittedApply.payload (h : AdmittedApply X nodeId command) :
    ∃ request resourceClaim digest, command.payload = .runtimeApply request resourceClaim ∧
      X.specDigest request.spec = .ok digest := by
  obtain ⟨digest, hspec⟩ := h.spec
  unfold specDigest? at hspec
  split at hspec
  next request resourceClaim hpayload =>
    exact ⟨request, resourceClaim, digest, hpayload, Option.some.inj hspec⟩
  next => cases hspec

variable {commands before after : List NodeCommand} {a b : NodeCommand} {control' : NodeControl}
  {journal journal' : CommandJournal} {leaseId : Uuid} {decision : JournalDecision}

/-- The accepted applies of one generation have one specification. -/
theorem AdmittedApplies.spec_eq (h : AdmittedApplies X nodeId commands)
    (ha : a ∈ commands) (hb : b ∈ commands) (haggregate : a.aggregateId = b.aggregateId)
    (hgeneration : a.generation = b.generation) : a.specDigest? X = b.specDigest? X := by
  have hall : commands.Pairwise (fun a b => a.aggregateId = b.aggregateId →
      a.generation = b.generation → a.specDigest? X = b.specDigest? X) :=
    h.inOrder.imp fun horder haggregate hgeneration => (horder haggregate).spec hgeneration
  have hsymm : Std.Symm (fun a b : NodeCommand => a.aggregateId = b.aggregateId →
      a.generation = b.generation → a.specDigest? X = b.specDigest? X) :=
    ⟨fun _ _ hab haggregate hgeneration => (hab haggregate.symm hgeneration.symm).symm⟩
  exact hall.forall_of_forall (fun _ _ _ _ => rfl) ha hb haggregate hgeneration

theorem AdmittedApplies.id_ne (h : AdmittedApplies X nodeId (before ++ command :: after)) :
    ∀ earlier ∈ before, earlier.id ≠ command.id := by
  intro earlier hearlier heq
  have hnodup := h.ids
  rw [map_append, map_cons, nodup_append] at hnodup
  exact hnodup.2.2 _ (mem_map_of_mem hearlier) _ mem_cons_self heq

variable {control : NodeControl}

theorem NodeControl.Fresh.holds (h : control.Fresh nodeId) : control.Holds nodeId [] where
  stored := fun stored hstored hnode => absurd hnode (h.commands stored hstored)
  rows := by simp
  lastSequence := h.node

theorem admittedApplies_nil (nodeId : Uuid) : AdmittedApplies X nodeId [] where
  each := by simp
  sequences := by simp
  ids := nodup_nil
  inOrder := Pairwise.nil

/-- A new command behind the accepted ones. -/
theorem AdmittedApplies.concat (h : AdmittedApplies X nodeId commands)
    (hcommand : AdmittedApply X nodeId command) (hsequence : command.sequence = commands.length + 1)
    (hid : ∀ earlier ∈ commands, earlier.id ≠ command.id)
    (horder : ∀ earlier ∈ commands, earlier.aggregateId = command.aggregateId →
      AppliesInOrder X earlier command) :
    AdmittedApplies X nodeId (commands ++ [command]) where
  each := by
    intro c hc
    rcases mem_append.1 hc with hc | hc
    · exact h.each c hc
    · rw [mem_singleton.1 hc]
      exact hcommand
  sequences := by
    intro before c after hsplit
    rcases eq_nil_or_concat' after with rfl | ⟨init, last, rfl⟩
    · obtain ⟨rfl, hlast⟩ := append_inj' hsplit rfl
      cases hlast
      exact hsequence
    · rw [← cons_append, ← append_assoc] at hsplit
      obtain ⟨hcommands, -⟩ := append_inj' hsplit rfl
      exact h.sequences before c init hcommands
  ids := by
    rw [map_append, map_singleton, nodup_append]
    refine ⟨h.ids, nodup_singleton _, fun a ha b hb hab => ?_⟩
    obtain ⟨earlier, hearlier, rfl⟩ := mem_map.1 ha
    exact hid earlier hearlier (hab.trans (mem_singleton.1 hb))
  inOrder := by
    rw [pairwise_append]
    refine ⟨h.inOrder, pairwise_singleton _ _, fun earlier hearlier later hlater => ?_⟩
    rw [mem_singleton.1 hlater]
    exact horder earlier hearlier

variable {request : RuntimeApplyRequest}

/-- One apply is enqueued: the accepted applies grow by it unless it was one of them. -/
theorem admittedApplies_enqueueCommand
    (hholds : control.Holds nodeId commands) (h : AdmittedApplies X nodeId commands)
    {draft : NodeCommandDraft} (hnode : draft.nodeId = nodeId)
    {resourceClaim : Option NodeResourceClaimBinding}
    (hdraft : draft.payload = .runtimeApply request resourceClaim)
    {write : IdempotentWrite NodeCommand}
    (henqueue : control.enqueueCommand X draft = .ok (write, control')) :
    control'.Holds nodeId (if write.replayed then commands else commands ++ [write.value]) ∧
      AdmittedApplies X nodeId (if write.replayed then commands else commands ++ [write.value]) := by
  cases NodeControl.enqueueCommand_ok henqueue with
  | replayed => exact ⟨hholds, h⟩
  | fresh node command hget hget' hstate hpayload hbound hissue =>
    obtain ⟨hissued, hid, hcommandNode, hsequence, haggregate, hcanonical⟩ :=
      issue_ok hissue
    rw [NodeControl.validatePayload, hdraft] at hpayload
    obtain ⟨digest, hdigest, hprior⟩ := NodeControl.validateApply_ok hpayload
    rw [hdraft] at hcanonical
    have hspec : command.specDigest? X = some (.ok digest) := by
      rw [specDigest?, hcanonical]
      exact congrArg some hdigest
    have hlast := hholds.lastSequence node (hnode ▸ hget')
    have hnew : ∀ stored ∈ control.commands.rows, stored.id ≠ command.id := by
      intro stored hstored heq
      have hnone := Table.get?_eq_none_iff.1 hget stored hstored
      exact hnone (heq.trans hid)
    simp only [Bool.false_eq_true, if_false]
    refine ⟨⟨?_, ?_, ?_⟩, h.concat ⟨hissued, hcommandNode.trans hnode, ?_, digest, hspec⟩ ?_ ?_ ?_⟩
    · intro stored hstored hstoredNode
      rcases Table.mem_insert.1 hstored with rfl | ⟨hstored, -⟩
      · exact mem_append_right _ (mem_singleton_self _)
      · exact mem_append_left _ (hholds.stored stored hstored hstoredNode)
    · intro c hc
      rcases mem_append.1 hc with hc | hc
      · obtain ⟨stored, hstored, hcommand⟩ := hholds.rows c hc
        exact ⟨stored, Table.mem_insert.2 (.inr ⟨hstored, hnew stored hstored⟩), hcommand⟩
      · rw [mem_singleton.1 hc]
        exact ⟨_, Table.mem_insert.2 (.inl rfl), rfl⟩
    · intro node' hnode'
      rw [← hnode, Table.get?_modify, if_pos rfl, hget', Option.map_some, Option.some.injEq]
        at hnode'
      rw [← hnode', length_append, length_singleton, ← hlast]
      rfl
    · omega
    · omega
    · intro earlier hearlier
      obtain ⟨stored, hstored, rfl⟩ := hholds.rows earlier hearlier
      exact hnew stored hstored
    · intro earlier hearlier hsame
      obtain ⟨stored, hstored, rfl⟩ := hholds.rows earlier hearlier
      have hearlierNode := (h.each _ hearlier).nodeId
      obtain ⟨_, _, _, hkind, -⟩ := (h.each _ hearlier).payload
      have hgeneration : command.generation = draft.payload.generation := by
        rw [generation, hcanonical, hdraft]
        rfl
      obtain ⟨hle, hfirst⟩ := hprior stored hstored (hearlierNode.trans hnode.symm)
        (hsame.trans haggregate) (by rw [kind, hkind]; rfl)
      rw [← hgeneration] at hle hfirst
      refine ⟨hle, fun heq => ?_⟩
      obtain ⟨first, hfirstRow, hfirstNode, hfirstAggregate, hfirstGeneration, firstRequest, _,
        hfirstPayload, hfirstDigest⟩ := hfirst heq
      have hmem := hholds.stored first hfirstRow (hfirstNode.trans hnode)
      rw [h.spec_eq hearlier hmem (hsame.trans (haggregate.trans hfirstAggregate.symm))
        (heq.trans hfirstGeneration.symm), hspec, specDigest?, hfirstPayload]
      exact congrArg some hfirstDigest

/-- **What the control plane accepts**, one apply after the other. -/
theorem admittedApplies_enqueueAll
    (hholds : control.Holds nodeId before) (h : AdmittedApplies X nodeId before)
    {drafts : List NodeCommandDraft} (hdrafts : ∀ draft ∈ drafts, draft.nodeId = nodeId ∧
      ∃ request resourceClaim, draft.payload = .runtimeApply request resourceClaim)
    (henqueue : control.enqueueAll X drafts = .ok (commands, control')) :
    control'.Holds nodeId (before ++ commands) ∧ AdmittedApplies X nodeId (before ++ commands) := by
  induction drafts generalizing control before commands with
  | nil =>
    cases henqueue
    rw [append_nil]
    exact ⟨hholds, h⟩
  | cons draft drafts ih =>
    simp only [NodeControl.enqueueAll, ok_rules, Prod.mk.injEq, Prod.exists]
      at henqueue
    obtain ⟨write, control₁, hwrite, rest, control₂, hrest, rfl, rfl⟩ := henqueue
    obtain ⟨hnode, request, resourceClaim, hdraft⟩ := hdrafts draft mem_cons_self
    obtain ⟨hholds₁, h₁⟩ := admittedApplies_enqueueCommand hholds h hnode hdraft hwrite
    have hmore := ih hholds₁ h₁ (fun d hd => hdrafts d (mem_cons_of_mem draft hd)) hrest
    cases hreplayed : write.replayed with
    | true => simpa only [hreplayed, if_true] using hmore
    | false =>
      simpa only [hreplayed, Bool.false_eq_true, if_false, append_assoc,
        singleton_append] using hmore

/-! ### The commands that are delivered -/

/-- A command as it is delivered under a lease, and the outcome it completes with. -/
structure Delivery where
  command : NodeCommand
  leaseId : Uuid
  completion : JournalCompletion

variable (X) in
/-- Commands that are delivered to a journal and completed one after the other. -/
def deliver (nodeId : Uuid) :
    CommandJournal → List Delivery → Except CommandJournalError CommandJournal
  | journal, [] => .ok journal
  | journal, delivery :: deliveries => do
    let envelope ← (delivery.command.envelope X delivery.leaseId).mapError .invalid
    let (_, journal) ← beginSync X nodeId journal envelope
    let (_, journal) ← completeSync X nodeId journal envelope.commandId
      delivery.completion.completedAt delivery.completion.outcome
    deliver nodeId journal deliveries

variable (X) in
/-- What a journal has fenced after it has executed these commands. -/
structure FencesDelivered (nodeId : Uuid) (journal : CommandJournal) (commands : List NodeCommand) :
    Prop where
  nodeId : journal.nodeId = nodeId
  valid : journal.Valid X
  ordered : journal.Ordered
  received : journal.lastReceivedSequence = commands.length
  entries : ∀ entry ∈ journal.entries.rows, ∃ command ∈ commands, entry.commandId = command.id
  fenced : ∀ command ∈ commands, ∃ current,
    journal.aggregateGenerations.get? command.aggregateId = some current ∧
      command.generation ≤ current.generation ∧ (command.generation = current.generation →
        stateMutationDigest X command.payload = .ok (some current.stateDigest))
  source : ∀ current ∈ journal.aggregateGenerations.rows, ∃ command ∈ commands,
    command.aggregateId = current.aggregateId ∧ command.generation = current.generation

theorem fencesDelivered_empty (h : nodeId ≠ 0) : FencesDelivered X nodeId (.empty nodeId) [] where
  nodeId := rfl
  valid := valid_empty h
  ordered := ordered_empty nodeId
  received := rfl
  entries := by simp [empty]
  fenced := by simp
  source := by simp [empty]

/-- A new command is begun by receiving it. -/
theorem FencesDelivered.received_of_begin (h : FencesDelivered X nodeId journal commands)
    (hid : ∀ earlier ∈ commands, earlier.id ≠ command.id)
    (hbegin : beginSync X nodeId journal (command.toEnvelope X leaseId) = .ok (decision, journal')) :
    ∃ fenced, journal.applyFence X (command.toEnvelope X leaseId) = .ok fenced ∧
      journal.entries.get? command.id = none ∧
      journal' = fenced.receive (command.toEnvelope X leaseId) := by
  obtain ⟨-, -, -, -, -, hbegun⟩ := beginSync_ok hbegin
  cases hbegun with
  | redelivered existing hget =>
    obtain ⟨hrow, hkey⟩ := Table.get?_eq_some_iff.1 hget
    obtain ⟨earlier, hearlier, heq⟩ := h.entries existing hrow
    exact absurd (heq.symm.trans hkey) (hid earlier hearlier)
  | received fenced hget hsequence hfence => exact ⟨fenced, hfence, hget, rfl⟩

theorem stateMutationDigest_unbound {digest : DigestText}
    (hdigest : X.specDigest request.spec = .ok digest) :
    stateMutationDigest X (.runtimeApply request none) = .ok (some digest) := by
  simp only [stateMutationDigest, ok_rules, Option.some.injEq]
  exact ⟨digest, hdigest, rfl⟩

theorem AdmittedApply.stateMutationDigest_bound (h : AdmittedApply X nodeId command)
    {binding : NodeResourceClaimBinding}
    (hpayload : command.payload = .runtimeApply request (some binding)) :
    stateMutationDigest X (.runtimeApply request (some binding)) =
      .ok (some (X.digest (.payload (.runtimeApply request (some binding))))) := by
  have hvalid := h.issued.payload
  rw [hpayload] at hvalid
  simp only [A3SCloud.stateMutationDigest, ok_rules, NodeCommandPayload.digest_ok_iff,
    Option.some.injEq]
  exact ⟨_, ⟨hvalid, rfl⟩, rfl⟩

/-- The content that the journal fences for an accepted apply. -/
theorem AdmittedApply.stateMutationDigest (h : AdmittedApply X nodeId command) :
    ∃ digest, stateMutationDigest X command.payload = .ok (some digest) ∧
      ((∀ spec digest, X.specDigest spec = .ok digest → isSha256 digest = true) →
        isSha256 digest = true) := by
  obtain ⟨request, resourceClaim, digest, hpayload, hdigest⟩ := h.payload
  rw [hpayload]
  cases resourceClaim with
  | none => exact ⟨digest, stateMutationDigest_unbound hdigest, fun hsha => hsha _ _ hdigest⟩
  | some binding => exact ⟨_, h.stateMutationDigest_bound hpayload, fun _ => rfl⟩

theorem FencesDelivered.receive (h : FencesDelivered X nodeId journal commands)
    (hcommand : AdmittedApply X nodeId command)
    (hid : ∀ earlier ∈ commands, earlier.id ≠ command.id)
    (hsequence : command.sequence = commands.length + 1)
    (hbegin : beginSync X nodeId journal (command.toEnvelope X leaseId) = .ok (decision, journal')) :
    FencesDelivered X nodeId journal' (commands ++ [command]) := by
  obtain ⟨-, -, -, -, hvalid', hbegun⟩ := beginSync_ok hbegin
  have hordered' := hbegun.ordered h.valid h.ordered
  have hnode' := hbegun.nodeId.trans h.nodeId
  obtain ⟨fenced, hfence, hget, rfl⟩ := h.received_of_begin hid hbegin
  have hrows := rows_receive hfence hget
  obtain ⟨digest, hdigest, -⟩ := hcommand.stateMutationDigest
  rcases applyFence_ok hfence with ⟨hnone, -⟩ | ⟨digest', hdigest', hcheck, rfl⟩
  · rw [show (command.toEnvelope X leaseId).payload = command.payload from rfl, hdigest] at hnone
    cases hnone
  · have hsame : digest' = digest := by
      rw [show (command.toEnvelope X leaseId).payload = command.payload from rfl, hdigest]
        at hdigest'
      cases hdigest'
      rfl
    subst hsame
    have hcurrent := checkGeneration_ok_iff.1 hcheck
    refine ⟨hnode', hvalid', hordered', ?_, ?_, ?_, ?_⟩
    · rw [length_append, length_singleton]
      exact hsequence
    · intro entry hentry
      rw [hrows, mem_append, mem_singleton] at hentry
      rcases hentry with hentry | rfl
      · obtain ⟨earlier, hearlier, heq⟩ := h.entries entry hentry
        exact ⟨earlier, mem_append_left _ hearlier, heq⟩
      · exact ⟨command, mem_append_right _ (mem_singleton_self _), rfl⟩
    · intro c hc
      simp only [CommandJournal.receive, fenceGeneration, Table.get?_insert]
      rcases mem_append.1 hc with hc | hc
      · obtain ⟨current, hget, hle, heq⟩ := h.fenced c hc
        split_ifs with haggregate
        · -- the record is replaced by one that passed the fence
          have hnew := hcurrent current (by rw [← hget, haggregate])
          refine ⟨_, rfl, hle.trans hnew.1, fun hgeneration => ?_⟩
          have hat : current.generation = command.generation :=
            le_antisymm hnew.1 (hgeneration.symm.trans_le hle)
          rw [heq (hgeneration.trans hat.symm), hnew.2 hat]
        · exact ⟨current, hget, hle, heq⟩
      · rw [mem_singleton.1 hc]
        exact ⟨_, if_pos rfl, le_rfl, fun _ => hdigest⟩
    · intro current hrow
      rcases Table.mem_insert.1 hrow with rfl | ⟨hrow, -⟩
      · exact ⟨command, mem_append_right _ (mem_singleton_self _), rfl, rfl⟩
      · obtain ⟨earlier, hearlier, heq⟩ := h.source current hrow
        exact ⟨earlier, mem_append_left _ hearlier, heq⟩

theorem FencesDelivered.completed (h : FencesDelivered X nodeId journal commands)
    {commandId : Uuid} {completion : JournalCompletion} {acknowledgement : NodeCommandAck}
    (hcomplete : completeSync X nodeId journal commandId completion.completedAt
      completion.outcome = .ok (acknowledgement, journal')) :
    FencesDelivered X nodeId journal' commands := by
  obtain ⟨-, -, hvalid', hcompleted⟩ := completeSync_ok hcomplete
  cases hcompleted with
  | replayed => exact h
  | recorded =>
    refine ⟨h.nodeId, hvalid', h.ordered.complete _ _, h.received, ?_, h.fenced, h.source⟩
    intro entry' hentry'
    rw [rows_complete, mem_map] at hentry'
    obtain ⟨before, hbefore, rfl⟩ := hentry'
    obtain ⟨earlier, hearlier, heq⟩ := h.entries before hbefore
    refine ⟨earlier, hearlier, ?_⟩
    rw [← heq]
    split_ifs <;> rfl

/-- **What the journal has fenced** after any part of the accepted applies, whatever they completed
with. -/
theorem fencesDelivered_deliver (h : FencesDelivered X nodeId journal before)
    {deliveries : List Delivery}
    (hadmitted : AdmittedApplies X nodeId (before ++ deliveries.map Delivery.command ++ after))
    (hdeliver : deliver X nodeId journal deliveries = .ok journal') :
    FencesDelivered X nodeId journal' (before ++ deliveries.map Delivery.command) := by
  induction deliveries generalizing journal before with
  | nil =>
    cases hdeliver
    simpa using h
  | cons delivery deliveries ih =>
    simp only [deliver, ok_rules, envelope_ok_iff, Prod.exists]
      at hdeliver
    obtain ⟨_, ⟨-, rfl⟩, decision, journal₁, hbegin, acknowledgement, journal₂, hcomplete, hrest⟩ :=
      hdeliver
    have hsplit : before ++ (delivery :: deliveries).map Delivery.command ++ after =
        before ++ delivery.command :: (deliveries.map Delivery.command ++ after) := by simp
    rw [hsplit] at hadmitted
    have hcommand := hadmitted.each delivery.command
      (mem_append_right _ mem_cons_self)
    have hnext := (h.receive hcommand hadmitted.id_ne (hadmitted.sequences _ _ _ rfl) hbegin).completed
      hcomplete
    have hmore := ih hnext (by simpa using hadmitted) hrest
    simpa using hmore

/-! ### Agreement -/

variable (X) in
/-- Two bound applies agree when their payloads have one digest. A bound and an unbound one agree
when the digest of the payload of the former is that of the specification of the latter. Two unbound
ones always agree. -/
def Agree (a b : NodeCommandPayload) : Prop :=
  match a, b with
  | .runtimeApply _ (some _), .runtimeApply _ (some _) =>
    X.digest (.payload a) = X.digest (.payload b)
  | .runtimeApply request none, .runtimeApply _ (some _) =>
    X.specDigest request.spec = .ok (X.digest (.payload b))
  | .runtimeApply _ (some _), .runtimeApply request none =>
    X.specDigest request.spec = .ok (X.digest (.payload a))
  | _, _ => True

variable (X) in
/-- A later apply agrees with an earlier one of its generation. -/
def Repeats (earlier later : NodeCommand) : Prop :=
  earlier.aggregateId = later.aggregateId → earlier.generation = later.generation →
    Agree X earlier.payload later.payload

/-- Applies of one specification agree exactly when the journal fences them under one digest. -/
theorem agree_iff (ha : AdmittedApply X nodeId a) (hb : AdmittedApply X nodeId b)
    (hspec : a.specDigest? X = b.specDigest? X) :
    Agree X a.payload b.payload ↔
      stateMutationDigest X a.payload = stateMutationDigest X b.payload := by
  obtain ⟨request, claim, digest, hpayload, hdigest⟩ := ha.payload
  obtain ⟨request', claim', digest', hpayload', hdigest'⟩ := hb.payload
  simp only [specDigest?, hpayload, hpayload', hdigest, hdigest', Option.some.injEq,
    Except.ok.injEq] at hspec
  subst hspec
  rw [hpayload, hpayload']
  cases claim with
  | none =>
    cases claim' with
    | none => simp [Agree, stateMutationDigest_unbound hdigest, stateMutationDigest_unbound hdigest']
    | some =>
      simp [Agree, stateMutationDigest_unbound hdigest, hb.stateMutationDigest_bound hpayload',
        hdigest]
  | some =>
    cases claim' with
    | none =>
      simp [Agree, stateMutationDigest_unbound hdigest', ha.stateMutationDigest_bound hpayload,
        hdigest', eq_comm]
    | some =>
      simp [Agree, ha.stateMutationDigest_bound hpayload, hb.stateMutationDigest_bound hpayload']

/-- The fence of the journal accepts an apply exactly when it repeats the earlier ones. -/
theorem FencesDelivered.checkGeneration_iff (h : FencesDelivered X nodeId journal before)
    (hadmitted : AdmittedApplies X nodeId (before ++ command :: after)) {digest : DigestText}
    (hdigest : stateMutationDigest X command.payload = .ok (some digest)) (leaseId : Uuid) :
    journal.checkGeneration (command.toEnvelope X leaseId) digest = .ok () ↔
      ∀ earlier ∈ before, Repeats X earlier command := by
  have horder := (pairwise_append.1 hadmitted.inOrder).2.2
  have hmem : command ∈ before ++ command :: after :=
    mem_append_right _ mem_cons_self
  rw [checkGeneration_ok_iff]
  constructor
  · intro hcheck earlier hearlier haggregate hgeneration
    have hspec := (horder earlier hearlier command mem_cons_self haggregate).spec hgeneration
    rw [agree_iff (hadmitted.each _ (mem_append_left _ hearlier)) (hadmitted.each _ hmem) hspec]
    obtain ⟨current, hget, hle, heq⟩ := h.fenced earlier hearlier
    obtain ⟨hnew, hsame⟩ := hcheck current (by rw [← hget, haggregate]; rfl)
    have hat : current.generation = command.generation :=
      le_antisymm hnew (hgeneration.symm.trans_le hle)
    rw [heq (hgeneration.trans hat.symm), hsame hat, hdigest]
  · intro hrepeats current hget
    obtain ⟨hrow, hkey⟩ := Table.get?_eq_some_iff.1 hget
    obtain ⟨earlier, hearlier, haggregate, hgeneration⟩ := h.source current hrow
    have hsameAggregate : earlier.aggregateId = command.aggregateId := haggregate.trans hkey
    have hinOrder := horder earlier hearlier command mem_cons_self hsameAggregate
    refine ⟨hgeneration.symm.trans_le hinOrder.generation, fun hat => ?_⟩
    have hsameGeneration : earlier.generation = command.generation := hgeneration.trans hat
    obtain ⟨current', hget', hle, heq⟩ := h.fenced earlier hearlier
    rw [hsameAggregate, show command.aggregateId = (command.toEnvelope X leaseId).aggregateId from rfl,
      hget, Option.some.injEq] at hget'
    subst hget'
    have hcontent := (agree_iff (hadmitted.each _ (mem_append_left _ hearlier))
      (hadmitted.each _ hmem) (hinOrder.spec hsameGeneration)).1
        (hrepeats earlier hearlier hsameAggregate hsameGeneration)
    rw [heq hgeneration, hdigest] at hcontent
    cases hcontent
    rfl

/-- **When the journal begins an accepted apply**: the control plane has accepted the drafts of a
node one after the other, the journal has executed the earlier commands with any outcomes, and it
begins the next one exactly when that agrees with those of its generation. -/
theorem apply_begun_iff
    (hsha : ∀ spec digest, X.specDigest spec = .ok digest → isSha256 digest = true)
    {nodeId : Uuid} {control' : NodeControl} (hfresh : control.Fresh nodeId)
    {drafts : List NodeCommandDraft} (hdrafts : ∀ draft ∈ drafts, draft.nodeId = nodeId ∧
      ∃ request resourceClaim, draft.payload = .runtimeApply request resourceClaim)
    {commands : List NodeCommand} (henqueue : control.enqueueAll X drafts = .ok (commands, control'))
    {deliveries : List Delivery} {command : NodeCommand} {after : List NodeCommand}
    (hsplit : commands = deliveries.map Delivery.command ++ command :: after)
    {journal : CommandJournal}
    (hdeliver : deliver X nodeId (.empty nodeId) deliveries = .ok journal)
    {leaseId : Uuid} {envelope : NodeCommandEnvelope}
    (henvelope : command.envelope X leaseId = .ok envelope) :
    (∃ begun, beginSync X nodeId journal envelope = .ok begun) ↔
      ∀ delivery ∈ deliveries, Repeats X delivery.command command := by
  obtain ⟨-, hadmitted⟩ :=
    admittedApplies_enqueueAll hfresh.holds (admittedApplies_nil nodeId) hdrafts henqueue
  rw [nil_append, hsplit] at hadmitted
  have hcommand := hadmitted.each command (mem_append_right _ mem_cons_self)
  have hnode : nodeId ≠ 0 := hcommand.nodeId ▸ hcommand.issued.nodeId
  have hfences : FencesDelivered X nodeId journal (deliveries.map Delivery.command) := by
    have hdelivered := fencesDelivered_deliver (fencesDelivered_empty hnode)
      (show AdmittedApplies X nodeId ([] ++ deliveries.map Delivery.command ++ command :: after) from
        hadmitted) hdeliver
    exact hdelivered
  have hid := hadmitted.id_ne
  obtain ⟨digest, hdigest, hisSha⟩ := hcommand.stateMutationDigest
  have hcheck := hfences.checkGeneration_iff hadmitted hdigest leaseId
  rw [forall_mem_map] at hcheck
  obtain ⟨hvalid, rfl⟩ := envelope_ok_iff.1 henvelope
  rw [← hcheck]
  constructor
  · rintro ⟨⟨decision, journal'⟩, hbegin⟩
    obtain ⟨fenced, hfence, -, -⟩ := hfences.received_of_begin hid hbegin
    rcases applyFence_ok hfence with ⟨hnone, -⟩ | ⟨digest', hdigest', hcheck', -⟩
    · cases hdigest.symm.trans hnone
    · cases hdigest.symm.trans hdigest'
      exact hcheck'
  · intro hcheck'
    have hget : journal.entries.get? command.id = none := by
      rw [Table.get?_eq_none_iff]
      intro entry hentry heq
      obtain ⟨earlier, hearlier, hkey⟩ := hfences.entries entry hentry
      exact hid earlier hearlier (hkey.symm.trans heq)
    have hsequence : command.sequence = journal.lastReceivedSequence + 1 := by
      rw [hfences.received]
      exact hadmitted.sequences _ _ _ rfl
    have hfence : journal.applyFence X (command.toEnvelope X leaseId) =
        .ok (journal.fenceGeneration (command.toEnvelope X leaseId) digest) := by
      simp only [applyFence, bind_ok_iff]
      refine ⟨some digest, hdigest, ?_⟩
      simp only [ok_rules]
      exact ⟨hcheck', trivial⟩
    have hclaims : ∀ before, projectEntries X journal.entries.rows = .ok before →
        ∃ after, before.apply X (.received (command.toEnvelope X leaseId)) = .ok after := by
      intro before _
      obtain ⟨request, resourceClaim, -, hpayload, -⟩ := hcommand.payload
      refine ⟨before, ?_⟩
      simp only [ResourceClaimJournalProjection.apply, ResourceClaimJournalProjection.register,
        JournalEntry.received, toEnvelope, hpayload]
      rfl
    have hvalid' := hfences.valid.receive hfences.ordered hvalid
      (hcommand.nodeId.trans hfences.nodeId.symm) hget hsequence hfence
      (fun digest' hdigest' => by cases hdigest.symm.trans hdigest'; exact hisSha hsha) hclaims
    exact ⟨_, beginSync_received hfences.nodeId hfences.valid hvalid hcommand.nodeId hget hsequence
      hcommand.bound hfence hvalid'⟩

end

namespace Sample

/-- A draft that applies the sample unit with the given deadline. -/
def applyDraft (commandId : Uuid) (deadlineAtMs : Option ℕ)
    (resourceClaim : Option NodeResourceClaimBinding) : NodeCommandDraft where
  proposedCommandId := commandId
  nodeId := nodeId
  aggregateId := workloadId
  payload := .runtimeApply (applyRequest deadlineAtMs) resourceClaim
  issuedAt := seconds 10
  notAfter := seconds 19
  correlationId := 5

/-- The command that is issued for such a draft. -/
def applyCommand (sequence : ℕ) (deadlineAtMs : Option ℕ)
    (resourceClaim : Option NodeResourceClaimBinding) : NodeCommand where
  id := 100 + sequence
  nodeId := nodeId
  sequence := sequence
  aggregateId := workloadId
  payload := .runtimeApply (applyRequest deadlineAtMs) resourceClaim
  issuedAt := seconds 10
  notAfter := seconds 19
  correlationId := 5

/-- The drafts of an apply and of its reissue with another deadline. -/
def reissue (resourceClaim : Option NodeResourceClaimBinding) : List NodeCommandDraft :=
  [applyDraft 101 none resourceClaim, applyDraft 102 (some 30000) resourceClaim]

def failure : JournalCompletion where
  completedAt := seconds 11
  outcome := .failed { code := "provider_unavailable", message := "no box", retryable := true }

end Sample

/-- An unbound apply may be issued anew with another deadline. -/
theorem reissued_unbound_begun :
    ∃ journal begun,
      deliver external Sample.nodeId (.empty Sample.nodeId)
        [⟨applyCommand 1 none none, 200, failure⟩] = .ok journal ∧
      beginSync external Sample.nodeId journal
        ((applyCommand 2 (some 30000) none).toEnvelope external 200) = .ok begun := by
  obtain ⟨⟨commands, control⟩, henqueue, hcommands⟩ : ∃ admitted,
      freshControl.enqueueAll external (reissue none) = .ok admitted ∧
        admitted.1 = [applyCommand 1 none none, applyCommand 2 (some 30000) none] := by
    decide +kernel
  obtain ⟨journal, hdeliver, -⟩ : ∃ journal, deliver external Sample.nodeId
      (.empty Sample.nodeId) [⟨applyCommand 1 none none, 200, failure⟩] =
        .ok journal ∧ True := by
    decide +kernel
  have henvelope : (applyCommand 2 (some 30000) none).envelope external 200 =
      .ok ((applyCommand 2 (some 30000) none).toEnvelope external 200) := by
    decide +kernel
  have hdrafts : ∀ draft ∈ reissue none, draft.nodeId = Sample.nodeId ∧
      ∃ request resourceClaim, draft.payload = .runtimeApply request resourceClaim := by
    intro draft hdraft
    simp only [reissue, mem_cons, not_mem_nil, or_false] at hdraft
    rcases hdraft with rfl | rfl
    · exact ⟨rfl, _, _, rfl⟩
    · exact ⟨rfl, _, _, rfl⟩
  have hsplit : commands = [⟨applyCommand 1 none none, 200, failure⟩].map
      Delivery.command ++ applyCommand 2 (some 30000) none :: [] := hcommands
  have hiff := apply_begun_iff (fun spec digest hdigest => by cases hdigest; rfl)
    freshControl_fresh hdrafts henqueue hsplit hdeliver henvelope
  obtain ⟨begun, hbegun⟩ := hiff.2 fun delivery hdelivery _ _ => by
    rw [mem_singleton.1 hdelivery]
    trivial
  exact ⟨journal, begun, hdeliver, hbegun⟩

/-- **The two fences disagree**: a bound apply whose first execution failed is accepted again with
another deadline, and the journal refuses it. -/
theorem reissued_apply_refused :
    (∃ admitted,
      freshControl.enqueueAll external (reissue (some Sample.binding)) =
          .ok admitted ∧
        admitted.1 = [applyCommand 1 none (some Sample.binding),
          applyCommand 2 (some 30000) (some Sample.binding)]) ∧
      ∃ journal,
        deliver external Sample.nodeId (.empty Sample.nodeId)
            [⟨applyCommand 1 none (some Sample.binding), 200, failure⟩] =
          .ok journal ∧
        (∃ envelope,
          (applyCommand 2 (some 30000) (some Sample.binding)).envelope external 200 =
            .ok envelope ∧
          (beginSync external Sample.nodeId journal envelope).map Prod.fst =
            .error (.conflict "state-changing command generation has conflicting content")) := by
  decide +kernel

end A3SCloud
