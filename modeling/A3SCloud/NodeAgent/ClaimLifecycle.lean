import A3SCloud.NodeAgent.Node

/-!
# The life of a claim in a journal

Which claims the replay of a journal finds active, in terms of the journal's entries.

* A claim keeps the binding, generation and digest with which it was first prepared
  (`identity_replay`), and a journaled release is of a later generation (`released_generation`).
* The generation fence of the journal therefore never lets a prepare follow a release of the same
  claim (`PreparesFirst`, `claimInv_step`).
* So a claim is active exactly when a prepare of it succeeded and no release did
  (`active_iff`), and the success of a bound apply is never journaled after that of a release.
-/

namespace A3SCloud

open Checks Runs ResourceClaimJournalProjection List ClaimEffect CommandJournal
  ProjectedResourceClaim

variable {X : External}

/-! ### Effects and payloads -/

variable {entry a b : JournalEntry} {request : NodeResourceClaimPrepare}
  {projection projection' : ResourceClaimJournalProjection} {claimId : Uuid}
  {claim : ProjectedResourceClaim} {entries : List JournalEntry}
  {journal journal' fenced : CommandJournal} {f : JournalEntry → JournalEntry}
  {envelope : NodeCommandEnvelope}

theorem success_of_effect {effect : ClaimEffect} (h : entry.effect X = effect)
    (hne : effect ≠ .nothing) :
    ∃ result, entry.success? = some result ∧
      of X entry.envelope.payload result = effect := by
  unfold JournalEntry.effect at h
  cases hs : entry.success? with
  | none =>
    rw [hs] at h
    exact absurd h.symm hne
  | some result =>
    rw [hs] at h
    exact ⟨result, rfl, h⟩

theorem payload_of_effect_activate (h : entry.effect X = .activate request) :
    entry.envelope.payload = .resourceClaimPrepare request := by
  obtain ⟨result, -, hof⟩ := success_of_effect h (by simp)
  unfold of at hof
  split at hof <;> try split_ifs at hof
  all_goals cases hof
  assumption

theorem payload_of_effect_release {request : NodeResourceClaimRelease}
    (h : entry.effect X = .release request) :
    entry.envelope.payload = .resourceClaimRelease request := by
  obtain ⟨result, -, hof⟩ := success_of_effect h (by simp)
  unfold of at hof
  split at hof <;> try split_ifs at hof
  all_goals cases hof
  assumption

variable (X) in
def NodeEvent.effect : NodeEvent → ClaimEffect
  | .completed envelope completion =>
    JournalEntry.effect X { envelope := envelope, completion := some completion, acknowledged := false }
  | .dispatched _ | .runtimeApplied _ => .nothing

/-! ### What a claim keeps -/

/-- Two states of one claim. -/
structure SameClaim (claim claim' : ProjectedResourceClaim) : Prop where
  binding : claim'.binding = claim.binding
  prepareGeneration : claim'.prepareGeneration = claim.prepareGeneration
  prepareDigest : claim'.prepareDigest = claim.prepareDigest

theorem SameClaim.refl (claim : ProjectedResourceClaim) : SameClaim claim claim := ⟨rfl, rfl, rfl⟩

theorem SameClaim.trans {a b c : ProjectedResourceClaim} (hab : SameClaim a b)
    (hbc : SameClaim b c) : SameClaim a c :=
  ⟨hbc.binding.trans hab.binding, hbc.prepareGeneration.trans hab.prepareGeneration,
    hbc.prepareDigest.trans hab.prepareDigest⟩

theorem sameClaim_terminal (claim : ProjectedResourceClaim) (completed : Bool) :
    SameClaim claim (claim.terminal completed) := by
  unfold terminal
  split_ifs <;> exact ⟨rfl, rfl, rfl⟩

theorem sameClaim_on (effect : ClaimEffect) (claim : ProjectedResourceClaim) :
    SameClaim claim (effect.on claim) := by
  cases effect with
  | nothing => exact SameClaim.refl claim
  | activate | bind =>
    simp only [on]
    split_ifs <;> exact ⟨rfl, rfl, rfl⟩
  | fence =>
    simp only [on, ProjectedResourceClaim.fence]
    split_ifs <;> exact ⟨rfl, rfl, rfl⟩
  | release =>
    simp only [on]
    split_ifs <;> exact ⟨rfl, rfl, rfl⟩

theorem sameClaim_register (claimId : Uuid) (entry : JournalEntry)
    (claim : ProjectedResourceClaim) :
    ∃ claim', claimRegister claimId entry (some claim) = some claim' ∧ SameClaim claim claim' := by
  unfold claimRegister
  split
  · split_ifs
    · exact ⟨_, rfl, sameClaim_terminal claim _⟩
    · exact ⟨claim, rfl, SameClaim.refl claim⟩
  · split_ifs
    · exact ⟨_, rfl, rfl, rfl, rfl⟩
    · exact ⟨claim, rfl, SameClaim.refl claim⟩
  · exact ⟨claim, rfl, SameClaim.refl claim⟩

theorem identity_apply (h : projection.apply X entry = .ok projection')
    (hclaim : projection.claims.get? claimId = some claim) :
    ∃ claim', projection'.claims.get? claimId = some claim' ∧ SameClaim claim claim' := by
  obtain ⟨claim₁, hregister, hsame⟩ := sameClaim_register claimId entry claim
  refine ⟨(entry.effect X).on claim₁, ?_, hsame.trans (sameClaim_on _ claim₁)⟩
  rw [get?_apply h, hclaim, hregister, Option.map_some]

theorem identity_replay (h : replayEntries X projection entries = .ok projection')
    (hclaim : projection.claims.get? claimId = some claim) :
    ∃ claim', projection'.claims.get? claimId = some claim' ∧ SameClaim claim claim' := by
  induction entries generalizing projection claim with
  | nil =>
    simp only [replayEntries, foldlM_nil, pure_ok_iff] at h
    exact ⟨claim, h ▸ hclaim, SameClaim.refl claim⟩
  | cons entry entries ih =>
    obtain ⟨next, happly, hrest⟩ := replayEntries_cons_ok.1 h
    obtain ⟨claim₁, hclaim₁, hsame₁⟩ := identity_apply happly hclaim
    obtain ⟨claim', hclaim', hsame'⟩ := ih hrest hclaim₁
    exact ⟨claim', hclaim', hsame₁.trans hsame'⟩

/-- A replayed prepare has the binding, generation and digest of its claim. -/
theorem prepared_apply (h : projection.apply X entry = .ok projection')
    (hpayload : entry.envelope.payload = .resourceClaimPrepare request) :
    ∃ claim, projection'.claims.get? request.binding.claimId = some claim ∧
      claim.binding = request.binding ∧ claim.prepareGeneration = request.claimGeneration ∧
      claim.prepareDigest = request.claimDigest := by
  obtain ⟨registered, hregister, -, -⟩ := apply_ok h
  have hregisters := (register_ok hregister).1
  simp only [Registers, hpayload, registerPrepare, ok_rules, not_or, ne_eq, not_not] at hregisters
  obtain ⟨-, hbinding, hgeneration, hdigest⟩ := hregisters
  have hget := get?_apply h request.binding.claimId
  simp only [claimRegister, hpayload, if_true, Option.map_some] at hget
  have hsame := (sameClaim_terminal ((projection.claims.get? request.binding.claimId).getD
    (.new request)) entry.completion.isSome).trans (sameClaim_on (entry.effect X) _)
  exact ⟨_, hget, hsame.binding.trans hbinding, hsame.prepareGeneration.trans hgeneration,
    hsame.prepareDigest.trans hdigest⟩

/-- What the replay of one entry says about a claim holds of the claim in the projection. -/
theorem projectEntries_mem (h : projectEntries X entries = .ok projection)
    (hentry : entry ∈ entries) : ∃ before next : ResourceClaimJournalProjection,
      before.apply X entry = .ok next ∧
      ∀ claimId claim, next.claims.get? claimId = some claim →
        ∃ claim', projection.claims.get? claimId = some claim' ∧ SameClaim claim claim' := by
  obtain ⟨before, after, rfl⟩ := append_of_mem hentry
  obtain ⟨p, -, hrest⟩ := projectEntries_append_ok.1 h
  obtain ⟨next, happly, hrest⟩ := replayEntries_cons_ok.1 hrest
  exact ⟨p, next, happly, fun claimId claim hclaim => identity_replay hrest hclaim⟩

theorem prepared_generation (h : projectEntries X entries = .ok projection)
    (hentry : entry ∈ entries) (hpayload : entry.envelope.payload = .resourceClaimPrepare request) :
    ∃ claim, projection.claims.get? request.binding.claimId = some claim ∧
      claim.binding = request.binding ∧ claim.prepareGeneration = request.claimGeneration ∧
      claim.prepareDigest = request.claimDigest := by
  obtain ⟨before, next, happly, hlater⟩ := projectEntries_mem h hentry
  obtain ⟨claim, hclaim, hbinding, hgeneration, hdigest⟩ := prepared_apply happly hpayload
  obtain ⟨claim', hclaim', hsame⟩ := hlater _ claim hclaim
  exact ⟨claim', hclaim', hsame.binding.trans hbinding,
    hsame.prepareGeneration.trans hgeneration, hsame.prepareDigest.trans hdigest⟩

/-- A journaled release is of a later generation than the prepare of its claim. -/
theorem released_generation (h : projectEntries X entries = .ok projection)
    (hentry : entry ∈ entries) {request : NodeResourceClaimRelease}
    (hpayload : entry.envelope.payload = .resourceClaimRelease request) :
    ∃ claim, projection.claims.get? request.binding.claimId = some claim ∧
      claim.prepareGeneration < request.claimGeneration := by
  obtain ⟨before, next, happly, hlater⟩ := projectEntries_mem h hentry
  obtain ⟨registered, hregister, -, -⟩ := apply_ok happly
  have hregisters := (register_ok hregister).1
  simp only [Registers, hpayload, registerRelease, ok_rules, not_or, ne_eq, not_not,
    not_le] at hregisters
  obtain ⟨claim, hclaim, -, -, hgeneration, -⟩ := hregisters
  obtain ⟨claim₁, hclaim₁, hsame₁⟩ := identity_apply happly hclaim
  obtain ⟨claim', hclaim', hsame⟩ := hlater _ claim₁ hclaim₁
  exact ⟨claim', hclaim', by rwa [hsame.prepareGeneration, hsame₁.prepareGeneration]⟩

/-! ### The journal's generation fence -/

variable (X)

/-- The fence of an aggregate is not behind any journaled command that changed its state. -/
def FencesEntries (journal : CommandJournal) : Prop :=
  ∀ entry ∈ journal.entries.rows, ∀ digest,
    stateMutationDigest X entry.envelope.payload = .ok (some digest) →
      ∃ current, journal.aggregateGenerations.get? entry.envelope.aggregateId = some current ∧
        entry.envelope.generation ≤ current.generation

/-- No prepare stands behind a release of the same claim. -/
def PreparesFirst (entries : List JournalEntry) : Prop :=
  entries.Pairwise fun a b => ∀ release prepare,
    a.envelope.payload = .resourceClaimRelease release →
    b.envelope.payload = .resourceClaimPrepare prepare →
      release.binding.claimId ≠ prepare.binding.claimId

/-- What the generation fence keeps true of a journal. -/
structure ClaimInv (journal : CommandJournal) : Prop where
  fences : FencesEntries X journal
  preparesFirst : PreparesFirst journal.entries.rows

variable {X}

theorem claimInv_empty (nodeId : Uuid) : ClaimInv X (CommandJournal.empty nodeId) where
  fences := by simp [FencesEntries, CommandJournal.empty]
  preparesFirst := Pairwise.nil

/-- A change of entries that keeps their commands, up to the lease, keeps the invariant. -/
theorem ClaimInv.mapRows (h : ClaimInv X journal)
    (hrows : journal'.entries.rows = journal.entries.rows.map f)
    (hgenerations : journal'.aggregateGenerations = journal.aggregateGenerations)
    (hf : ∀ entry, ∃ leaseId, (f entry).envelope = entry.envelope.withLease leaseId) :
    ClaimInv X journal' := by
  refine ⟨?_, ?_⟩
  · intro entry hentry digest hdigest
    rw [hrows, mem_map] at hentry
    obtain ⟨before, hbefore, rfl⟩ := hentry
    obtain ⟨leaseId, hlease⟩ := hf before
    rw [hlease] at hdigest ⊢
    rw [hgenerations]
    exact h.fences before hbefore digest hdigest
  · rw [hrows, PreparesFirst, pairwise_map]
    refine h.preparesFirst.imp ?_
    intro a b hab release prepare ha hb
    obtain ⟨_, hla⟩ := hf a
    obtain ⟨_, hlb⟩ := hf b
    rw [hla] at ha
    rw [hlb] at hb
    exact hab release prepare ha hb

/-- A claim command has the aggregate, generation and digest of its claim. -/
theorem claimRelease_of_valid (h : envelope.Valid X) {request : NodeResourceClaimRelease}
    (hpayload : envelope.payload = .resourceClaimRelease request) :
    envelope.aggregateId = request.binding.claimId ∧
      envelope.generation = request.claimGeneration ∧
      stateMutationDigest X envelope.payload = .ok (some request.claimDigest) := by
  have hidentity := h.identity
  have hgeneration := h.payloadGeneration
  have hvalid := h.payload
  simp only [NodeCommandEnvelope.validateIdentity, hpayload, refuseIf_ok_iff, not_or, ne_eq,
    not_not] at hidentity
  rw [hpayload] at hgeneration hvalid ⊢
  simp only [stateMutationDigest, ok_rules, and_true]
  exact ⟨hidentity.2, hgeneration, hvalid⟩

theorem claimPrepare_of_valid (h : envelope.Valid X)
    (hpayload : envelope.payload = .resourceClaimPrepare request) :
    envelope.aggregateId = request.binding.claimId ∧
      envelope.generation = request.claimGeneration ∧
      stateMutationDigest X envelope.payload = .ok (some request.claimDigest) := by
  have hidentity := h.identity
  have hgeneration := h.payloadGeneration
  have hvalid := h.payload
  simp only [NodeCommandEnvelope.validateIdentity, hpayload, refuseIf_ok_iff, not_or, ne_eq,
    not_not] at hidentity
  rw [hpayload] at hgeneration hvalid ⊢
  simp only [stateMutationDigest, ok_rules, and_true]
  exact ⟨hidentity.2, hgeneration, hvalid⟩

/-- The fence after a new command is not behind any command. -/
theorem FencesEntries.receive (h : FencesEntries X journal)
    (hfence : journal.applyFence X envelope = .ok fenced)
    (hget : journal.entries.get? envelope.commandId = none) :
    FencesEntries X (fenced.receive envelope) := by
  have hgenerations : (fenced.receive envelope).aggregateGenerations =
      fenced.aggregateGenerations := rfl
  intro entry hentry digest hdigest
  rw [hgenerations]
  rw [rows_receive hfence hget, mem_append, mem_singleton] at hentry
  rcases applyFence_ok hfence with ⟨hnone, rfl⟩ | ⟨fresh, hfresh, hcheck, rfl⟩
  · rcases hentry with hentry | rfl
    · exact h entry hentry digest hdigest
    · rw [show (JournalEntry.received envelope).envelope = envelope from rfl, hnone] at hdigest
      cases hdigest
  · simp only [fenceGeneration, Table.get?_insert]
    by_cases hid : entry.envelope.aggregateId = envelope.aggregateId
    · refine ⟨_, if_pos hid, ?_⟩
      rcases hentry with hentry | rfl
      · obtain ⟨current, hcurrent, hle⟩ := h entry hentry digest hdigest
        rw [hid] at hcurrent
        exact hle.trans (checkGeneration_ok_iff.1 hcheck _ hcurrent).1
      · exact le_refl _
    · rw [if_neg hid]
      rcases hentry with hentry | rfl
      · exact h entry hentry digest hdigest
      · exact absurd rfl hid

/-- The generation fence refuses a prepare behind a release of the same claim. -/
theorem PreparesFirst.receive (h : ClaimInv X journal) (hvalid : journal.Valid X)
    (hordered : journal.Ordered) (henvelope : envelope.Valid X)
    (hget : journal.entries.get? envelope.commandId = none)
    (hsequence : envelope.sequence = journal.lastReceivedSequence + 1)
    (hfence : journal.applyFence X envelope = .ok fenced)
    (hvalid' : (fenced.receive envelope).Valid X) :
    PreparesFirst (fenced.receive envelope).entries.rows := by
  have hordered' := hordered.receive hvalid hget hsequence hfence
  have hrows := rows_receive hfence hget
  obtain ⟨projection, hprojection⟩ := hvalid'.claims
  rw [resourceClaimProjection, hordered'.bySequence] at hprojection
  rw [hrows] at hprojection ⊢
  rw [PreparesFirst, pairwise_append]
  refine ⟨h.preparesFirst, pairwise_singleton _ _, fun a ha b hb release prepare hra hrb => ?_⟩
  rw [mem_singleton] at hb
  subst hb
  intro hid
  have hentry := hvalid.entries a ha
  -- the claim was prepared in the generation of the new prepare and released in a later one
  obtain ⟨claim, hclaim, hlt⟩ := released_generation hprojection
    (mem_append_left _ ha) hra
  obtain ⟨claim', hclaim', -, hgeneration, -⟩ := prepared_generation hprojection
    (mem_append_right _ (mem_singleton_self _)) hrb
  rw [hid, hclaim', Option.some.injEq] at hclaim
  subst hclaim
  -- while the fence of the claim is at the generation of the release
  obtain ⟨haggregate, hreleaseGeneration, hrelease⟩ := claimRelease_of_valid hentry.envelope hra
  obtain ⟨haggregate', hprepareGeneration, hprepare⟩ := claimPrepare_of_valid henvelope hrb
  obtain ⟨current, hcurrent, hle⟩ := h.fences a ha _ hrelease
  rw [haggregate, hid, ← haggregate'] at hcurrent
  rcases applyFence_ok hfence with ⟨hnone, -⟩ | ⟨fresh, -, hcheck, -⟩
  · rw [hprepare] at hnone
    cases hnone
  · have := (checkGeneration_ok_iff.1 hcheck _ hcurrent).1
    omega

theorem ClaimInv.begun (h : ClaimInv X journal) (hvalid : journal.Valid X)
    (hordered : journal.Ordered) {decision : JournalDecision} (henvelope : envelope.Valid X)
    (hbegun : Begun (X := X) journal envelope decision journal') (hvalid' : journal'.Valid X) :
    ClaimInv X journal' := by
  cases hbegun with
  | redelivered =>
    refine h.mapRows rfl rfl fun entry => ?_
    split_ifs
    · exact ⟨envelope.leaseId, rfl⟩
    · exact ⟨entry.envelope.leaseId, rfl⟩
  | received fenced hget hsequence hfence =>
    exact ⟨h.fences.receive hfence hget,
      PreparesFirst.receive h hvalid hordered henvelope hget hsequence hfence hvalid'⟩

theorem ClaimInv.completed (h : ClaimInv X journal) {commandId : Uuid}
    {completion : JournalCompletion} {acknowledgement : NodeCommandAck}
    (hcompleted : Completed journal commandId completion acknowledgement journal') :
    ClaimInv X journal' := by
  cases hcompleted with
  | replayed => exact h
  | recorded entry =>
    refine h.mapRows rfl rfl fun entry => ?_
    split_ifs
    · exact ⟨entry.envelope.leaseId, rfl⟩
    · exact ⟨entry.envelope.leaseId, rfl⟩

theorem claimInv_step {s s' : AgentState} {action : NodeAction} (hstep : NodeStep X s action s')
    (hs : NodeInv X s) (h : ClaimInv X s.journal) : ClaimInv X s'.journal := by
  cases hstep with
  | stay => exact h
  | begun envelope journal hphase hbegin
  | replayed envelope acknowledgement journal hphase hbegin =>
    obtain ⟨-, -, henvelope, -, hvalid', hbegun⟩ := beginSync_ok hbegin
    exact h.begun hs.valid hs.ordered henvelope hbegun hvalid'
  | dispatched => exact h
  | completed envelope completion applied acknowledgement journal hphase hcomplete =>
    exact h.completed (completeSync_ok hcomplete).2.2.2
  | refused | crashed => exact h
  | acknowledged receipt journal hphase hmark =>
    obtain ⟨-, -, -, entry, -, -, rfl⟩ := markAcknowledgedSync_ok hmark
    refine h.mapRows rfl rfl fun entry => ?_
    split_ifs
    · exact ⟨entry.envelope.leaseId, rfl⟩
    · exact ⟨entry.envelope.leaseId, rfl⟩

theorem claimInv_run {nodeId : Uuid} (h : nodeId ≠ 0) (actions : List NodeAction) :
    ClaimInv X (run (AgentState.step X) (AgentState.init nodeId) actions).journal := by
  have hboth : ∀ s action, NodeInv X s ∧ ClaimInv X s.journal →
      NodeInv X (s.step X action) ∧ ClaimInv X (s.step X action).journal :=
    fun s action hs => ⟨nodeInv_step (nodeStep_step s action) hs.1,
      claimInv_step (nodeStep_step s action) hs.1 hs.2⟩
  exact (invariant_all hboth ⟨nodeInv_init h, claimInv_empty nodeId⟩ actions).2

/-! ### Active claims -/

variable (X)

/-- A prepare of the claim succeeded. -/
def Prepared (entries : List JournalEntry) (claimId : Uuid) : Prop :=
  ∃ entry ∈ entries, ∃ request, entry.effect X = .activate request ∧
    request.binding.claimId = claimId

/-- A release of the claim succeeded. -/
def Released (entries : List JournalEntry) (claimId : Uuid) : Prop :=
  ∃ entry ∈ entries, ∃ request, entry.effect X = .release request ∧
    request.binding.claimId = claimId

def ResourceClaimJournalProjection.Active (projection : ResourceClaimJournalProjection)
    (claimId : Uuid) : Prop :=
  ∃ claim, projection.claims.get? claimId = some claim ∧ claim.active = true

variable {X}

theorem prepared_concat :
    Prepared X (entries ++ [entry]) claimId ↔ Prepared X entries claimId ∨
      ∃ request, entry.effect X = .activate request ∧ request.binding.claimId = claimId := by
  simp only [Prepared, mem_append, mem_singleton, or_and_right, exists_or, exists_eq_left]

theorem released_concat :
    Released X (entries ++ [entry]) claimId ↔ Released X entries claimId ∨
      ∃ request, entry.effect X = .release request ∧ request.binding.claimId = claimId := by
  simp only [Released, mem_append, mem_singleton, or_and_right, exists_or, exists_eq_left]

theorem active_register {registered : ResourceClaimJournalProjection}
    (h : projection.register entry = .ok registered) (claimId : Uuid) :
    registered.Active claimId ↔ projection.Active claimId := by
  have hget := (register_ok h).2 claimId
  cases hclaim : projection.claims.get? claimId with
  | some claim =>
    obtain ⟨claim', hclaim', -, hactive, -⟩ := claimRegister_some claimId entry claim
    rw [hclaim, hclaim'] at hget
    simp only [Active, hget, hclaim, Option.some.injEq, exists_eq_left', hactive]
  | none =>
    have hno : ¬ projection.Active claimId := by
      rintro ⟨claim, hsome, -⟩
      rw [hclaim] at hsome
      cases hsome
    refine iff_of_false ?_ hno
    rintro ⟨claim, hsome, hactive⟩
    rw [hget, hclaim] at hsome
    unfold claimRegister at hsome
    split at hsome
    · split_ifs at hsome
      cases hsome
      simp only [Option.getD_none, terminal] at hactive
      split_ifs at hactive <;> cases hactive
    · split_ifs at hsome
      cases hsome
    · cases hsome

theorem active_on {effect : ClaimEffect} :
    (effect.on claim).active = true ↔
      (∃ request, effect = .activate request ∧ request.binding.claimId = claim.claimId) ∨
        (claim.active = true ∧
          ¬ ∃ request, effect = .release request ∧ request.binding.claimId = claim.claimId) := by
  cases effect with
  | nothing => simp
  | activate request =>
    by_cases hid : claim.claimId = request.binding.claimId
    · simp [on, hid, ProjectedResourceClaim.activate]
    · have hne : ¬ request.binding.claimId = claim.claimId := fun h => hid h.symm
      simp [on, hid, hne]
  | bind =>
    simp only [on]
    split_ifs <;> simp [ProjectedResourceClaim.bind]
  | fence =>
    simp only [on, ProjectedResourceClaim.fence]
    split_ifs <;> simp
  | release request =>
    by_cases hid : claim.claimId = request.binding.claimId
    · simp [on, hid, ProjectedResourceClaim.release]
    · have hne : ¬ request.binding.claimId = claim.claimId := fun h => hid h.symm
      simp [on, hid, hne]

/-- A step of the replay activates the claim it prepares and deactivates the one it releases. -/
theorem active_apply (h : projection.apply X entry = .ok projection') (claimId : Uuid) :
    projection'.Active claimId ↔
      (∃ request, entry.effect X = .activate request ∧ request.binding.claimId = claimId) ∨
        (projection.Active claimId ∧
          ¬ ∃ request, entry.effect X = .release request ∧ request.binding.claimId = claimId) := by
  obtain ⟨registered, hregister, -, rfl⟩ := apply_ok h
  rw [← active_register hregister claimId]
  constructor
  · rintro ⟨claim', hclaim', hactive⟩
    rw [get?_after, Option.map_eq_some_iff] at hclaim'
    obtain ⟨claim, hclaim, rfl⟩ := hclaim'
    have hid := (Table.get?_eq_some_iff.1 hclaim).2
    rw [active_on, hid] at hactive
    rcases hactive with hactivate | ⟨hactive, hrelease⟩
    · exact .inl hactivate
    · exact .inr ⟨⟨claim, hclaim, hactive⟩, hrelease⟩
  · rintro (⟨request, heffect, rfl⟩ | ⟨⟨claim, hclaim, hactive⟩, hrelease⟩)
    · obtain ⟨claim', hclaim', -⟩ := prepared_apply h (payload_of_effect_activate heffect)
      refine ⟨claim', hclaim', ?_⟩
      rw [get?_after, Option.map_eq_some_iff] at hclaim'
      obtain ⟨claim, hclaim, rfl⟩ := hclaim'
      have hid := (Table.get?_eq_some_iff.1 hclaim).2
      rw [active_on, hid]
      exact .inl ⟨request, heffect, rfl⟩
    · have hid := (Table.get?_eq_some_iff.1 hclaim).2
      refine ⟨(entry.effect X).on claim, by rw [get?_after, hclaim, Option.map_some], ?_⟩
      rw [active_on, hid]
      exact .inr ⟨hactive, hrelease⟩

/-- **A claim is active exactly when a prepare of it succeeded and no release did.** -/
theorem active_iff (h : projectEntries X entries = .ok projection) (hfirst : PreparesFirst entries)
    (claimId : Uuid) :
    projection.Active claimId ↔ Prepared X entries claimId ∧ ¬ Released X entries claimId := by
  induction entries using reverseRecOn generalizing projection with
  | nil =>
    simp only [projectEntries, foldlM_nil, pure_ok_iff] at h
    subst h
    simp [Active, ResourceClaimJournalProjection.empty, Prepared]
  | append_singleton entries entry ih =>
    obtain ⟨before, hbefore, happly⟩ := projectEntries_concat_ok.1 h
    rw [PreparesFirst, pairwise_append] at hfirst
    rw [active_apply happly, ih hbefore hfirst.1, prepared_concat, released_concat]
    constructor
    · rintro (⟨request, heffect, hid⟩ | ⟨⟨hprepared, hreleased⟩, hrelease⟩)
      · refine ⟨.inr ⟨request, heffect, hid⟩, ?_⟩
        rintro (⟨released, hreleased, release, hrelease, hid'⟩ | ⟨release, hrelease, -⟩)
        · -- a release before this prepare, which the fence has refused
          exact hfirst.2.2 released hreleased entry (mem_singleton_self _) release request
            (payload_of_effect_release hrelease) (payload_of_effect_activate heffect)
            (hid'.trans hid.symm)
        · rw [heffect] at hrelease
          cases hrelease
      · exact ⟨.inl hprepared, not_or.2 ⟨hreleased, hrelease⟩⟩
    · rintro ⟨hprepared | hactivate, hreleased⟩
      · exact .inr ⟨⟨hprepared, fun h => hreleased (.inl h)⟩, fun h => hreleased (.inr h)⟩
      · exact .inl hactivate

/-! ### The projection under the operations of the journal -/

/-- What the replay reads of an entry. -/
def JournalEntry.core (entry : JournalEntry) : NodeCommandPayload × Option JournalCompletion :=
  (entry.envelope.payload, entry.completion)

theorem success?_of_core (h : a.core = b.core) : a.success? = b.success? := by
  have hcompletion : a.completion = b.completion := congrArg Prod.snd h
  unfold JournalEntry.success?
  rw [hcompletion]

theorem effect_of_core (h : a.core = b.core) : a.effect X = b.effect X := by
  have hpayload : a.envelope.payload = b.envelope.payload := congrArg Prod.fst h
  unfold JournalEntry.effect
  rw [success?_of_core h, hpayload]

theorem apply_of_core (h : a.core = b.core) (projection : ResourceClaimJournalProjection) :
    projection.apply X a = projection.apply X b := by
  obtain ⟨envelope, completion, acknowledged⟩ := a
  obtain ⟨envelope', completion', acknowledged'⟩ := b
  simp only [JournalEntry.core, Prod.mk.injEq] at h
  obtain ⟨hpayload, rfl⟩ := h
  simp only [ResourceClaimJournalProjection.apply, ResourceClaimJournalProjection.register,
    JournalEntry.success?, hpayload]

/-- Changes that the replay does not read leave the projection as it is. -/
theorem projectEntries_map (hf : ∀ entry, (f entry).core = entry.core)
    (entries : List JournalEntry) :
    projectEntries X (entries.map f) = projectEntries X entries := by
  unfold projectEntries
  rw [foldlM_map]
  congr 1
  funext projection entry
  exact apply_of_core (hf entry) projection

end A3SCloud
