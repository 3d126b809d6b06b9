import Mathlib.Data.List.Perm.Basic
import Mathlib.Algebra.BigOperators.Group.List.Basic
import A3SCloud.NodeAgent.InOrder

/-!
# Active claims exclude each other

The active claims of a node are not stored: they are what the replay of its journal finds prepared
and not released. Still no two of them hold one exclusive slot or one Runtime generation, and the
amounts of a shared slot stay within the capacity that the last prepare of that slot was checked
against.

* `activeBindings_pairwise`: the replay activates a claim only beside compatible ones.
* `mem_activeBindings_iff`: it finds exactly the claims with a successful prepare and no successful
  release.
* `sharedTotal_prepared`: a prepare leaves each shared slot that it requests within its capacity.
* `claims_exclusive` assembles these for every reachable state of a node, and
  `shrunk_capacity_exceeded` is a run in which a shared slot that the prepare does not request
  exceeds the capacity of the inventory.
-/

namespace A3SCloud

open Checks Runs ResourceClaimJournalProjection List AgentState Option Sample

variable {X : External}

/-! ### Compatible bindings -/

/-- Two bindings that may be active together: they are of different Runtime generations, and the
slots they have in common are shared ones. -/
structure Compatible (a b : NodeResourceClaimBinding) : Prop where
  runtime : ¬ (a.runtimeUnitId = b.runtimeUnitId ∧ a.runtimeGeneration = b.runtimeGeneration)
  slots : ∀ slot ∈ a.slots, ∀ slot' ∈ b.slots, slot.key = slot'.key →
    slot.kind.isSharedCapacity = true

theorem Compatible.symm {a b : NodeResourceClaimBinding} (h : Compatible a b) : Compatible b a := by
  refine ⟨fun hruntime => h.runtime ⟨hruntime.1.symm, hruntime.2.symm⟩, ?_⟩
  intro slot hslot slot' hslot' hkey
  have hkind : slot.kind = slot'.kind := congrArg Prod.fst hkey
  rw [hkind]
  exact h.slots slot' hslot' slot hslot hkey.symm

namespace ResourceClaimJournalProjection

def Exclusive (projection : ResourceClaimJournalProjection) : Prop :=
  ∀ claim ∈ projection.claims.rows, ∀ claim' ∈ projection.claims.rows, claim.active = true →
    claim'.active = true → claim.claimId ≠ claim'.claimId → Compatible claim.binding claim'.binding

variable {projection registered projection' : ResourceClaimJournalProjection}
  {claim : ProjectedResourceClaim} {entry : JournalEntry}

theorem Activatable.compatible {binding : NodeResourceClaimBinding}
    (h : projection.Activatable binding) (hclaim : claim ∈ projection.claims.rows)
    (hactive : claim.active = true) (hne : claim.claimId ≠ binding.claimId) :
    Compatible claim.binding binding := by
  constructor
  · rintro ⟨hunit, hgeneration⟩
    have hholds := h.unit claim hclaim hne
    simp [ProjectedResourceClaim.holds, hactive, hunit, hgeneration] at hholds
  · intro slot hslot slot' hslot' hkey
    have hkind : slot.kind = slot'.kind := congrArg Prod.fst hkey
    rw [hkind]
    by_contra hshared
    exact h.exclusive claim hclaim hactive slot hslot slot' hslot' (by simpa using hshared) hkey

/-- A claim that a registration finds active was active with the same binding before. -/
theorem active_of_register (h : projection.register entry = .ok registered)
    (hclaim : claim ∈ registered.claims.rows) (hactive : claim.active = true) :
    ∃ before ∈ projection.claims.rows, before.active = true ∧ before.binding = claim.binding := by
  have hget : registered.claims.get? claim.claimId = some claim :=
    Table.get?_eq_some_iff.2 ⟨hclaim, rfl⟩
  obtain ⟨before, hbefore, hactive'⟩ := (active_register h claim.claimId).1 ⟨claim, hget, hactive⟩
  obtain ⟨claim', hclaim', hbinding, -⟩ := claimRegister_some claim.claimId entry before
  rw [(register_ok h).2, hbefore, hclaim', some.injEq] at hget
  subst hget
  exact ⟨before, (Table.get?_eq_some_iff.1 hbefore).1, hactive', hbinding.symm⟩

theorem Exclusive.register (hexclusive : projection.Exclusive)
    (h : projection.register entry = .ok registered) : registered.Exclusive := by
  intro claim hclaim claim' hclaim' hactive hactive' hne
  obtain ⟨before, hbefore, hb, hbinding⟩ := active_of_register h hclaim hactive
  obtain ⟨before', hbefore', hb', hbinding'⟩ := active_of_register h hclaim' hactive'
  rw [← hbinding, ← hbinding']
  refine hexclusive before hbefore before' hbefore' hb hb' ?_
  rw [ProjectedResourceClaim.claimId, ProjectedResourceClaim.claimId, hbinding, hbinding']
  exact hne

/-- A claim that is active after a step is the one the step activates, and then no active claim
stands against it, or it was active before. -/
theorem active_of_apply (h : projection.apply X entry = .ok projection')
    (hprojection' : projection' = registered.after (entry.effect X))
    (hclaim : claim ∈ projection'.claims.rows) (hactive : claim.active = true) :
    (∃ request, entry.effect X = .activate request ∧ claim.binding = request.binding) ∨
      ∃ before ∈ registered.claims.rows, before.active = true ∧ before.binding = claim.binding := by
  have hget := Table.get?_eq_some_iff.2 ⟨hclaim, rfl⟩
  rw [hprojection', ResourceClaimJournalProjection.after, Table.mem_mapRows] at hclaim
  obtain ⟨before, hbefore, rfl⟩ := hclaim
  rcases active_on.1 hactive with ⟨request, heffect, hid⟩ | ⟨hactive, -⟩
  · left
    refine ⟨request, heffect, ?_⟩
    obtain ⟨claim, hclaim', hbinding, -⟩ := prepared_apply h (payload_of_effect_activate heffect)
    rw [hid, ← ClaimEffect.claimId_on (entry.effect X) before, hget, some.injEq] at hclaim'
    rw [hclaim', hbinding]
  · exact .inr ⟨before, hbefore, hactive, (ClaimEffect.binding_on _ _).symm⟩

/-- A step of the replay keeps the active claims compatible. -/
theorem Exclusive.apply (hexclusive : projection.Exclusive)
    (h : projection.apply X entry = .ok projection') : projection'.Exclusive := by
  obtain ⟨registered, hregister, haccepts, hprojection'⟩ := apply_ok h
  have hregistered := hexclusive.register hregister
  have hid : ∀ {a b : ProjectedResourceClaim}, a.binding = b.binding → a.claimId = b.claimId :=
    fun hbinding => congrArg NodeResourceClaimBinding.claimId hbinding
  intro claim hclaim claim' hclaim' hactive hactive' hne
  rcases active_of_apply h hprojection' hclaim hactive with
    ⟨request, heffect, hbinding⟩ | ⟨before, hbefore, hb, hbinding⟩
  · rcases active_of_apply h hprojection' hclaim' hactive' with
      ⟨request', heffect', hbinding'⟩ | ⟨before', hbefore', hb', hbinding'⟩
    · rw [heffect, ClaimEffect.activate.injEq] at heffect'
      exact absurd (hid (hbinding.trans (heffect' ▸ hbinding'.symm))) hne
    · rw [heffect] at haccepts
      rw [hbinding, ← hbinding']
      refine (Activatable.compatible haccepts hbefore' hb' fun heq => hne ?_).symm
      rw [← hid hbinding', heq, ProjectedResourceClaim.claimId, hbinding]
  · rcases active_of_apply h hprojection' hclaim' hactive' with
      ⟨request', heffect', hbinding'⟩ | ⟨before', hbefore', hb', hbinding'⟩
    · rw [heffect'] at haccepts
      rw [hbinding', ← hbinding]
      refine Activatable.compatible haccepts hbefore hb fun heq => hne ?_
      rw [← hid hbinding, heq, ProjectedResourceClaim.claimId, hbinding']
    · rw [← hbinding, ← hbinding']
      refine hregistered before hbefore before' hbefore' hb hb' fun heq => hne ?_
      rw [← hid hbinding, ← hid hbinding', heq]

end ResourceClaimJournalProjection

variable {entries : List JournalEntry} {projection : ResourceClaimJournalProjection}
  {active active' : List NodeResourceClaimBinding} {slot : ResourceSlotBinding}
  {request : NodeResourceClaimPrepare} {u : Unit} {journal : CommandJournal}
  {envelope : NodeCommandEnvelope}

theorem exclusive_project (h : projectEntries X entries = .ok projection) :
    projection.Exclusive := by
  induction entries using reverseRecOn generalizing projection with
  | nil =>
    simp only [projectEntries, foldlM_nil, pure_ok_iff] at h
    subst h
    intro claim hclaim
    cases hclaim
  | append_singleton entries entry ih =>
    obtain ⟨before, hbefore, happly⟩ := projectEntries_concat_ok.1 h
    exact (ih hbefore).apply happly

/-! ### The active bindings of a projection -/

theorem mem_activeBindings {binding : NodeResourceClaimBinding} :
    binding ∈ projection.activeBindings ↔ ∃ claim,
      projection.claims.get? binding.claimId = some claim ∧ claim.active = true ∧
        claim.binding = binding := by
  simp only [activeBindings, List.mem_map, mem_filter, Table.get?_eq_some_iff]
  constructor
  · rintro ⟨claim, ⟨hclaim, hactive⟩, rfl⟩
    exact ⟨claim, ⟨hclaim, rfl⟩, hactive, rfl⟩
  · rintro ⟨claim, ⟨hclaim, -⟩, hactive, rfl⟩
    exact ⟨claim, ⟨hclaim, hactive⟩, rfl⟩

theorem activeBindings_pairwise (h : projection.Exclusive) :
    projection.activeBindings.Pairwise fun a b => a.claimId ≠ b.claimId ∧ Compatible a b := by
  have hids : projection.claims.rows.Pairwise fun a b => a.claimId ≠ b.claimId :=
    pairwise_map.1 projection.claims.nodup
  rw [activeBindings, pairwise_map]
  refine (hids.filter _).imp_of_mem fun {claim claim'} hclaim hclaim' hne => ⟨hne, ?_⟩
  rw [mem_filter] at hclaim hclaim'
  exact h claim hclaim.1 claim' hclaim'.1 hclaim.2 hclaim'.2 hne

theorem activeBindings_nodup (h : projection.Exclusive) : projection.activeBindings.Nodup :=
  (activeBindings_pairwise h).imp fun {a b} hab heq => hab.1 (by rw [heq])

variable (X)

/-- A prepare of the binding succeeded, and no release of its claim did. -/
def ActiveIn (entries : List JournalEntry) (binding : NodeResourceClaimBinding) : Prop :=
  (∃ entry ∈ entries, ∃ request, entry.effect X = .activate request ∧
    request.binding = binding) ∧ ¬ Released X entries binding.claimId

variable {X}

/-- **The replay finds the claims that were prepared and not released.** -/
theorem mem_activeBindings_iff (h : projectEntries X entries = .ok projection)
    (hfirst : PreparesFirst entries) (binding : NodeResourceClaimBinding) :
    binding ∈ projection.activeBindings ↔ ActiveIn X entries binding := by
  have hactive := active_iff h hfirst binding.claimId
  rw [mem_activeBindings]
  constructor
  · rintro ⟨claim, hclaim, ha, rfl⟩
    obtain ⟨⟨entry, hentry, request, heffect, hid⟩, hreleased⟩ := hactive.1 ⟨claim, hclaim, ha⟩
    obtain ⟨claim', hclaim', hbinding, -⟩ :=
      prepared_generation h hentry (payload_of_effect_activate heffect)
    rw [hid, hclaim, some.injEq] at hclaim'
    exact ⟨⟨entry, hentry, request, heffect, by rw [hclaim', hbinding]⟩, hreleased⟩
  · rintro ⟨⟨entry, hentry, request, heffect, rfl⟩, hreleased⟩
    obtain ⟨claim, hclaim, ha⟩ := hactive.2 ⟨⟨entry, hentry, request, heffect, rfl⟩, hreleased⟩
    obtain ⟨claim', hclaim', hbinding, -⟩ :=
      prepared_generation h hentry (payload_of_effect_activate heffect)
    rw [hclaim, some.injEq] at hclaim'
    exact ⟨claim, hclaim, ha, by rw [hclaim', hbinding]⟩

/-! ### Shared capacity -/

/-- What the claims hold of a slot, as a number. -/
def sharedTotal (active : List NodeResourceClaimBinding) (key : SlotKey) : ℕ :=
  ((activeSlots active key).map fun slot => slot.allocation.scalarAmount.getD 0).sum

theorem activeSlots_cons (binding : NodeResourceClaimBinding)
    (active : List NodeResourceClaimBinding) (key : SlotKey) :
    activeSlots (binding :: active) key =
      binding.slots.filter (fun slot => slot.key = key) ++ activeSlots active key := by
  simp [activeSlots]

theorem sharedTotal_perm (h : active.Perm active') (key : SlotKey) :
    sharedTotal active key = sharedTotal active' key :=
  (((h.flatMap_right _).filter _).map _).sum_eq

theorem sharedTotal_sublist (h : active.Sublist active') (key : SlotKey) :
    sharedTotal active key ≤ sharedTotal active' key := by
  induction h with
  | slnil => exact le_refl _
  | cons binding _ ih =>
    rw [sharedTotal, sharedTotal, activeSlots_cons, map_append, sum_append]
    exact le_add_left ih
  | cons_cons binding _ ih =>
    rw [sharedTotal, sharedTotal, activeSlots_cons, activeSlots_cons, map_append,
      map_append, sum_append, sum_append]
    exact Nat.add_le_add_left ih _

/-- Fewer claims hold less. -/
theorem sharedTotal_subset (hnodup : active.Nodup) (h : active ⊆ active') (key : SlotKey) :
    sharedTotal active key ≤ sharedTotal active' key := by
  obtain ⟨middle, hperm, hsublist⟩ := hnodup.subperm h
  rw [← sharedTotal_perm hperm key]
  exact sharedTotal_sublist hsublist key

/-- A binding holds a slot once. -/
theorem filter_key_eq {slots : List ResourceSlotBinding}
    (hnodup : (slots.map ResourceSlotBinding.key).Nodup) (hslot : slot ∈ slots) :
    slots.filter (fun other => other.key = slot.key) = [slot] := by
  induction slots with
  | nil => cases hslot
  | cons head slots ih =>
    rw [map_cons, nodup_cons] at hnodup
    rcases mem_cons.1 hslot with rfl | hslot
    · rw [filter_cons_of_pos (by simp), cons.injEq, filter_eq_nil_iff]
      refine ⟨rfl, fun other hother hkey => hnodup.1 ?_⟩
      rw [← of_decide_eq_true hkey]
      exact List.mem_map_of_mem hother
    · have hne : ¬ head.key = slot.key := fun hkey =>
        hnodup.1 (hkey ▸ List.mem_map_of_mem hslot)
      rw [filter_cons_of_neg (by simpa using hne)]
      exact ih hnodup.2 hslot

theorem foldlM_addActiveAmount {slots : List ResourceSlotBinding} {start total : ℕ}
    (h : slots.foldlM addActiveAmount start = .ok total) :
    total = start + (slots.map fun slot => slot.allocation.scalarAmount.getD 0).sum := by
  induction slots generalizing start with
  | nil =>
    simp only [foldlM_nil, pure_ok_iff] at h
    simpa using h.symm
  | cons slot slots ih =>
    simp only [foldlM_cons, addActiveAmount, ok_rules] at h
    obtain ⟨next, ⟨amount, hamount, hnext⟩, hrest⟩ := h
    have hadd := (checkedAdd_eq_some.1 hnext).1
    rw [ih hrest, map_cons, sum_cons, hamount, getD_some]
    omega

/-- A prepare is accepted beside claims of other identifiers, and each shared slot it requests has
room for it. -/
theorem validatePrepare_ok {inventory : NodeResourceInventory}
    (h : validatePrepare X request inventory active = .ok u) :
    (∀ candidate ∈ active, candidate.claimId ≠ request.binding.claimId) ∧
    (request.binding.slots.map ResourceSlotBinding.key).Nodup ∧
    ∀ slot ∈ request.binding.slots, slot.kind.isSharedCapacity = true →
      validateShared inventory active slot = .ok () := by
  simp only [validatePrepare, ok_rules, checkAll_ok_iff, List.any_eq_true, decide_eq_true_eq,
    not_exists, not_and, not_or] at h
  obtain ⟨hrequest, -, hfresh, hslots⟩ := h
  refine ⟨fun candidate hcandidate => (hfresh candidate hcandidate).1, ?_, ?_⟩
  · have hbinding := (claimRequestValidate_ok hrequest).2.2
    exact validateSlotBindings_nodup (NodeResourceClaimBinding.validate_ok hbinding).2
  · intro slot hslot hshared
    have hcheck := hslots slot hslot
    rwa [validateRequested, if_pos hshared] at hcheck

/-- **A prepare leaves each shared slot that it requests within its capacity.** -/
theorem sharedTotal_prepared {inventory : NodeResourceInventory}
    (h : validatePrepare X request inventory active = .ok u) (hslot : slot ∈ request.binding.slots)
    (hshared : slot.kind.isSharedCapacity = true) :
    ∃ capacity, (inventory.slot? slot.key).bind (·.allocation.scalarAmount) = some capacity ∧
      sharedTotal (request.binding :: active) slot.key ≤ capacity ∧
      sharedTotal (request.binding :: active) slot.key < 2 ^ 64 := by
  obtain ⟨-, hnodup, hchecks⟩ := validatePrepare_ok h
  have hcheck := hchecks slot hslot hshared
  simp only [validateShared, ok_rules] at hcheck
  obtain ⟨capacity, hcapacity, amount, hamount, total, htotal, hroom⟩ := hcheck
  have htotal := foldlM_addActiveAmount htotal
  rw [sharedTotal, activeSlots_cons, filter_key_eq hnodup hslot, map_append, sum_append,
    map_singleton, sum_singleton, hamount, getD_some]
  -- the sum that the check computes is the one with the requested amount first
  by_cases hsum : total + amount < 2 ^ 64
  · simp only [checkedAdd, if_pos hsum, all_some, decide_eq_true_eq, not_lt] at hroom
    exact ⟨capacity, hcapacity, by omega, by omega⟩
  · rw [checkedAdd, if_neg hsum] at hroom
    exact absurd rfl hroom

/-! ### A node prepares a claim -/

theorem activeResourceClaimBindingsSync_ok_iff {nodeId : Uuid} (hordered : journal.Ordered) :
    activeResourceClaimBindingsSync X nodeId journal = .ok active ↔
      (journal.nodeId = nodeId ∧ journal.Valid X) ∧ ∃ projection : ResourceClaimJournalProjection,
        projectEntries X journal.entries.rows = .ok projection ∧
          projection.activeBindings = active := by
  simp only [activeResourceClaimBindingsSync, ok_rules, readJournal_ok_iff, hordered.projection]

/-- The success of an execution of a prepare was checked against an inventory and the active
claims. -/
theorem executionOutcome_prepared {nodeId : Uuid} {io : ExecutionIo}
    (hpayload : envelope.payload = .resourceClaimPrepare request) {result : NodeCommandResult}
    (h : executionOutcome X nodeId journal envelope io = .succeeded result) :
    ∃ inventory active prepared, currentResourceInventory io = .ok inventory ∧
      activeResourceClaimBindingsSync X nodeId journal = .ok active ∧
      validatePrepare X request inventory active = .ok () ∧
      result = .resourceClaimPrepared prepared := by
  obtain ⟨-, hdispatch, -⟩ := (executionOutcome_succeeded_iff X).1 h
  simp only [dispatch, hpayload, dispatchPrepare, ok_rules] at hdispatch
  obtain ⟨prepared, ⟨inventory, hinventory, -, active, hactive, hprepare, -⟩, rfl⟩ := hdispatch
  exact ⟨inventory, active, prepared, hinventory, hactive, hprepare, rfl⟩

/-- The active claims after a journaled success are the earlier ones and at most the one that the
command prepares. -/
theorem activeIn_complete {entry : JournalEntry} {completion : JournalCompletion}
    (heffect : (entry.complete completion).effect X = .activate request)
    (hget : journal.entries.get? entry.commandId = some entry) (hnone : entry.completion = none)
    {binding : NodeResourceClaimBinding}
    (h : ActiveIn X (journal.complete entry.commandId completion).entries.rows binding) :
    binding = request.binding ∨ ActiveIn X journal.entries.rows binding := by
  obtain ⟨⟨entry', hentry', request', heffect', rfl⟩, hreleased⟩ := h
  rw [CommandJournal.rows_complete, List.mem_map] at hentry'
  obtain ⟨before, hbefore, rfl⟩ := hentry'
  by_cases hid : before.commandId = entry.commandId
  · left
    rw [if_pos hid] at heffect'
    have hsame : before = entry := by
      have hget' := Table.get?_eq_some_iff.2 ⟨hbefore, hid⟩
      rw [hget, some.injEq] at hget'
      exact hget'.symm
    rw [hsame, heffect, ClaimEffect.activate.injEq] at heffect'
    rw [heffect']
  · right
    rw [if_neg hid] at heffect'
    refine ⟨⟨before, hbefore, request', heffect', rfl⟩, ?_⟩
    rintro ⟨released, hmem, release, hrelease, hclaim⟩
    refine hreleased ⟨released, ?_, release, hrelease, hclaim⟩
    -- the released entry is completed, so it is not the one that is being completed
    rw [CommandJournal.rows_complete, List.mem_map]
    refine ⟨released, hmem, if_neg fun hid' => ?_⟩
    have hget' := Table.get?_eq_some_iff.2 ⟨hmem, hid'⟩
    rw [hget, some.injEq] at hget'
    rw [← hget', effect_of_completion_none hnone] at hrelease
    cases hrelease

/-- The claims hold no more of a slot than the inventory offers, and their sum does not overflow. -/
def WithinCapacity (inventory : NodeResourceInventory) (active : List NodeResourceClaimBinding)
    (key : SlotKey) : Prop :=
  ∃ capacity, (inventory.slot? key).bind (·.allocation.scalarAmount) = some capacity ∧
    sharedTotal active key ≤ capacity ∧ sharedTotal active key < 2 ^ 64

instance (inventory : NodeResourceInventory) (active : List NodeResourceClaimBinding)
    (key : SlotKey) : Decidable (WithinCapacity inventory active key) :=
  decidable_of_iff (((inventory.slot? key).bind (·.allocation.scalarAmount)).any fun capacity =>
      sharedTotal active key ≤ capacity ∧ sharedTotal active key < 2 ^ 64)
    (by simp [WithinCapacity, Option.any_eq_true])

/-- The journal after the success of a prepare: its active claims are within the capacity of each
shared slot that the prepare requests. -/
theorem sharedTotal_completed {s : AgentState} (hs : NodeInv X s) (hclaims : ClaimInv X s.journal)
    (hphase : s.phase = .begun envelope) {io : ExecutionIo} {acknowledgement : NodeCommandAck}
    (hcomplete : completeSync X s.nodeId s.journal envelope.commandId
      (executionCompletion X s.nodeId s.journal envelope io).completedAt
      (executionCompletion X s.nodeId s.journal envelope io).outcome = .ok (acknowledgement, journal))
    (heffect : (NodeEvent.completed envelope
      (executionCompletion X s.nodeId s.journal envelope io)).effect X = .activate request) :
    ∃ inventory active, currentResourceInventory io = .ok inventory ∧
      activeResourceClaimBindingsSync X s.nodeId journal = .ok active ∧
      ∀ slot ∈ request.binding.slots, slot.kind.isSharedCapacity = true →
        WithinCapacity inventory active slot.key := by
  have hpayload : envelope.payload = .resourceClaimPrepare request :=
    payload_of_effect_activate heffect
  obtain ⟨result, hsuccess, -⟩ := success_of_effect heffect (by simp)
  have houtcome : executionOutcome X s.nodeId s.journal envelope io = .succeeded result := by
    simp only [JournalEntry.success?] at hsuccess
    split at hsuccess
    · rename_i hcompletion
      cases hsuccess
      exact congrArg JournalCompletion.outcome (some.inj hcompletion)
    · cases hsuccess
  obtain ⟨inventory, active, prepared, hinventory, hactive, hprepare, -⟩ :=
    executionOutcome_prepared hpayload houtcome
  obtain ⟨-, -, hvalid', hcompleted⟩ := completeSync_ok hcomplete
  have hordered' := hcompleted.ordered hs.ordered
  have hclaims' := hclaims.completed hcompleted
  obtain ⟨entry, hget, rfl, hnone, rfl⟩ := hs.completeSync_ok (by rw [hphase]; rfl) hcomplete
  obtain ⟨-, projection, hprojection, rfl⟩ :=
    (activeResourceClaimBindingsSync_ok_iff hs.ordered).1 hactive
  obtain ⟨projection', hprojection'⟩ := hvalid'.exists_projection hordered'
  refine ⟨inventory, projection'.activeBindings, hinventory,
    (activeResourceClaimBindingsSync_ok_iff hordered').2
      ⟨⟨hs.journalNode, hvalid'⟩, projection', hprojection', rfl⟩, fun slot hslot hshared => ?_⟩
  obtain ⟨capacity, hcapacity, hle, hlt⟩ := sharedTotal_prepared hprepare hslot hshared
  have hsubset : projection'.activeBindings ⊆ request.binding :: projection.activeBindings := by
    intro binding hbinding
    rw [mem_activeBindings_iff hprojection' hclaims'.preparesFirst] at hbinding
    rw [mem_cons, mem_activeBindings_iff hprojection hclaims.preparesFirst]
    exact activeIn_complete (effect_of_core rfl ▸ heffect) hget hnone hbinding
  have hmono := sharedTotal_subset (activeBindings_nodup (exclusive_project hprojection')) hsubset
    slot.key
  exact ⟨capacity, hcapacity, hmono.trans hle, hmono.trans_lt hlt⟩

/-! ### Every reachable state -/

variable (X)

structure ClaimsExclusive (s : AgentState) : Prop where
  /-- The replay of the journal reports exactly the claims that were prepared and not released, and
  they are compatible. -/
  active : ∃ active, activeResourceClaimBindingsSync X s.nodeId s.journal = .ok active ∧
    (∀ binding, binding ∈ active ↔ ActiveIn X s.journal.entries.rows binding) ∧
    active.Pairwise fun a b => a.claimId ≠ b.claimId ∧ Compatible a b
  /-- When the command in execution is a prepare and its success is journaled, the shared slots it
  requests are within the capacity of the inventory that the execution has read. -/
  capacity : ∀ io envelope request, s.phase = .begun envelope →
    (run (step X) s [.dispatch io, .complete]).history.getLast?.map (NodeEvent.effect X) =
      some (.activate request) →
    ∃ inventory active, currentResourceInventory io = .ok inventory ∧
      activeResourceClaimBindingsSync X s.nodeId
        (run (step X) s [.dispatch io, .complete]).journal = .ok active ∧
      ∀ slot ∈ request.binding.slots, slot.kind.isSharedCapacity = true →
        WithinCapacity inventory active slot.key

variable {X}

theorem not_activate_dispatchEvents {applied : Bool} {history : List NodeEvent} :
    (history ++ dispatchEvents envelope applied).getLast?.map (NodeEvent.effect X) ≠
      some (.activate request) := by
  cases applied <;> simp [dispatchEvents, NodeEvent.effect]

/-- **Active claims exclude each other**, in every state that the commands of a node, their
redeliveries and crashes can reach. -/
theorem claims_exclusive {nodeId : Uuid} (h : nodeId ≠ 0) (actions : List NodeAction) :
    ClaimsExclusive X (run (step X) (init nodeId) actions) := by
  have hs := nodeInv_run (X := X) h actions
  have hclaims := claimInv_run (X := X) h actions
  generalize run (step X) (init nodeId) actions = s at hs hclaims
  constructor
  · obtain ⟨projection, hprojection⟩ := hs.valid.exists_projection hs.ordered
    refine ⟨projection.activeBindings, (activeResourceClaimBindingsSync_ok_iff hs.ordered).2
      ⟨⟨hs.journalNode, hs.valid⟩, projection, hprojection, rfl⟩, ?_, ?_⟩
    · exact mem_activeBindings_iff hprojection hclaims.preparesFirst
    · exact activeBindings_pairwise (exclusive_project hprojection)
  · intro io envelope request hphase hlast
    simp only [run_cons, run_nil, step, AgentState.dispatch, hphase, complete]
      at hlast ⊢
    -- the last event is a completion only if the journal accepted it
    split at hlast
    · rename_i acknowledgement journal hcomplete
      rw [getLast?_concat, map_some, some.injEq] at hlast
      exact sharedTotal_completed hs hclaims hphase hcomplete hlast
    · exact absurd hlast not_activate_dispatchEvents

namespace Sample

/-- The inventory after the node has lost seven eighths of its memory. -/
def shrunkInventory : NodeResourceInventory :=
  { inventory with
    generation := 2
    slots := [
      { kind := .cpu, stableResourceId := "cpu0", allocation := .scalar 1000 .milliCpu },
      { kind := .memory, stableResourceId := "mem0", allocation := .scalar 512 .byte }] }

/-- A prepare of another claim, on the processor slot alone. -/
def prepareCpu : NodeResourceClaimPrepare where
  schema := .current
  claimGeneration := 1
  claimDigest := .sha256 31
  binding := { binding with
    claimId := 12
    inventoryGeneration := 2
    runtimeUnitId := "v"
    slots := slots.take 1 }

/-- The sample claim is prepared, and the second one is begun. -/
def prepareTwice : List NodeAction :=
  attempt (command 1 claimId (.resourceClaimPrepare prepare)) (io (seconds 11)) ++
    [.begin (command 2 12 (.resourceClaimPrepare prepareCpu))]

end Sample

/-- A shared slot that a prepare does not request may exceed the capacity that the inventory has
shrunk to. -/
theorem shrunk_capacity_exceeded :
    let io := { Sample.io (seconds 21) with
      resourceInventory := some (.ok shrunkInventory) }
    let s := run (step external) (init Sample.nodeId) prepareTwice
    let s' := run (step external) s [.dispatch io, .complete]
    s'.history.getLast?.map (NodeEvent.effect external) =
        some (.activate prepareCpu) ∧
      ∃ active, activeResourceClaimBindingsSync external Sample.nodeId s'.journal =
          .ok active ∧
        ¬ WithinCapacity shrunkInventory active (.memory, "mem0") := by
  decide +kernel

/-- The prepare of the sample claim, checked against the full inventory. -/
theorem claims_exclusive_prepared :
    ∃ inventory active,
      currentResourceInventory (Sample.io (seconds 11)) = .ok inventory ∧
      activeResourceClaimBindingsSync external Sample.nodeId
        (run (step external) (init Sample.nodeId)
          (attempt (command 1 Sample.claimId (.resourceClaimPrepare prepare))
            (Sample.io (seconds 11)))).journal = .ok active ∧
      ∀ slot ∈ prepare.binding.slots, slot.kind.isSharedCapacity = true →
        WithinCapacity inventory active slot.key :=
  (claims_exclusive (X := external) (by decide : Sample.nodeId ≠ 0)
    [.begin (command 1 Sample.claimId (.resourceClaimPrepare prepare))]).capacity
    (Sample.io (seconds 11)) _ prepare rfl (by decide +kernel)

end A3SCloud
