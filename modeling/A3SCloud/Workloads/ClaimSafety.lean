import A3SCloud.Contracts.Sample
import A3SCloud.Lib.Runs
import A3SCloud.Workloads.ClaimStore

/-!
# Safety of the claim store

What holds in every state that reservations and transitions of claims can reach.

* `Safe` is the invariant: every claim that is not released holds the leases of its slots, every
  lease that names a claim is held by it, and a node serves one replica of a Workload.
* `sharedAmount` is what the claims take from a shared slot; `sharedAmount_members_le` bounds it after
  a batch.
* `claimStore_safe` collects what this gives for the operations of the store after any run.
-/

namespace A3SCloud

open Checks List AtomicResourceClaimReservation ClaimStore Option Table

variable {X : External}

namespace ClaimStore

/-! ### The slots of a reservation -/

/-- What was checked for a slot that a reservation takes. -/
structure SlotReserved (store : ClaimStore) (reservation : ResourceClaimReservation)
    (request : ResourceSlotRequest) (slot : ResourceSlotBinding) : Prop where
  key : slot.key = request.key
  allocation : slot.allocation = request.allocation
  generation : ∀ lease, store.slots.get? (reservation.leaseKey request.key) = some lease →
    slot.slotGeneration = lease.generation + 1
  shared : request.kind.isSharedCapacity = true →
    store.validateSharedCapacity reservation request = .ok ()
  exclusive : request.kind.isSharedCapacity = false →
    ∀ lease, store.slots.get? (reservation.leaseKey request.key) = some lease →
      lease.activeClaimId = none

variable {store : ClaimStore} {reservation : ResourceClaimReservation}
  {request : ResourceSlotRequest} {slot : ResourceSlotBinding} {claim : ResourceClaim}

theorem reserveSlot_ok {fenceToken : SlotKey → Uuid}
    (h : store.reserveSlot reservation fenceToken request = .ok slot) :
    SlotReserved store reservation request slot := by
  simp only [reserveSlot, ok_rules] at h
  obtain ⟨hvalid, generation, hgeneration, rfl⟩ := h
  refine ⟨rfl, rfl, fun lease hlease => ?_, fun hshared => ?_, fun hexclusive lease hlease => ?_⟩
  · rw [hlease, nextSlotGeneration, orElse_ok_iff, checkedAdd_eq_some] at hgeneration
    exact hgeneration.1.symm
  · rw [validateSlot, if_pos hshared] at hvalid
    exact hvalid
  · rw [validateSlot, if_neg (by simp [hexclusive]), refuseIf_ok_iff, hlease] at hvalid
    simpa using hvalid

namespace Reserved

variable {store store' : ClaimStore} {reservation : ResourceClaimReservation}
  {fenceToken : SlotKey → Uuid} {claim : ResourceClaim} {slot : ResourceSlotBinding}

variable (h : Reserved X store reservation fenceToken claim store')

include h

theorem slotReserved (hslot : slot ∈ claim.slots) :
    ∃ request ∈ reservation.slots, SlotReserved store reservation request slot := by
  obtain ⟨request, hrequest, hok⟩ := exists_left_of_mem h.slots hslot
  exact ⟨request, hrequest, reserveSlot_ok hok⟩

theorem leases_nodup :
    ((claim.slots.map (newLease claim)).map SlotLease.key).Nodup := by
  have hnodup := validateSlotBindings_nodup h.slotsValid
  rw [List.map_map]
  have hmap : claim.slots.map (SlotLease.key ∘ newLease claim) =
      (claim.slots.map ResourceSlotBinding.key).map
        (SlotLeaseKey.mk claim.organizationId claim.nodeId) := by
    rw [List.map_map]
    rfl
  rw [hmap]
  exact hnodup.map fun a b hab => (SlotLeaseKey.mk.inj hab).2.2

theorem lease_of_mem (hslot : slot ∈ claim.slots) :
    store'.slots.get? (claim.leaseKey slot) = some (newLease claim slot) := by
  rw [h.store]
  exact get?_insertAll_of_mem (a := newLease claim slot)
    (fun _ ha _ hb => inj_on_of_nodup_map h.leases_nodup ha hb)
    (List.mem_map_of_mem hslot)

/-- The other leases stay as they are. -/
theorem lease_of_not_mem {key : SlotLeaseKey}
    (hkey : ∀ slot ∈ claim.slots, claim.leaseKey slot ≠ key) :
    store'.slots.get? key = store.slots.get? key := by
  rw [h.store]
  refine get?_insertAll_of_not_mem fun lease hlease => ?_
  obtain ⟨slot, hslot, rfl⟩ := List.mem_map.1 hlease
  exact hkey slot hslot

theorem claims : store'.claims = store.claims.insert claim := by rw [h.store]

theorem claim_fresh : store.claims.get? claim.key = none := by
  have hid : claim.key = reservation.id := by rw [ResourceClaim.key, h.identity]; rfl
  rw [hid]
  exact h.fresh

end Reserved

/-! ### The invariant -/

/-- What holds of the claims and the leases in every reachable store. -/
structure Safe (store : ClaimStore) : Prop where
  leased : ∀ claim ∈ store.claims.rows, claim.state ≠ .released → ∀ slot ∈ claim.slots,
    ∃ lease, store.slots.get? (claim.leaseKey slot) = some lease ∧
      leaseMatches claim slot lease = true
  held : ∀ key lease claimId, store.slots.get? key = some lease →
    lease.activeClaimId = some claimId → ∃ claim, store.claims.get? claimId = some claim ∧
      claim.state ≠ .released ∧ ∃ slot ∈ claim.slots, claim.leaseKey slot = key ∧
        slot.kind.isSharedCapacity = false
  apart : ∀ a ∈ store.claims.rows, ∀ b ∈ store.claims.rows, a.state ≠ .released →
    b.state ≠ .released → a.organizationId = b.organizationId → a.workloadId = b.workloadId →
      a.nodeId = b.nodeId → a.replicaId = b.replicaId

theorem Safe.empty : Safe ClaimStore.empty where
  leased := fun _ h => by cases h
  held := fun _ _ _ h => by cases h
  apart := fun _ h => by cases h

/-- A lease that an exclusive slot matches names its claim. -/
theorem activeClaimId_of_leaseMatches {lease : SlotLease}
    (hkind : slot.kind.isSharedCapacity = false) (h : leaseMatches claim slot lease = true) :
    lease.activeClaimId = some claim.id := by
  rw [leaseMatches, if_neg (by simp [hkind]), decide_eq_true_eq] at h
  exact h.1

theorem leaseMatches_newLease (claim : ResourceClaim) (slot : ResourceSlotBinding) :
    leaseMatches claim slot (newLease claim slot) = true := by
  unfold leaseMatches newLease
  split_ifs <;> simp_all

theorem leaseMatches_congr {claim' : ResourceClaim} (hid : claim'.id = claim.id)
    (slot : ResourceSlotBinding) (lease : SlotLease) :
    leaseMatches claim' slot lease = leaseMatches claim slot lease := by
  unfold leaseMatches
  rw [hid]

/-! ### Reservations keep the invariant -/

section Reservation

variable {store store' : ClaimStore} {reservation : ResourceClaimReservation}
  {fenceToken : SlotKey → Uuid} {claim old : ResourceClaim}

variable (h : Reserved X store reservation fenceToken claim store') (hsafe : Safe store)

include h

/-- No claim of another replica of the Workload holds the node. -/
theorem Reserved.apart (hold : old ∈ store.claims.rows) (hstate : old.state ≠ .released)
    (horganization : old.organizationId = claim.organizationId)
    (hworkload : old.workloadId = claim.workloadId) (hnode : old.nodeId = claim.nodeId) :
    old.replicaId = claim.replicaId := by
  have hexcludes := h.alone old hold
  rw [h.identity] at horganization hworkload hnode ⊢
  by_contra hreplica
  rw [excludesNode, decide_eq_false_iff_not] at hexcludes
  exact hexcludes ⟨horganization, hworkload, hnode, hreplica, hstate⟩

include hsafe

/-- The lease of a claim that was there before still matches: a shared slot has gone on to a later
generation, and no exclusive slot that is held was taken. -/
theorem Reserved.leased_old (hold : old ∈ store.claims.rows) (hstate : old.state ≠ .released)
    {slot : ResourceSlotBinding} (hslot : slot ∈ old.slots) :
    ∃ lease, store'.slots.get? (old.leaseKey slot) = some lease ∧
      leaseMatches old slot lease = true := by
  obtain ⟨lease, hlease, hmatches⟩ := hsafe.leased old hold hstate slot hslot
  by_cases htaken : ∃ taken ∈ claim.slots, claim.leaseKey taken = old.leaseKey slot
  · obtain ⟨taken, htaken, hkey⟩ := htaken
    obtain ⟨request, -, hrequest⟩ := h.slotReserved htaken
    have hrequestKey : reservation.leaseKey request.key = old.leaseKey slot := by
      rw [← hrequest.key, ← h.leaseKey, hkey]
    have hslotKey : taken.key = slot.key := congrArg SlotLeaseKey.slot hkey
    have hkind : request.kind = slot.kind := by
      have := hrequest.key.symm.trans hslotKey
      exact congrArg Prod.fst this
    cases hshared : slot.kind.isSharedCapacity with
    | true =>
      have hgeneration := hrequest.generation lease (by rw [hrequestKey, hlease])
      have htakenKind : taken.kind = slot.kind := congrArg Prod.fst hslotKey
      refine ⟨newLease claim taken, hkey ▸ h.lease_of_mem htaken, ?_⟩
      rw [leaseMatches, if_pos hshared, decide_eq_true_eq] at hmatches ⊢
      simp only [newLease, htakenKind, hshared, if_true, and_true]
      refine ⟨by omega, fun heq => ?_⟩
      omega
    | false =>
      have hfree := hrequest.exclusive (by rw [hkind, hshared]) lease (by rw [hrequestKey, hlease])
      rw [activeClaimId_of_leaseMatches hshared hmatches] at hfree
      cases hfree
  · rw [h.lease_of_not_mem fun taken htakenMem heq => htaken ⟨taken, htakenMem, heq⟩]
    exact ⟨lease, hlease, hmatches⟩

/-- A reservation names its claim in the leases it takes and leaves the others alone. -/
theorem Reserved.held {key : SlotLeaseKey} {lease : SlotLease} {claimId : Uuid}
    (hlease : store'.slots.get? key = some lease) (hactive : lease.activeClaimId = some claimId) :
    ∃ holder, store'.claims.get? claimId = some holder ∧ holder.state ≠ .released ∧
      ∃ slot ∈ holder.slots, holder.leaseKey slot = key ∧ slot.kind.isSharedCapacity = false := by
  by_cases htaken : ∃ taken ∈ claim.slots, claim.leaseKey taken = key
  · obtain ⟨taken, htaken, rfl⟩ := htaken
    rw [h.lease_of_mem htaken, Option.some.injEq] at hlease
    subst hlease
    simp only [newLease] at hactive
    split_ifs at hactive with hkind
    cases hactive
    refine ⟨claim, ?_, by simp [h.state], taken, htaken, rfl, by simpa using hkind⟩
    rw [h.claims]
    exact (get?_insert _ _ _).trans (if_pos rfl)
  · rw [h.lease_of_not_mem fun taken htakenMem heq => htaken ⟨taken, htakenMem, heq⟩] at hlease
    obtain ⟨holder, hget, hstate, hslot⟩ := hsafe.held key lease claimId hlease hactive
    refine ⟨holder, ?_, hstate, hslot⟩
    have hne : claimId ≠ claim.key := by
      rintro rfl
      rw [h.claim_fresh] at hget
      cases hget
    rw [h.claims, get?_insert, if_neg hne, hget]

theorem Safe.reserved : Safe store' := by
  refine ⟨fun c hc hstate slot hslot => ?_, fun key lease claimId => h.held hsafe,
    fun a ha b hb hsa hsb horganization hworkload hnode => ?_⟩
  · rw [h.claims] at hc
    rcases mem_insert.1 hc with rfl | ⟨hc, -⟩
    · exact ⟨_, h.lease_of_mem hslot, leaseMatches_newLease c slot⟩
    · exact h.leased_old hsafe hc hstate hslot
  · rw [h.claims] at ha hb
    rcases mem_insert.1 ha with rfl | ⟨hold, -⟩ <;>
      rcases mem_insert.1 hb with rfl | ⟨hold', -⟩
    · rfl
    · exact (h.apart hold' hsb horganization.symm hworkload.symm hnode.symm).symm
    · exact h.apart hold hsa horganization hworkload hnode
    · exact hsafe.apart a hold b hold' hsa hsb horganization hworkload hnode

end Reservation

/-! ### Transitions keep the invariant -/

section Transition

variable {store store' : ClaimStore} {claimId : Uuid} {current next : ResourceClaim}

theorem Follows.leaseKey (h : Follows current next) (slot : ResourceSlotBinding) :
    next.leaseKey slot = current.leaseKey slot := by
  rw [ResourceClaim.leaseKey, h.identity]
  rfl

theorem Follows.key (h : Follows current next) : next.key = current.key := by
  rw [ResourceClaim.key, h.identity]
  rfl

/-- A claim that has moved on was not released. -/
theorem Follows.state_ne (h : Follows current next) (hne : next ≠ current) :
    current.state ≠ .released := fun hstate => hne (h.released hstate)

variable {slot : ResourceSlotBinding}

theorem mem_exclusiveKeys {claim : ResourceClaim} {key : SlotLeaseKey} :
    key ∈ exclusiveKeys claim ↔
      ∃ slot ∈ claim.slots, slot.kind.isSharedCapacity = false ∧ claim.leaseKey slot = key := by
  simp only [exclusiveKeys, List.mem_map, mem_filter, Bool.not_eq_true', and_assoc]

/-- A slot of another claim is not one of those that a release gives up. -/
theorem Safe.not_mem_exclusiveKeys (hsafe : Safe store) {other : ResourceClaim}
    (hother : other ∈ store.claims.rows) (hstate : other.state ≠ .released)
    (hne : other.key ≠ next.key) (hslot : slot ∈ other.slots)
    (hleases : ∀ slot ∈ next.slots, store.validateLeaseOf next slot = .ok ()) :
    other.leaseKey slot ∉ exclusiveKeys next := by
  intro hmem
  obtain ⟨taken, htaken, hkind, hkey⟩ := mem_exclusiveKeys.1 hmem
  obtain ⟨lease, hlease, hmatches⟩ := validateLeaseOf_ok_iff.1 (hleases taken htaken)
  obtain ⟨lease', hlease', hmatches'⟩ := hsafe.leased other hother hstate slot hslot
  rw [hkey, hlease', Option.some.injEq] at hlease
  subst hlease
  have hslotKind : slot.kind = taken.kind :=
    (congrArg Prod.fst (congrArg SlotLeaseKey.slot hkey)).symm
  have hactive := activeClaimId_of_leaseMatches hkind hmatches
  rw [activeClaimId_of_leaseMatches (by rw [hslotKind, hkind]) hmatches',
    Option.some.injEq] at hactive
  exact hne hactive

variable (hsafe : Safe store) (hget : store.claims.get? claimId = some current)
  (hfollows : Follows current next)

include hsafe hget hfollows

/-- A claim that moves on holds the leases it has held. -/
theorem Safe.leased_next (hne : next ≠ current) (hslot : slot ∈ next.slots) :
    ∃ lease, store.slots.get? (next.leaseKey slot) = some lease ∧
      leaseMatches next slot lease = true := by
  have hmem := (get?_eq_some_iff.1 hget).1
  rw [hfollows.slots] at hslot
  obtain ⟨lease, hlease, hmatches⟩ :=
    hsafe.leased current hmem (hfollows.state_ne hne) slot hslot
  refine ⟨lease, by rw [hfollows.leaseKey, hlease], ?_⟩
  rw [leaseMatches_congr hfollows.key, hmatches]

/-- The replicas of a Workload stay apart when a claim moves on. -/
theorem Safe.apart_next (hne : next ≠ current) :
    ∀ a ∈ (store.claims.insert next).rows, ∀ b ∈ (store.claims.insert next).rows,
      a.state ≠ .released → b.state ≠ .released → a.organizationId = b.organizationId →
      a.workloadId = b.workloadId → a.nodeId = b.nodeId → a.replicaId = b.replicaId := by
  have hmem := (get?_eq_some_iff.1 hget).1
  have hcurrent := hfollows.state_ne hne
  -- a claim of the new store has the identity of one of the old store that is not released
  have hold : ∀ c ∈ (store.claims.insert next).rows, c.state ≠ .released →
      ∃ c' ∈ store.claims.rows, c'.state ≠ .released ∧
        c.toResourceClaimIdentity = c'.toResourceClaimIdentity := by
    intro c hc hstate
    rcases mem_insert.1 hc with rfl | ⟨hc, -⟩
    · exact ⟨current, hmem, hcurrent, hfollows.identity⟩
    · exact ⟨c, hc, hstate, rfl⟩
  intro a ha b hb hsa hsb
  obtain ⟨a', ha', hsa', hida⟩ := hold a ha hsa
  obtain ⟨b', hb', hsb', hidb⟩ := hold b hb hsb
  rw [hida, hidb]
  exact hsafe.apart a' ha' b' hb' hsa' hsb'

/-- The holder of a lease is the same claim when the claim moves on without being released. -/
theorem Safe.held_next {key : SlotLeaseKey} {lease : SlotLease} {holderId : Uuid}
    (hlease : store.slots.get? key = some lease) (hactive : lease.activeClaimId = some holderId)
    (hnext : holderId = claimId → next.state ≠ .released) :
    ∃ holder, (store.claims.insert next).get? holderId = some holder ∧
      holder.state ≠ .released ∧ ∃ slot ∈ holder.slots, holder.leaseKey slot = key ∧
        slot.kind.isSharedCapacity = false := by
  have hkey : next.key = claimId := hfollows.key.trans (get?_eq_some_iff.1 hget).2
  obtain ⟨holder, hholder, hstate, slot, hslot, hslotKey, hkind⟩ :=
    hsafe.held key lease holderId hlease hactive
  rw [get?_insert, hkey]
  by_cases hid : holderId = claimId
  · rw [hid, hget, Option.some.injEq] at hholder
    subst hholder
    refine ⟨next, if_pos hid, hnext hid, slot, hfollows.slots ▸ hslot, ?_, hkind⟩
    rw [hfollows.leaseKey, hslotKey]
  · exact ⟨holder, by rw [if_neg hid, hholder], hstate, slot, hslot, hslotKey, hkind⟩

theorem Safe.mutated (h : Mutated store claimId current next store') :
    Safe store' := by
  have hkey : next.key = claimId := hfollows.key.trans (get?_eq_some_iff.1 hget).2
  cases h with
  | unchanged => exact hsafe
  | moved hne hstate =>
    refine ⟨fun c hc hs slot hslot => ?_, fun key lease holderId hlease hactive => ?_,
      hsafe.apart_next hget hfollows hne⟩
    · rcases mem_insert.1 hc with rfl | ⟨hc, -⟩
      · exact hsafe.leased_next hget hfollows hne hslot
      · exact hsafe.leased c hc hs slot hslot
    · exact hsafe.held_next hget hfollows hlease hactive fun _ => hstate
  | released hne hstate hleases =>
    refine ⟨fun c hc hs slot hslot => ?_, fun key lease holderId hlease hactive => ?_,
      hsafe.apart_next hget hfollows hne⟩
    · rcases mem_insert.1 hc with rfl | ⟨hc, hother⟩
      · exact absurd hstate hs
      · rw [get?_modifyAll SlotLease.clear_clear,
          if_neg (hsafe.not_mem_exclusiveKeys hc hs hother hslot hleases)]
        exact hsafe.leased c hc hs slot hslot
    · rw [get?_modifyAll SlotLease.clear_clear] at hlease
      split_ifs at hlease with hcleared
      · obtain ⟨lease', -, rfl⟩ := map_eq_some_iff.1 hlease
        cases hactive
      · refine hsafe.held_next hget hfollows hlease hactive fun hid => absurd ?_ hcleared
        -- the leases that name the released claim are among those it gives up
        obtain ⟨holder, hholder, -, slot, hslot, hslotKey, hkind⟩ :=
          hsafe.held key lease holderId hlease hactive
        rw [hid, hget, Option.some.injEq] at hholder
        subst hholder
        refine mem_exclusiveKeys.2 ⟨slot, hfollows.slots ▸ hslot, hkind, ?_⟩
        rw [hfollows.leaseKey, hslotKey]

end Transition

/-! ### Shared capacity -/

/-- What the claims that are not released take from a shared slot. -/
def sharedAmount (store : ClaimStore) (key : SlotLeaseKey) : ℕ :=
  ((store.heldSlots key).map (fun slot => slot.allocation.scalarAmount.getD 0)).sum

theorem sumAllocations_ok {slots : List ResourceSlotBinding} {total result : ℕ}
    (h : sumAllocations slots total = .ok result) :
    result = total + (slots.map (fun slot => slot.allocation.scalarAmount.getD 0)).sum := by
  induction slots generalizing total with
  | nil => cases h; simp
  | cons slot slots ih =>
    simp only [sumAllocations, ok_rules, checkedAdd_eq_some] at h
    obtain ⟨amount, hamount, _, ⟨rfl, -⟩, hrest⟩ := h
    rw [ih hrest, map_cons, sum_cons, hamount, getD_some]
    omega

/-- A shared slot is taken when its capacity in the inventory of the reservation allows it. -/
theorem validateSharedCapacity_ok (h : store.validateSharedCapacity reservation request = .ok ()) :
    ∃ limit amount, capacity reservation request.key = some limit ∧
      request.allocation.scalarAmount = some amount ∧
      store.sharedAmount (reservation.leaseKey request.key) + amount ≤ limit := by
  simp only [validateSharedCapacity, ok_rules] at h
  obtain ⟨limit, hlimit, amount, hamount, allocated, hallocated, hrefuse⟩ := h
  refine ⟨limit, amount, hlimit, hamount, ?_⟩
  have hsum := sumAllocations_ok hallocated
  rw [Nat.zero_add] at hsum
  cases hadd : checkedAdd allocated amount with
  | none => simp [hadd] at hrefuse
  | some =>
    obtain ⟨rfl, -⟩ := checkedAdd_eq_some.1 hadd
    simp only [hadd, all_some, decide_eq_true_eq, not_lt] at hrefuse
    rwa [hsum] at hrefuse

section Amount

variable {store store' : ClaimStore} {reservation : ResourceClaimReservation}
  {fenceToken : SlotKey → Uuid} {claim : ResourceClaim}
  (h : Reserved X store reservation fenceToken claim store')

include h

/-- A new claim adds its own slots to those that are held. -/
theorem Reserved.heldSlots (key : SlotLeaseKey) :
    store'.heldSlots key = store.heldSlots key ++
      claim.slots.filter (fun slot => claim.leaseKey slot = key) := by
  obtain ⟨organizationId, nodeId, slotKey⟩ := key
  have hrows : store'.claims.rows = store.claims.rows ++ [claim] := by
    rw [h.claims, rows_insert_of_none h.claim_fresh]
  unfold ClaimStore.heldSlots
  rw [hrows, filter_append, flatMap_append]
  congr 1
  by_cases hplace : claim.organizationId = organizationId ∧ claim.nodeId = nodeId
  · obtain ⟨rfl, rfl⟩ := hplace
    simp [h.state, ResourceClaim.leaseKey]
  · have hother : ∀ slot : ResourceSlotBinding,
        claim.leaseKey slot ≠ ⟨organizationId, nodeId, slotKey⟩ := by
      intro slot heq
      simp only [ResourceClaim.leaseKey, SlotLeaseKey.mk.injEq] at heq
      exact hplace ⟨heq.1, heq.2.1⟩
    simp only [hother, decide_false, filter_false]
    rw [flatMap_eq_nil_iff]
    intro other hmem
    simp only [mem_filter, mem_singleton, decide_eq_true_eq] at hmem
    obtain ⟨rfl, horganization, hnode, -⟩ := hmem
    exact absurd ⟨horganization, hnode⟩ hplace

theorem Reserved.sharedAmount_other {key : SlotLeaseKey}
    (hkey : ∀ request ∈ reservation.slots, reservation.leaseKey request.key ≠ key) :
    store'.sharedAmount key = store.sharedAmount key := by
  have hnone : claim.slots.filter (fun slot => claim.leaseKey slot = key) = [] := by
    rw [filter_eq_nil_iff]
    intro slot hslot
    obtain ⟨request, hrequest, hreserved⟩ := h.slotReserved hslot
    rw [decide_eq_true_eq, h.leaseKey, hreserved.key]
    exact hkey request hrequest
  rw [sharedAmount, h.heldSlots, hnone, append_nil]
  rfl

/-- After a reservation a shared slot it has taken is within its capacity. -/
theorem Reserved.sharedAmount_le {request : ResourceSlotRequest}
    (hrequest : request ∈ reservation.slots) (hshared : request.kind.isSharedCapacity = true) :
    ∃ limit, capacity reservation request.key = some limit ∧
      store'.sharedAmount (reservation.leaseKey request.key) ≤ limit := by
  obtain ⟨slot, hslot, hok⟩ := exists_right_of_mem h.slots hrequest
  have hreserved := reserveSlot_ok hok
  obtain ⟨limit, amount, hlimit, hamount, hle⟩ :=
    validateSharedCapacity_ok (hreserved.shared hshared)
  -- the claim has one slot with the key of the request
  have hone : claim.slots.filter
      (fun other => claim.leaseKey other = reservation.leaseKey request.key) = [slot] := by
    have hfilter : (fun other => decide (claim.leaseKey other = reservation.leaseKey request.key)) =
        fun other : ResourceSlotBinding => decide (other.key = slot.key) := by
      funext other
      simp [h.leaseKey, ResourceClaimReservation.leaseKey, hreserved.key]
    rw [hfilter]
    have hnodup := validateSlotBindings_nodup h.slotsValid
    refine perm_singleton.1 ?_
    rw [perm_ext_iff_of_nodup ((hnodup.of_map _).filter _) (nodup_singleton _)]
    intro other
    simp only [mem_filter, decide_eq_true_eq, mem_singleton]
    constructor
    · rintro ⟨hother, hkey⟩
      exact inj_on_of_nodup_map hnodup hother hslot hkey
    · rintro rfl
      exact ⟨hslot, rfl⟩
  refine ⟨limit, hlimit, ?_⟩
  rw [sharedAmount, h.heldSlots, hone, map_append, sum_append]
  simp only [map_cons, map_nil, sum_cons, sum_nil, hreserved.allocation,
    hamount, getD_some, Nat.add_zero]
  exact hle

end Amount

/-! ### Batches -/

section Batch

variable {fenceToken : Uuid → SlotKey → Uuid}

variable {store store' : ClaimStore} {claims' : List ResourceClaim} {claims : List ResourceClaim}

/-- The invariant holds after the members of a batch. -/
theorem Safe.members {members : List ResourceClaimReservation} (hsafe : Safe store)
    (h : reserveMembers X fenceToken members store claims = .ok (claims', store')) :
    Safe store' := by
  induction members generalizing store claims with
  | nil => cases h; exact hsafe
  | cons member members ih =>
    simp only [reserveMembers, bind_ok_iff] at h
    obtain ⟨⟨claim, next⟩, hreserve, hrest⟩ := h
    exact ih (Safe.reserved (reserveNewClaim_ok hreserve) hsafe) hrest

theorem sharedAmount_members_other {members : List ResourceClaimReservation}
    (h : reserveMembers X fenceToken members store claims = .ok (claims', store'))
    {key : SlotLeaseKey} (hkey : ∀ member ∈ members, ∀ request ∈ member.slots,
      member.leaseKey request.key ≠ key) : store'.sharedAmount key = store.sharedAmount key := by
  induction members generalizing store claims with
  | nil => cases h; rfl
  | cons member members ih =>
    simp only [reserveMembers, bind_ok_iff] at h
    obtain ⟨⟨claim, next⟩, hreserve, hrest⟩ := h
    obtain ⟨hfirst, hothers⟩ := forall_mem_cons.1 hkey
    rw [ih hrest hothers, (reserveNewClaim_ok hreserve).sharedAmount_other hfirst]

/-- After a batch a shared slot is within its capacity in the inventory of the last member that takes
it. -/
theorem sharedAmount_members_le {front back : List ResourceClaimReservation}
    {member : ResourceClaimReservation}
    (h : reserveMembers X fenceToken (front ++ member :: back) store claims = .ok (claims', store'))
    {request : ResourceSlotRequest} (hrequest : request ∈ member.slots)
    (hshared : request.kind.isSharedCapacity = true)
    (hlast : ∀ later ∈ back, ∀ request' ∈ later.slots,
      later.leaseKey request'.key ≠ member.leaseKey request.key) :
    ∃ limit, capacity member request.key = some limit ∧
      store'.sharedAmount (member.leaseKey request.key) ≤ limit := by
  induction front generalizing store claims with
  | nil =>
    simp only [nil_append, reserveMembers, bind_ok_iff] at h
    obtain ⟨⟨claim, next⟩, hreserve, hrest⟩ := h
    rw [sharedAmount_members_other hrest hlast]
    exact (reserveNewClaim_ok hreserve).sharedAmount_le hrequest hshared
  | cons first front ih =>
    simp only [cons_append, reserveMembers, bind_ok_iff] at h
    obtain ⟨⟨claim, next⟩, -, hrest⟩ := h
    exact ih hrest

/-- The members of a batch are new, each of them has its claim afterwards, and the other claims are
those that were there before. -/
theorem reserveMembers_claims {members : List ResourceClaimReservation}
    (h : reserveMembers X fenceToken members store claims = .ok (claims', store')) :
    ∃ added, claims' = claims ++ added ∧
      Forall₂ (fun member claim => store.claims.get? member.id = none ∧
        store'.claims.get? member.id = some claim ∧ member.matchesClaim claim = true)
        members added ∧
      ∀ id, (∀ member ∈ members, member.id ≠ id) →
        store'.claims.get? id = store.claims.get? id := by
  induction members generalizing store claims with
  | nil =>
    cases h
    exact ⟨[], by simp, .nil, fun _ _ => rfl⟩
  | cons member members ih =>
    simp only [reserveMembers, bind_ok_iff] at h
    obtain ⟨⟨claim, next⟩, hreserve, hrest⟩ := h
    have hreserved := reserveNewClaim_ok hreserve
    obtain ⟨added, hadded, hmembers, hothers⟩ := ih hrest
    have hkey : claim.key = member.id := by rw [ResourceClaim.key, hreserved.identity]; rfl
    have hnext : ∀ id, next.claims.get? id =
        if id = member.id then some claim else store.claims.get? id := by
      intro id
      rw [hreserved.claims, get?_insert, hkey]
    -- the later members are new after the first one, so they differ from it
    have hlater : ∀ m ∈ members, m.id ≠ member.id := by
      intro m hm heq
      obtain ⟨claim', -, hnone, -⟩ := exists_right_of_mem hmembers hm
      rw [hnext, if_pos heq] at hnone
      cases hnone
    refine ⟨claim :: added, by rw [hadded, append_assoc, singleton_append],
      .cons ⟨hreserved.fresh, ?_, ?_⟩ (hmembers.imp ?_), fun id hid => ?_⟩
    · rw [hothers member.id hlater, hnext, if_pos rfl]
    · simp only [ResourceClaimReservation.matchesClaim, hreserved.identity, hreserved.slotsMatch,
        and_self, decide_true]
    · rintro m claim' ⟨hnone, hsome, hmatch⟩
      rw [hnext] at hnone
      split_ifs at hnone
      exact ⟨hnone, hsome, hmatch⟩
    · obtain ⟨hfirst, hrestIds⟩ := forall_mem_cons.1 hid
      rw [hothers id hrestIds, hnext, if_neg (Ne.symm hfirst)]

end Batch

/-! ### Runs of the store -/

variable (X) in
/-- The operations that change the store. -/
inductive ClaimAction
  | reserve (reservation : ResourceClaimReservation) (fenceToken : SlotKey → Uuid)
  | reserveAtomically (batch : AtomicResourceClaimReservation X)
      (fenceToken : Uuid → SlotKey → Uuid)
  | beginPreparation (organizationId claimId : Uuid) (expectedVersion : ℕ) (commandId : Uuid)
      (time : ℤ)
  | recordPrepared (organizationId claimId : Uuid) (expectedVersion : ℕ) (commandId : Uuid)
      (bindingDigest : DigestText) (time : ℤ)
  | bind (organizationId claimId : Uuid) (expectedVersion : ℕ)
      (evidence : ResourceClaimBindingEvidence) (time : ℤ)
  | beginRelease (organizationId claimId : Uuid) (expectedVersion : ℕ) (commandId : Uuid)
      (time : ℤ)
  | recordReleased (organizationId claimId : Uuid) (expectedVersion : ℕ)
      (evidence : ResourceClaimReleaseEvidence) (time : ℤ)
  | cancelDatabaseReservation (organizationId claimId : Uuid) (expectedVersion : ℕ) (time : ℤ)
  | orphan (organizationId claimId : Uuid) (expectedVersion : ℕ) (failure : String) (time : ℤ)

variable (X) in
def step (store : ClaimStore) : ClaimAction X → ClaimStore
  | .reserve reservation fenceToken => (store.reserve X reservation fenceToken).2
  | .reserveAtomically batch fenceToken => (store.reserveAtomically X batch fenceToken).2
  | .beginPreparation organizationId claimId expectedVersion commandId time =>
    Runs.afterResult store
      (store.beginPreparation organizationId claimId expectedVersion commandId time)
  | .recordPrepared organizationId claimId expectedVersion commandId bindingDigest time =>
    Runs.afterResult store
      (store.recordPrepared organizationId claimId expectedVersion commandId bindingDigest time)
  | .bind organizationId claimId expectedVersion evidence time =>
    Runs.afterResult store (store.bind organizationId claimId expectedVersion evidence time)
  | .beginRelease organizationId claimId expectedVersion commandId time =>
    Runs.afterResult store
      (store.beginRelease X organizationId claimId expectedVersion commandId time)
  | .recordReleased organizationId claimId expectedVersion evidence time =>
    Runs.afterResult store
      (store.recordReleased organizationId claimId expectedVersion evidence time)
  | .cancelDatabaseReservation organizationId claimId expectedVersion time =>
    Runs.afterResult store
      (store.cancelDatabaseReservation organizationId claimId expectedVersion time)
  | .orphan organizationId claimId expectedVersion failure time =>
    Runs.afterResult store (store.orphan organizationId claimId expectedVersion failure time)

theorem Safe.reserveAtomically (hsafe : Safe store) (batch : AtomicResourceClaimReservation X)
    (fenceToken : Uuid → SlotKey → Uuid) : Safe (store.reserveAtomically X batch fenceToken).2 := by
  unfold ClaimStore.reserveAtomically
  dsimp only
  split_ifs
  · exact hsafe
  · exact hsafe
  · split
    · rename_i hmembers
      exact hsafe.members hmembers
    · exact hsafe

/-- Reserving alone is reserving a batch of one. -/
theorem reserve_eq (store : ClaimStore) (reservation : ResourceClaimReservation)
    (fenceToken : SlotKey → Uuid) :
    ((store.reserve X reservation fenceToken).2 = store ∧
        ∀ write, (store.reserve X reservation fenceToken).1 ≠ .ok write) ∨
      ∃ batch, single X reservation = .ok batch ∧
        (store.reserve X reservation fenceToken).2 =
          (store.reserveAtomically X batch (fun _ => fenceToken)).2 ∧
        ∀ write, (store.reserve X reservation fenceToken).1 = .ok write →
          ∃ all, (store.reserveAtomically X batch (fun _ => fenceToken)).1 = .ok all ∧
            all.replayed = write.replayed := by
  unfold reserve
  cases hsingle : single X reservation with
  | error => exact .inl ⟨rfl, fun write h => by cases h⟩
  | ok batch =>
    refine .inr ⟨batch, rfl, ?_⟩
    dsimp only
    generalize store.reserveAtomically X batch (fun _ => fenceToken) = result
    obtain ⟨result, next⟩ := result
    cases result with
    | error => exact ⟨rfl, fun write h => by cases h⟩
    | ok all =>
      refine ⟨rfl, fun write h => ⟨all, rfl, ?_⟩⟩
      cases hfirst : firstClaim all.value with
      | error => simp [hfirst, Except.map] at h
      | ok =>
        simp only [hfirst, Except.map, Except.ok.injEq] at h
        rw [← h]

/-- A transition whose steps follow its claim keeps the invariant. -/
theorem Safe.transition (hsafe : Safe store) {organizationId claimId : Uuid} {expectedVersion : ℕ}
    {transition : ResourceClaim → Except String ResourceClaim}
    (hfollows : ∀ current next, transition current = .ok next → Follows current next) :
    Safe (Runs.afterResult store
      (store.mutate organizationId claimId expectedVersion transition)) := by
  refine Runs.afterResult_of hsafe fun next store' h => ?_
  obtain ⟨current, hget, -, htransition, -, hmutated⟩ := mutate_ok h
  exact hsafe.mutated hget (hfollows current next htransition) hmutated

theorem Safe.step (hsafe : Safe store) (action : ClaimAction X) : Safe (store.step X action) := by
  cases action with
  | reserve reservation fenceToken =>
    rcases reserve_eq (X := X) store reservation fenceToken with ⟨hsame, -⟩ | ⟨batch, -, hbatch, -⟩
    · rw [ClaimStore.step, hsame]
      exact hsafe
    · rw [ClaimStore.step, hbatch]
      exact hsafe.reserveAtomically batch _
  | reserveAtomically batch fenceToken => exact hsafe.reserveAtomically batch fenceToken
  | beginPreparation => exact hsafe.transition fun _ _ => Follows.beginPreparation
  | recordPrepared => exact hsafe.transition fun _ _ => Follows.recordPrepared
  | bind => exact hsafe.transition fun _ _ => Follows.bind
  | beginRelease => exact hsafe.transition fun _ _ => Follows.beginRelease
  | recordReleased => exact hsafe.transition fun _ _ => Follows.recordReleased
  | cancelDatabaseReservation =>
    exact hsafe.transition fun _ _ => Follows.cancelDatabaseReservation
  | orphan => exact hsafe.transition fun _ _ => Follows.orphan

theorem Safe.run (actions : List (ClaimAction X)) :
    Safe (Runs.run (ClaimStore.step X) ClaimStore.empty actions) :=
  Runs.invariant_all (I := Safe) (fun _ action hsafe => Safe.step hsafe action) Safe.empty actions

/-! ### What the operations of the store promise -/

/-- A batch fails and changes nothing, or replays the claims of all its members, or adds them. -/
theorem reserveAtomically_cases (store : ClaimStore) (batch : AtomicResourceClaimReservation X)
    (fenceToken : Uuid → SlotKey → Uuid) :
    (∃ error, store.reserveAtomically X batch fenceToken = (.error error, store)) ∨
      (∃ claims, store.reserveAtomically X batch fenceToken = (.ok ⟨claims, true⟩, store) ∧
        Forall₂ (fun member claim => store.claims.get? member.id = some claim ∧
          member.matchesClaim claim = true) batch.reservations claims) ∨
      ∃ claims next, store.reserveAtomically X batch fenceToken = (.ok ⟨claims, false⟩, next) ∧
        reserveMembers X fenceToken batch.reservations store [] = .ok (claims, next) := by
  unfold reserveAtomically
  dsimp only
  split_ifs with hexisting hconflict
  · exact .inl ⟨_, rfl⟩
  · refine .inr (.inl ⟨_, rfl, ?_⟩)
    simp only [not_or, ne_eq, not_not, List.any_eq_true, not_exists, not_and,
      Bool.not_eq_true', Bool.not_eq_false] at hconflict
    obtain ⟨hlength, hmatches⟩ := hconflict
    -- as many claims as members were found, so every member has one
    have hfound := filterMap_length_eq_length.1 hlength
    rw [existingMembers, forall₂_map_right_iff]
    refine forall₂_filterMap fun member hmember => ?_
    obtain ⟨claim, hclaim⟩ : ∃ claim, store.claims.get? member.id = some claim := by
      simpa [isSome_iff_exists] using hfound member hmember
    refine ⟨(member, claim), by rw [hclaim, map_some], hclaim, ?_⟩
    refine hmatches (member, claim) (mem_filterMap.2 ⟨member, hmember, ?_⟩)
    rw [hclaim, map_some]
  · split
    · rename_i claims next hmembers
      exact .inr (.inr ⟨claims, next, rfl, hmembers⟩)
    · exact .inl ⟨_, rfl⟩

/-- An exclusive slot has at most one claim that is not released, and its lease names exactly this
claim, its generation of the slot and its fence token. -/
structure SlotsExclusive (store : ClaimStore) : Prop where
  alone : ∀ a ∈ store.claims.rows, ∀ b ∈ store.claims.rows, a.state ≠ .released →
    b.state ≠ .released → ∀ slot ∈ a.slots, ∀ slot' ∈ b.slots,
      slot.kind.isSharedCapacity = false → a.leaseKey slot = b.leaseKey slot' → a = b
  named : ∀ claim ∈ store.claims.rows, claim.state ≠ .released → ∀ slot ∈ claim.slots,
    slot.kind.isSharedCapacity = false →
      store.slots.get? (claim.leaseKey slot) =
        some ⟨claim.leaseKey slot, slot.slotGeneration, slot.fenceToken, some claim.id⟩
  held : ∀ key lease claimId, store.slots.get? key = some lease →
    lease.activeClaimId = some claimId → ∃ claim, store.claims.get? claimId = some claim ∧
      claim.state ≠ .released ∧ ∃ slot ∈ claim.slots, claim.leaseKey slot = key ∧
        slot.kind.isSharedCapacity = false

variable (X) in
/-- After a reservation that is not a replay each shared slot it takes is within its capacity in the
inventory of the reservation, for a batch in that of the last member that takes the slot. -/
structure CapacityKept (store : ClaimStore) : Prop where
  single : ∀ reservation fenceToken store' claim,
    store.reserve X reservation fenceToken = (.ok ⟨claim, false⟩, store') →
      ∀ request ∈ reservation.slots, request.kind.isSharedCapacity = true →
        ∃ limit, capacity reservation request.key = some limit ∧
          store'.sharedAmount (reservation.leaseKey request.key) ≤ limit
  batch : ∀ (batch : AtomicResourceClaimReservation X) fenceToken store' claims,
    store.reserveAtomically X batch fenceToken = (.ok ⟨claims, false⟩, store') →
      ∀ front member back, batch.reservations = front ++ member :: back →
        ∀ request ∈ member.slots, request.kind.isSharedCapacity = true →
          (∀ later ∈ back, ∀ request' ∈ later.slots,
            later.leaseKey request'.key ≠ member.leaseKey request.key) →
            ∃ limit, capacity member request.key = some limit ∧
              store'.sharedAmount (member.leaseKey request.key) ≤ limit

/-- Claims of different replicas of one Workload are on different nodes until they are released. -/
def ReplicasApart (store : ClaimStore) : Prop :=
  ∀ a ∈ store.claims.rows, ∀ b ∈ store.claims.rows, a.state ≠ .released → b.state ≠ .released →
    a.organizationId = b.organizationId → a.workloadId = b.workloadId →
      a.replicaId ≠ b.replicaId → a.nodeId ≠ b.nodeId

variable (X) in
/-- A batch that fails changes nothing; one that succeeds has a matching claim for every member
afterwards, and either all of them were there or it has added all of them and nothing else. -/
structure ReservationsAtomic (store : ClaimStore) : Prop where
  failed : ∀ (batch : AtomicResourceClaimReservation X) fenceToken error store',
    store.reserveAtomically X batch fenceToken = (.error error, store') → store' = store
  reserved : ∀ (batch : AtomicResourceClaimReservation X) fenceToken write store',
    store.reserveAtomically X batch fenceToken = (.ok write, store') →
      Forall₂ (fun member claim => store'.claims.get? member.id = some claim ∧
        member.matchesClaim claim = true) batch.reservations write.value
  replayed : ∀ (batch : AtomicResourceClaimReservation X) fenceToken claims store',
    store.reserveAtomically X batch fenceToken = (.ok ⟨claims, true⟩, store') → store' = store
  added : ∀ (batch : AtomicResourceClaimReservation X) fenceToken claims store',
    store.reserveAtomically X batch fenceToken = (.ok ⟨claims, false⟩, store') →
      (∀ member ∈ batch.reservations, store.claims.get? member.id = none) ∧
        ∀ id, (∀ member ∈ batch.reservations, member.id ≠ id) →
          store'.claims.get? id = store.claims.get? id

/-- A release that the claim accepts is recorded when the version is the expected one, and no
release fails because of the leases of the slots. -/
structure ReleasesSettle (store : ClaimStore) : Prop where
  recorded : ∀ claim ∈ store.claims.rows, ∀ evidence time next,
    claim.recordReleased evidence time = .ok next → ∃ store',
      store.recordReleased claim.organizationId claim.id claim.aggregateVersion evidence time =
        .ok (next, store')
  cancelled : ∀ claim ∈ store.claims.rows, ∀ time next,
    claim.cancelDatabaseReservation time = .ok next → ∃ store',
      store.cancelDatabaseReservation claim.organizationId claim.id claim.aggregateVersion time =
        .ok (next, store')
  record_consistent : ∀ organizationId claimId version evidence time,
    store.recordReleased organizationId claimId version evidence time ≠ .error fencingInconsistent
  cancel_consistent : ∀ organizationId claimId version time,
    store.cancelDatabaseReservation organizationId claimId version time ≠
      .error fencingInconsistent

theorem Safe.slotsExclusive (hsafe : Safe store) : SlotsExclusive store := by
  have hnamed : ∀ claim ∈ store.claims.rows, claim.state ≠ .released → ∀ slot ∈ claim.slots,
      slot.kind.isSharedCapacity = false → store.slots.get? (claim.leaseKey slot) =
        some ⟨claim.leaseKey slot, slot.slotGeneration, slot.fenceToken, some claim.id⟩ := by
    intro claim hclaim hstate slot hslot hkind
    obtain ⟨lease, hlease, hmatches⟩ := hsafe.leased claim hclaim hstate slot hslot
    rw [leaseMatches, if_neg (by simp [hkind]), decide_eq_true_eq] at hmatches
    obtain ⟨hactive, hgeneration, htoken⟩ := hmatches
    have hkey := (get?_eq_some_iff.1 hlease).2
    rw [hlease, ← hkey, ← hgeneration, ← htoken, ← hactive]
  refine ⟨fun a ha b hb hsa hsb slot hslot slot' hslot' hkind hkey => ?_, hnamed, hsafe.held⟩
  have hkind' : slot'.kind.isSharedCapacity = false := by
    have : slot.key = slot'.key := congrArg SlotLeaseKey.slot hkey
    rw [← hkind, show slot.kind = slot'.kind from congrArg Prod.fst this]
  have hlease := hnamed a ha hsa slot hslot hkind
  rw [hkey, hnamed b hb hsb slot' hslot' hkind', Option.some.injEq, SlotLease.mk.injEq,
    Option.some.injEq] at hlease
  exact store.claims.eq_of_key_eq ha hb hlease.2.2.2.symm

theorem capacityKept (store : ClaimStore) : CapacityKept X store := by
  have hbatch : ∀ (batch : AtomicResourceClaimReservation X) fenceToken store' claims,
      store.reserveAtomically X batch fenceToken = (.ok ⟨claims, false⟩, store') →
        reserveMembers X fenceToken batch.reservations store [] = .ok (claims, store') := by
    intro batch fenceToken store' claims h
    rcases reserveAtomically_cases store batch fenceToken with
      ⟨_, herror⟩ | ⟨_, hreplay, -⟩ | ⟨_, _, hadded, hmembers⟩
    · rw [herror] at h; cases h
    · rw [hreplay] at h; cases h
    · rw [hadded] at h; cases h; exact hmembers
  refine ⟨fun reservation fenceToken store' claim h request hrequest hshared => ?_,
    fun batch fenceToken store' claims h front member back hsplit request hrequest hshared hlast =>
      sharedAmount_members_le (hsplit ▸ hbatch batch fenceToken store' claims h) hrequest hshared
        hlast⟩
  rcases reserve_eq (X := X) store reservation fenceToken with ⟨-, hnot⟩ | ⟨batch, hsingle, hnext, hok⟩
  · exact absurd (congrArg Prod.fst h) (hnot _)
  · obtain ⟨⟨claims, replayed⟩, hall, hreplayed⟩ := hok _ (congrArg Prod.fst h)
    have hresult : store.reserveAtomically X batch (fun _ => fenceToken) =
        (.ok ⟨claims, false⟩, store') := by
      refine Prod.ext ?_ ?_
      · rw [hall]; cases hreplayed; rfl
      · rw [← hnext, h]
    have hmembers := hbatch batch _ store' claims hresult
    rw [single_reservations hsingle, ← nil_append [_]] at hmembers
    exact sharedAmount_members_le hmembers hrequest hshared (by simp)

theorem Safe.replicasApart (hsafe : Safe store) : ReplicasApart store :=
  fun a ha b hb hsa hsb horganization hworkload hreplica hnode =>
    hreplica (hsafe.apart a ha b hb hsa hsb horganization hworkload hnode)

theorem reservationsAtomic (store : ClaimStore) : ReservationsAtomic X store := by
  refine ⟨fun batch fenceToken error store' h => ?_, fun batch fenceToken write store' h => ?_,
    fun batch fenceToken claims store' h => ?_, fun batch fenceToken claims store' h => ?_⟩ <;>
    rcases reserveAtomically_cases store batch fenceToken with
      ⟨_, herror⟩ | ⟨_, hreplay, hmatches⟩ | ⟨_, _, hadded, hmembers⟩
  · rw [herror] at h; cases h; rfl
  · rw [hreplay] at h; cases h
  · rw [hadded] at h; cases h
  · rw [herror] at h; cases h
  · rw [hreplay] at h; cases h; exact hmatches
  · rw [hadded] at h; cases h
    obtain ⟨added, rfl, hadded, -⟩ := reserveMembers_claims hmembers
    exact hadded.imp fun _ _ h => h.2
  · rw [herror] at h; cases h
  · rw [hreplay] at h; cases h; rfl
  · rw [hadded] at h; cases h
  · rw [herror] at h; cases h
  · rw [hreplay] at h; cases h
  · rw [hadded] at h; cases h
    obtain ⟨added, rfl, hadded, hothers⟩ := reserveMembers_claims hmembers
    refine ⟨fun member hmember => ?_, hothers⟩
    obtain ⟨_, -, hnone, -⟩ := exists_right_of_mem hadded hmember
    exact hnone

section Settle

variable {store : ClaimStore} {transition : ResourceClaim → Except String ResourceClaim}

variable {next : ResourceClaim}

/-- The slots of a claim that moves on can be settled. -/
theorem Safe.settleSlots_ok (hsafe : Safe store) {claimId : Uuid} {current : ResourceClaim}
    (hget : store.claims.get? claimId = some current) (hfollows : Follows current next)
    (hne : next ≠ current) : ∃ store', store.settleSlots next = .ok store' := by
  unfold settleSlots
  split_ifs
  · have hleases : checkAll (store.validateLeaseOf next) next.slots = .ok () :=
      checkAll_ok_iff.2 fun slot hslot =>
        validateLeaseOf_ok_iff.2 (hsafe.leased_next hget hfollows hne hslot)
    exact ⟨_, by rw [releaseSlots, hleases]; rfl⟩
  · exact ⟨store, rfl⟩

theorem Safe.mutate_of_accepted (hsafe : Safe store)
    (hfollows : ∀ current next, transition current = .ok next → Follows current next)
    {claim : ResourceClaim} (hclaim : claim ∈ store.claims.rows)
    (haccepts : transition claim = .ok next) :
    ∃ store', store.mutate claim.organizationId claim.id claim.aggregateVersion transition =
      .ok (next, store') := by
  have hget : store.claims.get? claim.id = some claim := get?_eq_some_iff.2 ⟨hclaim, rfl⟩
  have hfind : store.find claim.organizationId claim.id = .ok claim := find_ok_iff.2 ⟨hget, rfl⟩
  by_cases hsame : next = claim
  · exact ⟨store, by simp [mutate, hfind, haccepts, hsame, Except.mapError]⟩
  · obtain ⟨base, hbase⟩ := hsafe.settleSlots_ok hget (hfollows claim next haccepts) hsame
    refine ⟨{ base with claims := base.claims.insert next }, ?_⟩
    simp [mutate, hfind, haccepts, hsame, hbase]

theorem Safe.mutate_consistent (hsafe : Safe store)
    (hfollows : ∀ current next, transition current = .ok next → Follows current next)
    (organizationId claimId : Uuid) (version : ℕ) :
    store.mutate organizationId claimId version transition ≠ .error fencingInconsistent := by
  intro h
  simp only [mutate, find, bind_error_iff, orElse_error_iff, orElse_ok_iff, mapError_error_iff,
    mapError_ok_iff] at h
  rcases h with ⟨-, hnotFound⟩ | ⟨current, hfound, ⟨message, -, hconflict⟩ | ⟨next, haccepts, h⟩⟩
  · cases hnotFound
  · cases hconflict
  have hget := (filter_eq_some_iff.1 hfound).1
  split_ifs at h with hsame
  · cases h
  simp only [bind_error_iff, refuseIf_error_iff] at h
  rcases h with ⟨-, hversion⟩ | ⟨-, -, hsettle | ⟨base, -, hstored⟩⟩
  · cases hversion
  · obtain ⟨base, hbase⟩ := hsafe.settleSlots_ok hget (hfollows current next haccepts) hsame
    rw [hbase] at hsettle
    cases hsettle
  · cases hstored

theorem Safe.releasesSettle (hsafe : Safe store) : ReleasesSettle store where
  recorded _ hclaim _ _ _ := hsafe.mutate_of_accepted (fun _ _ => Follows.recordReleased) hclaim
  cancelled _ hclaim _ _ :=
    hsafe.mutate_of_accepted (fun _ _ => Follows.cancelDatabaseReservation) hclaim
  record_consistent _ _ _ _ _ := hsafe.mutate_consistent (fun _ _ => Follows.recordReleased) _ _ _
  cancel_consistent _ _ _ _ :=
    hsafe.mutate_consistent (fun _ _ => Follows.cancelDatabaseReservation) _ _ _

end Settle

/-- Whatever operations have run: the exclusive slots have one holder each, the next reservation
keeps the shared capacities, the replicas of a Workload are apart, batches are atomic, and releases
settle. -/
theorem claimStore_safe (actions : List (ClaimAction X)) :
    let store := Runs.run (step X) empty actions
    SlotsExclusive store ∧ CapacityKept X store ∧ ReplicasApart store ∧
      ReservationsAtomic X store ∧ ReleasesSettle store := by
  intro store
  have hsafe : Safe store := Safe.run actions
  exact ⟨hsafe.slotsExclusive, capacityKept store, hsafe.replicasApart, reservationsAtomic store,
    hsafe.releasesSettle⟩

end ClaimStore

/-! ### Members that were planned against different inventories -/

namespace Sample

/-- A member of a replica that is placed on the sample node. -/
def memberBinding (memberId deploymentId : Uuid) : DeploymentReplicaBinding where
  deploymentId := deploymentId
  organizationId := 20
  projectId := 21
  environmentId := 22
  workloadId := workloadId
  revisionId := 23
  replicaId := 24
  replicaGeneration := 1
  memberId := memberId
  nodeId := some nodeId
  placementGeneration := 1
  runtimeUnitId := "u"
  runtimeGeneration := 1
  createdAt := seconds 1
  updatedAt := seconds 1

/-- The node after its processor was enlarged. -/
def laterInventory : NodeResourceInventory :=
  { inventory with
    generation := 2
    slots := [{ kind := .cpu, stableResourceId := "cpu0", allocation := .scalar 2000 .milliCpu }]
    digest := .sha256 170 }

/-- A reservation of a part of the processor for a member. -/
def processorReservation (memberId deploymentId : Uuid) (inventory : NodeResourceInventory) :
    ResourceClaimReservation where
  id := deploymentId
  binding := memberBinding memberId deploymentId
  nodeId := nodeId
  inventory := inventory
  topologyDigest := .sha256 12
  slots := [{ kind := .cpu, stableResourceId := "cpu0", allocation := .scalar 600 .milliCpu }]
  reservedAt := seconds 2

def firstMember : ResourceClaimReservation := processorReservation 30 2 inventory

def secondMember : ResourceClaimReservation := processorReservation 31 102 laterInventory

/-- The inventory of the first member has 1000 units of the processor, and the batch takes 1200: only
the inventory of the second one, with 2000, was looked at last. -/
theorem reserveAtomically_over_capacity :
    ∃ batch, new external [firstMember, secondMember] = .ok batch ∧
      (∃ write, (ClaimStore.empty.reserveAtomically external batch (fun id _ => id)).1 =
        .ok write ∧ write.replayed = false) ∧
      capacity firstMember (.cpu, "cpu0") = some 1000 ∧
      (ClaimStore.empty.reserveAtomically external batch (fun id _ => id)).2.sharedAmount
        (firstMember.leaseKey (.cpu, "cpu0")) = 1200 := by
  decide +kernel

end Sample

end A3SCloud
