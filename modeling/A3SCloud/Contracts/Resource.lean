import Mathlib.Data.String.Basic
import Mathlib.Order.Basic
import A3SCloud.Contracts.Basic

/-!
# Hard resources

The model of `crates/contracts/src/resource.rs`: the kinds of resource a node offers, the amounts
or ranges allocated from them, and the slots a claim binds.

`validateSlotBindings` and `validateSlotEvidence` share one definition, `validateSlots`, which asks
for a bounded, nonempty list whose `(kind, stable_resource_id)` keys strictly increase;
`validateSlotBindings_nodup` is what later proofs take from it.
-/

namespace A3SCloud

open Checks

inductive ResourceKind
  | cpu
  | memory
  | ephemeralStorage
  | hostPort
  | accelerator
  | volume
  deriving DecidableEq

namespace ResourceKind

/-- The position in the declaration, by which the source orders kinds. -/
def rank : ResourceKind → ℕ
  | cpu => 0
  | memory => 1
  | ephemeralStorage => 2
  | hostPort => 3
  | accelerator => 4
  | volume => 5

def asStr : ResourceKind → String
  | cpu => "cpu"
  | memory => "memory"
  | ephemeralStorage => "ephemeral_storage"
  | hostPort => "host_port"
  | accelerator => "accelerator"
  | volume => "volume"

/-- The kinds whose slots several claims may share. -/
def isSharedCapacity : ResourceKind → Bool
  | cpu | memory | ephemeralStorage => true
  | hostPort | accelerator | volume => false

end ResourceKind

inductive ResourceUnit
  | milliCpu
  | byte
  | port
  | count
  deriving DecidableEq

inductive ResourceAllocation
  | scalar (amount : ℕ) (unit : ResourceUnit)
  | range (start endInclusive : ℕ) (unit : ResourceUnit)
  deriving DecidableEq

namespace ResourceAllocation

def validateFor (kind : ResourceKind) (allocation : ResourceAllocation) : Except String Unit :=
  match kind, allocation with
  | .cpu, .scalar amount .milliCpu
  | .memory, .scalar amount .byte
  | .ephemeralStorage, .scalar amount .byte
  | .accelerator, .scalar amount .count
  | .volume, .scalar amount .count =>
    refuseIf (amount = 0) "hard resource allocation does not match its resource kind"
  | .hostPort, .range start endInclusive .port =>
    refuseIf (¬ (0 < start ∧ start ≤ endInclusive ∧ endInclusive ≤ 65535))
      "hard resource allocation does not match its resource kind"
  | _, _ => .error "hard resource allocation does not match its resource kind"

def contains : ResourceAllocation → ResourceAllocation → Bool
  | .scalar capacity capacityUnit, .scalar requested requestedUnit =>
    capacityUnit = requestedUnit ∧ requested ≤ capacity
  | .range capacityStart capacityEnd capacityUnit, .range requestedStart requestedEnd requestedUnit =>
    capacityUnit = requestedUnit ∧ capacityStart ≤ requestedStart ∧ requestedEnd ≤ capacityEnd
  | _, _ => false

def scalarAmount : ResourceAllocation → Option ℕ
  | .scalar amount _ => some amount
  | .range _ _ _ => none

end ResourceAllocation

structure ResourceSlotBinding where
  kind : ResourceKind
  stableResourceId : String
  allocation : ResourceAllocation
  slotGeneration : ℕ
  fenceToken : Uuid
  deriving DecidableEq

structure ResourceSlotEvidence where
  kind : ResourceKind
  stableResourceId : String
  slotGeneration : ℕ
  fenceToken : Uuid
  deriving DecidableEq

/-- The identity of a slot on its node. -/
abbrev SlotKey := ResourceKind × String

namespace SlotKey

/-- The order of `(kind, stable_resource_id)` pairs. -/
def before (a b : SlotKey) : Bool := a.1.rank < b.1.rank ∨ a.1 = b.1 ∧ a.2 < b.2

theorem before_irrefl (a : SlotKey) : before a a = false := by
  simp [before]

theorem before_trans {a b c : SlotKey} (hab : before a b = true) (hbc : before b c = true) :
    before a c = true := by
  simp only [before, decide_eq_true_eq] at *
  rcases hab with hab | ⟨hab, hab'⟩ <;> rcases hbc with hbc | ⟨hbc, hbc'⟩
  · exact .inl (by omega)
  · exact .inl (by rw [← hbc]; exact hab)
  · exact .inl (by rw [hab]; exact hbc)
  · exact .inr ⟨hab.trans hbc, lt_trans hab' hbc'⟩

end SlotKey

def ResourceSlotBinding.key (slot : ResourceSlotBinding) : SlotKey :=
  (slot.kind, slot.stableResourceId)

def ResourceSlotEvidence.key (slot : ResourceSlotEvidence) : SlotKey :=
  (slot.kind, slot.stableResourceId)

def ResourceSlotBinding.evidence (slot : ResourceSlotBinding) : ResourceSlotEvidence where
  kind := slot.kind
  stableResourceId := slot.stableResourceId
  slotGeneration := slot.slotGeneration
  fenceToken := slot.fenceToken

/-! ### Slot checks -/

def validateStableResourceId (value : String) : Except String Unit :=
  refuseIf (value = "" ∨ 255 < value.utf8ByteSize ∨
      containsAny value ['\x00', '\r', '\n', '\t'] ∨
      (value.toList.head?.any isTrimmed ∨ value.toList.getLast?.any isTrimmed))
    "stable hard resource ID is invalid"

def ResourceSlotBinding.validate (slot : ResourceSlotBinding) : Except String Unit := do
  validateStableResourceId slot.stableResourceId
  slot.allocation.validateFor slot.kind
  refuseIf (slot.slotGeneration = 0 ∨ slot.fenceToken = 0)
    "hard resource slot fencing identity is invalid"

def ResourceSlotEvidence.validate (slot : ResourceSlotEvidence) : Except String Unit := do
  validateStableResourceId slot.stableResourceId
  refuseIf (slot.slotGeneration = 0 ∨ slot.fenceToken = 0) "hard resource slot evidence is invalid"

section Sorted

variable {σ : Type} (validate : σ → Except String Unit) (key : σ → SlotKey)

/-- Every slot is valid and follows the one before it. -/
def validateSorted (unsorted : String) : Option SlotKey → List σ → Except String Unit
  | _, [] => .ok ()
  | previous, slot :: slots => do
    validate slot
    refuseIf (previous.any (fun candidate => !candidate.before (key slot))) unsorted
    validateSorted unsorted (some (key slot)) slots

/-- The shape shared by the slot lists of claims, evidence and inventories. -/
def validateSlots (unbounded unsorted : String) (slots : List σ) : Except String Unit := do
  refuseIf (slots = [] ∨ 256 < slots.length) unbounded
  validateSorted validate key unsorted none slots

variable {validate key}

theorem validateSorted_ok {unsorted : String} {previous : Option SlotKey} {slots : List σ}
    {u : Unit} (h : validateSorted validate key unsorted previous slots = .ok u) :
    (∀ slot ∈ slots, validate slot = .ok ()) ∧
      (∀ k ∈ previous, ∀ slot ∈ slots, k.before (key slot) = true) ∧
      slots.Pairwise (fun a b => (key a).before (key b) = true) := by
  induction slots generalizing previous with
  | nil => simp
  | cons slot slots ih =>
    simp only [validateSorted, ok_rules] at h
    obtain ⟨hv, hp, hrest⟩ := h
    obtain ⟨hall, hnext, hsorted⟩ := ih hrest
    have hk : ∀ k ∈ previous, k.before (key slot) = true := by
      rintro k rfl
      simpa using hp
    refine ⟨List.forall_mem_cons.2 ⟨hv, hall⟩, ?_, List.pairwise_cons.2 ⟨?_, hsorted⟩⟩
    · intro k hkp
      refine List.forall_mem_cons.2 ⟨hk k hkp, fun s hs => ?_⟩
      exact SlotKey.before_trans (hk k hkp) (hnext _ rfl s hs)
    · exact fun s hs => hnext _ rfl s hs

theorem validateSlots_ok {unbounded unsorted : String} {slots : List σ} {u : Unit}
    (h : validateSlots validate key unbounded unsorted slots = .ok u) :
    (∀ slot ∈ slots, validate slot = .ok ()) ∧ (slots.map key).Nodup := by
  simp only [validateSlots, ok_rules] at h
  obtain ⟨hall, -, hsorted⟩ := validateSorted_ok h.2
  refine ⟨hall, List.pairwise_map.2 (hsorted.imp fun {a b} hab heq => ?_)⟩
  rw [heq, SlotKey.before_irrefl] at hab
  cases hab

end Sorted

def validateSlotBindings : List ResourceSlotBinding → Except String Unit :=
  validateSlots ResourceSlotBinding.validate ResourceSlotBinding.key
    "hard resource claim must contain a bounded non-empty slot set"
    "hard resource slot bindings must be uniquely and canonically sorted"

def validateSlotEvidence : List ResourceSlotEvidence → Except String Unit :=
  validateSlots ResourceSlotEvidence.validate ResourceSlotEvidence.key
    "hard resource evidence must contain a bounded non-empty slot set"
    "hard resource slot evidence must be uniquely and canonically sorted"

/-- A claim binds each slot of a node at most once. -/
theorem validateSlotBindings_nodup {slots : List ResourceSlotBinding} {u : Unit}
    (h : validateSlotBindings slots = .ok u) : (slots.map ResourceSlotBinding.key).Nodup :=
  (validateSlots_ok h).2

end A3SCloud
