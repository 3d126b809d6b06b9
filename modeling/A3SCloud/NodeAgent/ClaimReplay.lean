import A3SCloud.NodeAgent.Projection

/-!
# The replay seen from one claim

What a journal entry does to the resource claims is either to register a claim or to apply one of
five effects. `ClaimEffect.on` is what an effect does to one claim; `register_ok` and `apply_ok` take
a step of the replay apart, and every later fact about projections is derived from them.
-/

namespace A3SCloud

open Checks List ProjectedResourceClaim

variable (X : External)

/-- What the success of a command does to the claims of its node. -/
inductive ClaimEffect
  | nothing
  | activate (request : NodeResourceClaimPrepare)
  | bind (request : RuntimeApplyRequest) (binding : NodeResourceClaimBinding)
  | fence (unitId : String) (generation : ℕ)
  | release (request : NodeResourceClaimRelease)
  deriving DecidableEq

open ClaimEffect

namespace ClaimEffect

def of (payload : NodeCommandPayload) (result : NodeCommandResult) : ClaimEffect :=
  match payload, result with
  | .resourceClaimPrepare request, .resourceClaimPrepared _ => .activate request
  | .runtimeApply request (some binding), .runtimeApplied _ => .bind request binding
  | .runtimeStop request, .runtimeStopped inspection =>
    if stoppedOrAbsent X inspection then .fence request.unitId request.generation else .nothing
  | .runtimeRemove request, .runtimeRemoved _ => .fence request.unitId request.generation
  | .resourceClaimRelease request, .resourceClaimReleased _ => .release request
  | _, _ => .nothing

def on (effect : ClaimEffect) (claim : ProjectedResourceClaim) : ProjectedResourceClaim :=
  match effect with
  | .nothing => claim
  | .activate request => if claim.claimId = request.binding.claimId then claim.activate else claim
  | .bind _ binding => if claim.claimId = binding.claimId then claim.bind else claim
  | .fence unitId generation => claim.fence unitId generation
  | .release request => if claim.claimId = request.binding.claimId then claim.release else claim

@[simp] theorem on_nothing : on .nothing = id := rfl

@[simp] theorem binding_on (effect : ClaimEffect) (claim : ProjectedResourceClaim) :
    (effect.on claim).binding = claim.binding := by
  cases effect with
  | nothing => rfl
  | activate => simp only [on]; split_ifs <;> rfl
  | bind => simp only [on]; split_ifs <;> rfl
  | fence unitId generation => exact claim.binding_fence unitId generation
  | release => simp only [on]; split_ifs <;> rfl

theorem claimId_on (effect : ClaimEffect) (claim : ProjectedResourceClaim) :
    (effect.on claim).claimId = claim.claimId := by
  simp [ProjectedResourceClaim.claimId]

end ClaimEffect

def JournalEntry.effect (entry : JournalEntry) : ClaimEffect :=
  match entry.success? with
  | none => .nothing
  | some result => of X entry.envelope.payload result

namespace ResourceClaimJournalProjection

/-- No active claim stands against the activation of a binding. -/
structure Activatable (projection : ResourceClaimJournalProjection)
    (binding : NodeResourceClaimBinding) : Prop where
  unit : ∀ claim ∈ projection.claims.rows, claim.claimId ≠ binding.claimId →
    claim.holds binding.runtimeUnitId binding.runtimeGeneration = false
  fresh : ∀ claim ∈ projection.claims.rows, claim.active = true → claim.claimId ≠ binding.claimId
  exclusive : ∀ claim ∈ projection.claims.rows, claim.active = true →
    ∀ slot ∈ claim.binding.slots, ∀ requested ∈ binding.slots,
      requested.kind.isSharedCapacity = false → slot.key ≠ requested.key

variable (projection : ResourceClaimJournalProjection)

/-- What has to hold for an effect to be accepted. -/
def Accepts : ClaimEffect → Prop
  | .nothing => True
  | .activate request => projection.Activatable request.binding
  | .bind request binding =>
    projection.validateRuntimeApply X request.spec (some binding) = .ok ()
  | .fence _ _ => True
  | .release request => projection.validateRelease request = .ok ()

def after (effect : ClaimEffect) : ResourceClaimJournalProjection :=
  ⟨projection.claims.mapRows effect.on effect.claimId_on⟩

@[simp] theorem after_nothing : projection.after .nothing = projection := by
  cases projection
  simp only [after, mk.injEq]
  exact Table.ext_rows (by simp)

variable {X}

variable {projection projection' : ResourceClaimJournalProjection}
  {binding : NodeResourceClaimBinding} {u : Unit} {request : RuntimeApplyRequest}
  {entry : JournalEntry}

theorem update_ok {claimId : Uuid} {missing : CommandJournalError}
    {change : ProjectedResourceClaim → ProjectedResourceClaim}
    {keeps : ∀ claim, (change claim).claimId = claim.claimId}
    (h : projection.update claimId missing change keeps = .ok projection') :
    projection' = ⟨projection.claims.modify claimId change keeps⟩ := by
  simp only [update, ok_rules] at h
  obtain ⟨_, -, rfl⟩ := h
  rfl

theorem validateActivation_ok {candidate : ProjectedResourceClaim}
    (h : validateActivation binding candidate = .ok u) :
    candidate.claimId ≠ binding.claimId ∧
      ∀ slot ∈ candidate.binding.slots, ∀ requested ∈ binding.slots,
        requested.kind.isSharedCapacity = false → slot.key ≠ requested.key := by
  simp only [validateActivation, ok_rules, checkAll_ok_iff] at h
  refine ⟨h.1, fun slot hslot requested hrequested hshared hkey => ?_⟩
  have hcheck := h.2 requested hrequested
  rw [hshared] at hcheck
  simp only [Bool.false_eq_true, if_false, refuseIf_ok_iff, any_eq_true,
    decide_eq_true_eq] at hcheck
  exact hcheck ⟨slot, hslot, hkey⟩

theorem activatePrepared_ok {request : NodeResourceClaimPrepare}
    (h : projection.activatePrepared request = .ok projection') :
    projection.Activatable request.binding ∧ projection' = projection.after (.activate request) := by
  simp only [activatePrepared, ok_rules, checkAll_ok_iff, mem_filter, and_imp] at h
  obtain ⟨hunit, hactive, hupdate⟩ := h
  refine ⟨⟨fun claim hclaim hne => ?_, fun claim hclaim ha => ?_, fun claim hclaim ha => ?_⟩, ?_⟩
  · simp only [any_eq_true, Bool.and_eq_true, decide_eq_true_eq, not_exists, not_and] at hunit
    have := hunit claim hclaim hne
    simpa using this
  · exact (validateActivation_ok (hactive claim hclaim ha)).1
  · exact (validateActivation_ok (hactive claim hclaim ha)).2
  · exact update_ok hupdate

/-- A replayed success passes the check of its effect and applies it. -/
theorem settle_ok {payload : NodeCommandPayload} {result : NodeCommandResult}
    (h : projection.settle X payload result = .ok projection') :
    projection.Accepts X (of X payload result) ∧
      projection' = projection.after (of X payload result) := by
  have hnothing : projection = projection.after .nothing := (after_nothing projection).symm
  unfold settle at h
  split at h
  · simp only [ok_rules] at h
    exact activatePrepared_ok h.2
  · simp only [ok_rules] at h
    exact ⟨h.1, update_ok h.2.2⟩
  · simp only [ok_rules] at h
    obtain ⟨-, rfl⟩ := h
    exact ⟨trivial, hnothing⟩
  · rename_i request inspection
    simp only [of]
    split_ifs at h ⊢ with hstopped
    · simp only [pure_ok_iff] at h
      subst h
      exact ⟨trivial, rfl⟩
    · simp only [pure_ok_iff] at h
      subst h
      exact ⟨trivial, hnothing⟩
  · simp only [pure_ok_iff] at h
    subst h
    exact ⟨trivial, rfl⟩
  · simp only [ok_rules] at h
    exact ⟨h.1, update_ok h.2.2⟩
  · simp only [pure_ok_iff] at h
    subst h
    have heffect : of X payload result = .nothing := by
      unfold of
      split <;> simp_all
    rw [heffect]
    exact ⟨trivial, hnothing⟩

/-- A settled projection is reached whenever the effect is accepted and its evidence is valid. -/
theorem settle_bind {observation : RuntimeObservation}
    (happly : projection.validateRuntimeApply X request.spec (some binding) = .ok ())
    (hobservation : binding.validateRuntimeObservation X observation = .ok ())
    (hclaim : (projection.claims.get? binding.claimId).isSome) :
    projection.settle X (.runtimeApply request (some binding)) (.runtimeApplied observation) =
      .ok (projection.after (.bind request binding)) := by
  obtain ⟨claim, hclaim⟩ := Option.isSome_iff_exists.1 hclaim
  simp only [settle, ok_rules, update]
  exact ⟨happly, hobservation, claim, hclaim, rfl⟩

@[simp] theorem get?_after (projection : ResourceClaimJournalProjection) (effect : ClaimEffect)
    (claimId : Uuid) :
    (projection.after effect).claims.get? claimId =
      (projection.claims.get? claimId).map effect.on := by
  simp [after]

def claimRegister (claimId : Uuid) (entry : JournalEntry)
    (claim? : Option ProjectedResourceClaim) : Option ProjectedResourceClaim :=
  match entry.envelope.payload with
  | .resourceClaimPrepare request =>
    if request.binding.claimId = claimId then
      some ((claim?.getD (.new request)).terminal entry.completion.isSome)
    else claim?
  | .resourceClaimRelease request =>
    if request.binding.claimId = claimId then claim?.map (·.advance request.claimGeneration)
    else claim?
  | _ => claim?

/-- What a registered prepare or release agrees on with its claim. -/
def Registers (projection : ResourceClaimJournalProjection) (entry : JournalEntry) : Prop :=
  match entry.envelope.payload with
  | .resourceClaimPrepare request =>
    ((projection.claims.get? request.binding.claimId).getD (.new request)).registerPrepare request =
      .ok ()
  | .resourceClaimRelease request =>
    ∃ claim, projection.claims.get? request.binding.claimId = some claim ∧
      claim.registerRelease request = .ok ()
  | _ => True

theorem register_ok (h : projection.register entry = .ok projection') :
    projection.Registers entry ∧ ∀ claimId,
      projection'.claims.get? claimId =
        claimRegister claimId entry (projection.claims.get? claimId) := by
  unfold register at h
  split at h
  · rename_i request hpayload
    simp only [ok_rules] at h
    obtain ⟨hregister, rfl⟩ := h
    simp only [Registers, claimRegister, hpayload]
    refine ⟨hregister, fun claimId => ?_⟩
    rw [Table.get?_modify, Table.get?_insertIfAbsent]
    by_cases hid : request.binding.claimId = claimId
    · subst hid; simp
    · have hne : ¬ claimId = request.binding.claimId := fun h => hid h.symm
      simp [hid, hne]
  · rename_i request hpayload
    simp only [ok_rules] at h
    obtain ⟨claim, hclaim, hregister, rfl⟩ := h
    simp only [Registers, claimRegister, hpayload]
    refine ⟨⟨claim, hclaim, hregister⟩, fun claimId => ?_⟩
    rw [Table.get?_modify]
    by_cases hid : request.binding.claimId = claimId
    · subst hid; simp
    · have hne : ¬ claimId = request.binding.claimId := fun h => hid h.symm
      simp [hid, hne]
  · rename_i hprepare hrelease
    simp only [pure_ok_iff] at h
    subst h
    unfold Registers claimRegister
    constructor
    · split <;> simp_all
    · intro claimId
      split <;> simp_all

/-- A step of the replay: an accepted registration, then an accepted effect. -/
theorem apply_ok (h : projection.apply X entry = .ok projection') :
    ∃ registered, projection.register entry = .ok registered ∧
      registered.Accepts X (entry.effect X) ∧ projection' = registered.after (entry.effect X) := by
  simp only [apply, bind_ok_iff] at h
  obtain ⟨registered, hregister, hsettle⟩ := h
  refine ⟨registered, hregister, ?_⟩
  unfold JournalEntry.effect
  cases hs : entry.success? with
  | none =>
    simp only [hs, pure_ok_iff] at hsettle
    subst hsettle
    exact ⟨trivial, (after_nothing registered).symm⟩
  | some =>
    simp only [hs] at hsettle
    exact settle_ok hsettle

/-- One claim through a step of the replay. -/
theorem get?_apply (h : projection.apply X entry = .ok projection') (claimId : Uuid) :
    projection'.claims.get? claimId =
      (claimRegister claimId entry (projection.claims.get? claimId)).map (entry.effect X).on := by
  obtain ⟨registered, hregister, -, rfl⟩ := apply_ok h
  rw [get?_after, (register_ok hregister).2]

/-! ### What the checks accept -/

/-- Registration changes neither the binding of a known claim nor its place in its life. -/
theorem claimRegister_some (claimId : Uuid) (entry : JournalEntry) (claim : ProjectedResourceClaim) :
    ∃ claim', claimRegister claimId entry (some claim) = some claim' ∧
      claim'.binding = claim.binding ∧ claim'.active = claim.active ∧ claim'.bound = claim.bound ∧
      claim'.runtimeFenced = claim.runtimeFenced ∧ claim'.released = claim.released := by
  unfold claimRegister
  split
  · split_ifs
    · refine ⟨_, rfl, ?_⟩
      simp only [Option.getD_some, terminal]
      split_ifs <;> exact ⟨rfl, rfl, rfl, rfl, rfl⟩
    · exact ⟨_, rfl, rfl, rfl, rfl, rfl, rfl⟩
  · split_ifs
    · exact ⟨_, rfl, rfl, rfl, rfl, rfl, rfl⟩
    · exact ⟨_, rfl, rfl, rfl, rfl, rfl, rfl⟩
  · exact ⟨_, rfl, rfl, rfl, rfl, rfl, rfl⟩

theorem validateRelease_ok_iff {request : NodeResourceClaimRelease} :
    projection.validateRelease request = .ok u ↔
      NodeResourceClaimRelease.validate request = .ok () ∧
      ∃ claim, projection.claims.get? request.binding.claimId = some claim ∧
        claim.binding = request.binding ∧ claim.prepareTerminal = true ∧
        claim.prepareGeneration < request.claimGeneration ∧
        request.claimGeneration = claim.latestGeneration ∧
        request.claimDigest ≠ claim.prepareDigest ∧ claim.released = false ∧
        ¬ (claim.active = true ∧ claim.bound = true ∧ claim.runtimeFenced = false) := by
  simp only [validateRelease, ok_rules, not_or, not_not, not_le, Bool.not_eq_true]
  constructor
  · rintro ⟨hvalid, claim, hclaim, ⟨hb, ht, hg, hl, hd⟩, hr, hf⟩
    exact ⟨hvalid, claim, hclaim, hb, by simpa using ht, hg, hl, hd, hr, hf⟩
  · rintro ⟨hvalid, claim, hclaim, hb, ht, hg, hl, hd, hr, hf⟩
    exact ⟨hvalid, claim, hclaim, ⟨hb, by simpa using ht, hg, hl, hd⟩, hr, hf⟩

/-- A bound apply is accepted only for the active claim with exactly its binding. -/
theorem validateRuntimeApply_bound {spec : RuntimeUnitSpec}
    (h : projection.validateRuntimeApply X spec (some binding) = .ok u) :
    ∃ claim, projection.claims.get? binding.claimId = some claim ∧ claim.binding = binding ∧
      claim.active = true ∧ binding.runtimeUnitId = spec.unitId ∧
      binding.runtimeGeneration = spec.generation := by
  simp only [validateRuntimeApply, ok_rules] at h
  obtain ⟨-, h⟩ := h
  cases hfind : projection.claims.rows.find? (·.holds spec.unitId spec.generation) with
  | none => simp [hfind] at h
  | some claim =>
    rw [hfind] at h
    by_cases hb : claim.binding = binding
    · have hholds := find?_some hfind
      simp only [holds, Bool.and_eq_true, decide_eq_true_eq] at hholds
      refine ⟨claim, ?_, hb, hholds.1.1, hb ▸ hholds.1.2, hb ▸ hholds.2⟩
      exact Table.get?_eq_some_iff.2 ⟨mem_of_find?_eq_some hfind, by rw [← hb]; rfl⟩
    · simp [hb] at h

/-! ### Held claims -/

/-- The claim of a Runtime that was applied and not fenced since. -/
structure Held (binding : NodeResourceClaimBinding) (claim : ProjectedResourceClaim) : Prop where
  binding : claim.binding = binding
  active : claim.active = true
  bound : claim.bound = true
  unfenced : claim.runtimeFenced = false

/-- A projection in which the claim of the binding is held. -/
def Holds (projection : ResourceClaimJournalProjection) (binding : NodeResourceClaimBinding) : Prop :=
  ∃ claim, projection.claims.get? binding.claimId = some claim ∧ Held binding claim

theorem Holds.validateRelease_ne (hheld : projection.Holds binding)
    {request : NodeResourceClaimRelease} (hid : request.binding.claimId = binding.claimId) :
    projection.validateRelease request ≠ .ok u := by
  intro h
  obtain ⟨claim, hclaim, hheld⟩ := hheld
  obtain ⟨-, claim', hclaim', -, -, -, -, -, -, hfree⟩ := validateRelease_ok_iff.1 h
  rw [hid, hclaim, Option.some.injEq] at hclaim'
  subst hclaim'
  exact hfree ⟨hheld.active, hheld.bound, hheld.unfenced⟩

theorem Holds.register {registered : ResourceClaimJournalProjection}
    (hheld : projection.Holds binding) (h : projection.register entry = .ok registered) :
    registered.Holds binding := by
  obtain ⟨claim, hclaim, hheld⟩ := hheld
  obtain ⟨claim', hclaim', hb, ha, hbound, hf, -⟩ :=
    claimRegister_some binding.claimId entry claim
  refine ⟨claim', ?_, hb.trans hheld.binding, ha.trans hheld.active, hbound.trans hheld.bound,
    hf.trans hheld.unfenced⟩
  rw [(register_ok h).2, hclaim, hclaim']

/-- Only a fence of its Runtime ends the holding of a claim. -/
theorem Holds.after (hheld : projection.Holds binding) {effect : ClaimEffect}
    (haccepts : projection.Accepts X effect) :
    effect = .fence binding.runtimeUnitId binding.runtimeGeneration ∨
      (projection.after effect).Holds binding := by
  obtain ⟨claim, hclaim, hclaimHeld⟩ := hheld
  have hget : (projection.after effect).claims.get? binding.claimId = some (effect.on claim) := by
    rw [get?_after, hclaim, Option.map_some]
  cases effect with
  | nothing => exact .inr ⟨claim, hget, hclaimHeld⟩
  | activate =>
    refine .inr ⟨_, hget, ?_⟩
    simp only [on]
    split_ifs
    · exact ⟨hclaimHeld.binding, rfl, hclaimHeld.bound, hclaimHeld.unfenced⟩
    · exact hclaimHeld
  | bind =>
    refine .inr ⟨_, hget, ?_⟩
    simp only [on]
    split_ifs
    · exact ⟨hclaimHeld.binding, hclaimHeld.active, rfl, rfl⟩
    · exact hclaimHeld
  | fence unitId generation =>
    by_cases hfence : claim.holds unitId generation = true
    · left
      simp only [holds, Bool.and_eq_true, decide_eq_true_eq] at hfence
      rw [← hclaimHeld.binding, hfence.1.2, hfence.2]
    · refine .inr ⟨claim, ?_, hclaimHeld⟩
      rw [hget]
      simp [on, ProjectedResourceClaim.fence, hfence]
  | release request =>
    by_cases hid : request.binding.claimId = binding.claimId
    · exact absurd haccepts (Holds.validateRelease_ne ⟨claim, hclaim, hclaimHeld⟩ hid)
    · refine .inr ⟨claim, ?_, hclaimHeld⟩
      have hne : ¬ claim.claimId = request.binding.claimId := by
        rw [ProjectedResourceClaim.claimId, hclaimHeld.binding]
        exact fun h => hid h.symm
      rw [hget]
      simp [on, hne]

/-- The success of a bound apply makes its claim held. -/
theorem holds_of_bind (haccepts : projection.Accepts X (.bind request binding)) :
    (projection.after (.bind request binding)).Holds binding := by
  obtain ⟨claim, hclaim, hb, ha, -⟩ := validateRuntimeApply_bound haccepts
  refine ⟨claim.bind, ?_, hb, ha, rfl, rfl⟩
  rw [get?_after, hclaim]
  simp [on, ProjectedResourceClaim.claimId, hb]

end ResourceClaimJournalProjection

/-! ### Runs of the replay -/

open ResourceClaimJournalProjection

def replayEntries (projection : ResourceClaimJournalProjection) (entries : List JournalEntry) :
    Except CommandJournalError ResourceClaimJournalProjection :=
  entries.foldlM (ResourceClaimJournalProjection.apply X) projection

variable {X}

variable {projection projection' : ResourceClaimJournalProjection} {entry : JournalEntry}
  {l₁ l₂ : List JournalEntry}

theorem replayEntries_cons_ok {entries : List JournalEntry} :
    replayEntries X projection (entry :: entries) = .ok projection' ↔
      ∃ next, projection.apply X entry = .ok next ∧ replayEntries X next entries = .ok projection' := by
  simp only [replayEntries, foldlM_cons, bind_ok_iff]

theorem replayEntries_append_ok :
    replayEntries X projection (l₁ ++ l₂) = .ok projection' ↔
      ∃ next, replayEntries X projection l₁ = .ok next ∧ replayEntries X next l₂ = .ok projection' := by
  simp only [replayEntries, foldlM_append, bind_ok_iff]

theorem projectEntries_append_ok :
    projectEntries X (l₁ ++ l₂) = .ok projection ↔
      ∃ next, projectEntries X l₁ = .ok next ∧ replayEntries X next l₂ = .ok projection :=
  replayEntries_append_ok

theorem projectEntries_concat_ok {l : List JournalEntry} :
    projectEntries X (l ++ [entry]) = .ok projection ↔
      ∃ next, projectEntries X l = .ok next ∧ next.apply X entry = .ok projection := by
  rw [projectEntries_append_ok]
  simp [replayEntries]

end A3SCloud
