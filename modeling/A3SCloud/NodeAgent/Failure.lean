import Mathlib.Data.List.DropRight
import A3SCloud.Contracts.Sample
import A3SCloud.NodeAgent.ClaimLifecycle

/-!
# The failure outcomes of a node

The errors of the adapters in `crates/node-agent/src/executor.rs`, and whether the outcome that
`dispatch_failure` makes of an error passes the checks of an acknowledgement and of the journal.

* `AdapterDispatchError.error` is what `dispatch_failure` reads of the error of an adapter.
* `validateSingleLine_sanitizeError` says that a sanitised text fails the check of a single line only
  by its length: the text is cut to a number of characters and the check counts bytes.
* `CommandJournal.Valid.complete_failed`: a failed outcome that can be acknowledged leaves a valid
  journal, since the replay of the claims differs only by a prepare that has ended.
* `dispatchFailure_validates_iff` says which errors have an outcome that is valid and recorded.
-/

namespace A3SCloud

open Checks List JournalEntry Table String

/-! ### The errors of the adapters -/

def NodeArtifactError.retryable : NodeArtifactError → Bool
  | .transport _ retryable => retryable
  | .storage _ => true
  | .invalid _ | .integrity _ => false

/-- The variants of `NodeBoxBuildError`. -/
inductive BoxBuildErrorKind
  | invalid
  | artifact (error : NodeArtifactError)
  | native
  | state

def BoxBuildErrorKind.code : BoxBuildErrorKind → String
  | .invalid => "invalid_box_build"
  | .artifact _ => "box_build_artifact"
  | .native => "box_build_native"
  | .state => "box_build_state"

def BoxBuildErrorKind.retryable : BoxBuildErrorKind → Bool
  | .invalid | .state => false
  | .artifact error => error.retryable
  | .native => true

/-- The variants of the errors of the three HTTP adapters, of which a refusal has a status. -/
inductive HarnessErrorKind
  | invalid
  | unavailable
  | runtime (kind : RuntimeErrorKind)
  | transport
  | rejected (status : ℕ)
  | protocol

namespace HarnessErrorKind

def retryable : HarnessErrorKind → Bool
  | .unavailable | .transport => true
  | .runtime kind => kind = .providerUnavailable ∨ kind = .transport
  | .rejected status => (500 ≤ status ∧ status < 600) ∨ status ∈ [408, 425, 429]
  | .invalid | .protocol => false

def code (invalid unavailable runtime transport rejected protocol : String) :
    HarnessErrorKind → String
  | .invalid => invalid
  | .unavailable => unavailable
  | .runtime _ => runtime
  | .transport => transport
  | .rejected _ => rejected
  | .protocol => protocol

end HarnessErrorKind

/-- `CodeHarnessError::code`. -/
def codeHarnessCode : HarnessErrorKind → String :=
  HarnessErrorKind.code "invalid_code_harness_binding" "code_harness_unavailable"
    "code_harness_runtime" "code_harness_transport" "code_harness_rejected" "code_harness_protocol"

/-- `AgentProviderHarnessError::code`. -/
def agentProviderHarnessCode : HarnessErrorKind → String :=
  HarnessErrorKind.code "invalid_agent_provider_harness_binding"
    "agent_provider_harness_unavailable" "agent_provider_harness_runtime"
    "agent_provider_harness_transport" "agent_provider_harness_rejected"
    "agent_provider_harness_protocol"

/-- `DurableCellOperatorError::code`. -/
def durableCellOperatorCode : HarnessErrorKind → String :=
  HarnessErrorKind.code "invalid_durable_cell_operator_binding" "durable_cell_runtime_unavailable"
    "durable_cell_runtime_inspection" "durable_cell_operator_transport"
    "durable_cell_operator_rejected" "durable_cell_operator_protocol"

/-- A code of the Plugin Manager that is not a short identifier is replaced. -/
def sanitizePluginHostErrorCode (code : String) : String :=
  if code.toList ≠ [] ∧ code.utf8ByteSize ≤ 127 ∧
      code.toList.all (fun c => c.isLower || c.isDigit || ['.', '_', '-'].contains c) then code
  else "plugin_host_operation_failed"

/-- The errors of the adapters, with the texts they display. -/
inductive AdapterDispatchError
  | boxBuild (kind : BoxBuildErrorKind) (text : String)
  | pluginHost (code message : String)
  | pluginHostUnavailable
  | codeHarness (kind : HarnessErrorKind) (text : String)
  | agentProviderHarness (kind : HarnessErrorKind) (text : String)
  | durableCellOperator (kind : HarnessErrorKind) (text : String)

def AdapterDispatchError.error : AdapterDispatchError → AdapterError
  | .boxBuild kind text => ⟨.ofRetryable kind.retryable, kind.code, text, kind.retryable⟩
  | .pluginHost code message => ⟨.failed, sanitizePluginHostErrorCode code, message, false⟩
  | .pluginHostUnavailable => ⟨.rejected, "plugin_host_unavailable",
      "A3S Use Plugin Manager is not configured on this node", false⟩
  | .codeHarness kind text =>
    ⟨.ofRetryable kind.retryable, codeHarnessCode kind, text, kind.retryable⟩
  | .agentProviderHarness kind text =>
    ⟨.ofRetryable kind.retryable, agentProviderHarnessCode kind, text, kind.retryable⟩
  | .durableCellOperator kind text =>
    ⟨.ofRetryable kind.retryable, durableCellOperatorCode kind, text, kind.retryable⟩

namespace DispatchError

def Raised : DispatchError → Prop
  | .adapter error => ∃ raised : AdapterDispatchError, error = raised.error
  | _ => True

def text : DispatchError → String
  | .runtime error => error.text
  | .gateway error => error.toString
  | .artifact error => error.toString
  | .resourceClaim error => error.toString
  | .adapter error => error.text

def code : DispatchError → String
  | .runtime error => error.kind.failure.2.1
  | .gateway error => error.code
  | .artifact error => error.failure.2.1
  | .resourceClaim error => error.code
  | .adapter error => error.code

end DispatchError

/-! ### Sanitised texts -/

theorem validateSingleLine_ok_iff {label value : String} {max : ℕ} :
    validateSingleLine label value max = .ok () ↔
      (∃ c ∈ value.toList, isTrimmed c = false) ∧ value.utf8ByteSize ≤ max ∧
        ∀ c ∈ value.toList, c ∉ ['\x00', '\r', '\n'] := by
  simp [validateSingleLine, isBlank, containsAny, refuseIf_ok_iff]

theorem plain_of_all {text : List Char}
    (h : text.all (fun c => decide (c ∉ ['\x00', '\r', '\n'])) = true) :
    ∀ c ∈ text, c ∉ ['\x00', '\r', '\n'] :=
  fun c hc => of_decide_eq_true (all_eq_true.1 h c hc)

/-- A trimmed text begins with a character that is not trimmed. -/
theorem trimText_cons {text rest : List Char} {c : Char} (h : trimText text = c :: rest) :
    isTrimmed c = false := by
  have hprefix : trimText text <+: text.dropWhile isTrimmed := rdropWhile_prefix _ _
  rw [h] at hprefix
  obtain ⟨tail, htail⟩ := hprefix
  have hhead := head?_dropWhile_not isTrimmed text
  rw [← htail] at hhead
  exact hhead

theorem mem_of_mem_trimText {text : List Char} {c : Char} (h : c ∈ trimText text) : c ∈ text :=
  (dropWhile_sublist _).subset ((List.rdropWhile_prefix _ _).subset h)

/-- Whether a character is left out at the ends of a text. -/
def isEdge (c : Char) : Bool := isTrimmed c || c = '\x00'

/-- The bytes of the first characters of a text, as many as a message may have bytes. -/
def messageBytes (text : String) : ℕ :=
  (ofList (((text.toList.dropWhile isEdge).rdropWhile isEdge).take (16 * 1024))).utf8ByteSize

theorem trimText_map_replace (text : List Char) :
    trimText (text.map (fun c => if c = '\x00' ∨ c = '\r' ∨ c = '\n' then ' ' else c)) =
      ((text.dropWhile isEdge).rdropWhile isEdge).map
        (fun c => if c = '\x00' ∨ c = '\r' ∨ c = '\n' then ' ' else c) := by
  have hedge : (isTrimmed ∘ fun c => if c = '\x00' ∨ c = '\r' ∨ c = '\n' then ' ' else c) =
      isEdge := by
    funext c
    simp only [Function.comp_apply, isEdge]
    split_ifs with hcontrol
    · rcases hcontrol with rfl | rfl | rfl <;> decide
    · simp [(not_or.1 hcontrol).1]
  rw [trimText, dropWhile_map, ← map_reverse, dropWhile_map, hedge,
    ← map_reverse]
  rfl

theorem utf8Len_map_replace (text : List Char) :
    utf8Len (text.map (fun c => if c = '\x00' ∨ c = '\r' ∨ c = '\n' then ' ' else c)) =
      utf8Len text := by
  induction text with
  | nil => rfl
  | cons c text ih =>
    have hsize : (if c = '\x00' ∨ c = '\r' ∨ c = '\n' then ' ' else c).utf8Size = c.utf8Size := by
      split_ifs with hcontrol
      · rcases hcontrol with rfl | rfl | rfl <;> rfl
      · rfl
    rw [map_cons, utf8Len_cons, utf8Len_cons, ih, hsize]

theorem sanitizeError_bytes (message : String) :
    (sanitizeError message).utf8ByteSize ≤ 16 * 1024 ↔ messageBytes message ≤ 16 * 1024 := by
  unfold sanitizeError messageBytes
  simp only [trimText_map_replace, map_eq_nil_iff]
  split_ifs with hempty
  · rw [hempty]
    decide
  · rw [← map_take, utf8ByteSize_ofList, utf8ByteSize_ofList, utf8Len_map_replace]

/-- A sanitised text is a single line, if it is short enough in bytes. -/
theorem validateSingleLine_sanitizeError (label message : String) :
    validateSingleLine label (sanitizeError message) (16 * 1024) = .ok () ↔
      messageBytes message ≤ 16 * 1024 := by
  rw [validateSingleLine_ok_iff, ← sanitizeError_bytes]
  refine ⟨fun h => h.2.1, fun hsize => ⟨?_, hsize, ?_⟩⟩
  · simp only [sanitizeError]
    split_ifs with hempty
    · exact ⟨'R', by decide, by decide⟩
    · rw [toList_ofList]
      obtain ⟨c, rest, hcons⟩ := exists_cons_of_ne_nil hempty
      exact ⟨c, by simp [hcons], trimText_cons hcons⟩
  · simp only [sanitizeError]
    split_ifs with hempty
    · exact plain_of_all (by decide)
    · rw [toList_ofList]
      intro c hc
      obtain ⟨original, -, rfl⟩ := mem_map.1 (mem_of_mem_trimText (mem_of_mem_take hc))
      split_ifs with hcontrol
      · decide
      · simpa [not_or] using hcontrol

/-- Neither white space nor a control character occurs in an identifier. -/
theorem isTrimmed_of_identifier {c : Char}
    (h : c.isLower || c.isDigit || ['.', '_', '-'].contains c) :
    isTrimmed c = false ∧ c ∉ ['\x00', '\r', '\n'] := by
  have hlower : c.isLower = (decide (c.val ≥ 'a'.val) && decide (c.val ≤ 'z'.val)) := rfl
  simp only [Bool.or_eq_true, hlower, Char.isDigit, Bool.and_eq_true, decide_eq_true_eq,
    contains_iff_mem, mem_cons, not_mem_nil, or_false, UInt32.le_iff_toNat_le,
    ge_iff_le] at h
  have hrange : 45 ≤ c.toNat ∧ c.toNat ≤ 122 := by
    rcases h with (h | h) | rfl | rfl | rfl
    · have : 97 ≤ c.toNat ∧ c.toNat ≤ 122 := h
      omega
    · have : 48 ≤ c.toNat ∧ c.toNat ≤ 57 := h
      omega
    all_goals decide
  refine ⟨by simp [isTrimmed]; omega, fun hc => ?_⟩
  simp only [mem_cons, not_mem_nil, or_false] at hc
  rcases hc with rfl | rfl | rfl <;> revert hrange <;> decide

theorem validateSingleLine_sanitizePluginHostErrorCode (label code : String) :
    validateSingleLine label (sanitizePluginHostErrorCode code) 127 = .ok () := by
  rw [validateSingleLine_ok_iff]
  unfold sanitizePluginHostErrorCode
  split_ifs with hcode
  · obtain ⟨hne, hsize, hall⟩ := hcode
    have hplain : ∀ c ∈ code.toList, isTrimmed c = false ∧ c ∉ ['\x00', '\r', '\n'] :=
      fun c hc => isTrimmed_of_identifier (all_eq_true.1 hall c hc)
    obtain ⟨c, rest, hcons⟩ := exists_cons_of_ne_nil hne
    have hmem : c ∈ code.toList := by simp [hcons]
    exact ⟨⟨c, hmem, (hplain c hmem).1⟩, hsize, fun c hc => (hplain c hc).2⟩
  · exact ⟨⟨'p', by decide, by decide⟩, by decide, plain_of_all (by decide)⟩

/-! ### Outcomes -/

variable {X : External}

theorem FailureStatus.outcome_validate (status : FailureStatus) (failure : NodeCommandFailure) :
    (status.outcome failure).validate X = failure.validate := by
  cases status <;> rfl

theorem dispatchFailure_validate (error : DispatchError) :
    (dispatchFailure error).validate X = .ok () ↔
      validateSingleLine "command failure code" error.code 127 = .ok () ∧
        messageBytes error.text ≤ 16 * 1024 := by
  have hfailure : ∀ (status : FailureStatus) (retryable : Bool),
      (status.outcome ⟨error.code, sanitizeError error.text, retryable⟩).validate X = .ok () ↔
        validateSingleLine "command failure code" error.code 127 = .ok () ∧
          messageBytes error.text ≤ 16 * 1024 := by
    intro status retryable
    rw [FailureStatus.outcome_validate, NodeCommandFailure.validate,
      ← validateSingleLine_sanitizeError "command failure message"]
    simp only [ok_rules]
  cases error <;> exact hfailure _ _

theorem HarnessErrorKind.validateSingleLine_code {label a b c d e f : String} {max : ℕ}
    (h : ∀ code ∈ [a, b, c, d, e, f], validateSingleLine label code max = .ok ())
    (kind : HarnessErrorKind) : validateSingleLine label (kind.code a b c d e f) max = .ok () := by
  cases kind <;> exact h _ (by simp [code])

theorem validateSingleLine_code {error : DispatchError} (h : error.Raised) :
    validateSingleLine "command failure code" error.code 127 = .ok () := by
  cases error with
  | runtime error =>
    simp only [DispatchError.code]
    cases error.kind <;> decide
  | gateway error =>
    cases error <;> simp only [DispatchError.code, GatewaySnapshotInstallError.code] <;> decide
  | artifact error =>
    cases error <;> simp only [DispatchError.code, NodeArtifactError.failure] <;> decide
  | resourceClaim error =>
    cases error <;> simp only [DispatchError.code, ResourceClaimExecutionError.code] <;> decide
  | adapter =>
    obtain ⟨raised, rfl⟩ := h
    cases raised with
    | boxBuild kind =>
      cases kind <;>
        simp only [DispatchError.code, AdapterDispatchError.error, BoxBuildErrorKind.code] <;>
        decide
    | pluginHost code => exact validateSingleLine_sanitizePluginHostErrorCode _ code
    | pluginHostUnavailable => decide
    | codeHarness kind | agentProviderHarness kind | durableCellOperator kind =>
      exact kind.validateSingleLine_code (by decide)

/-! ### A failed command in the journal -/

/-- The claim with its prepare completed, if it has this identifier. -/
def ProjectedResourceClaim.marked (claimId : Uuid) (claim : ProjectedResourceClaim) :
    ProjectedResourceClaim :=
  { claim with prepareTerminal := claim.prepareTerminal || decide (claim.claimId = claimId) }

theorem ProjectedResourceClaim.claimId_marked (id : Uuid) (claim : ProjectedResourceClaim) :
    (claim.marked id).claimId = claim.claimId := rfl

namespace ResourceClaimJournalProjection

open ProjectedResourceClaim

def mark (claimId : Uuid) (projection : ResourceClaimJournalProjection) :
    ResourceClaimJournalProjection :=
  ⟨projection.claims.mapRows (marked claimId) (claimId_marked claimId)⟩

variable {projection projection' : ResourceClaimJournalProjection} {claimId : Uuid}

theorem rows_mark : (projection.mark claimId).claims.rows =
    projection.claims.rows.map (marked claimId) := rfl

theorem get?_mark (id : Uuid) : (projection.mark claimId).claims.get? id =
    (projection.claims.get? id).map (marked claimId) :=
  get?_mapRows _ _ (claimId_marked claimId) id

theorem mark_mapRows {change : ProjectedResourceClaim → ProjectedResourceClaim}
    {keeps : ∀ claim, (change claim).claimId = claim.claimId}
    (h : ∀ claim, change (claim.marked claimId) = (change claim).marked claimId) :
    mark claimId ⟨projection.claims.mapRows change keeps⟩ =
      ⟨(projection.mark claimId).claims.mapRows change keeps⟩ := by
  refine congrArg mk (ext_rows ?_)
  simp only [mark, rows_mapRows, List.map_map]
  exact map_congr_left fun claim _ => (h claim).symm

theorem mark_modify {change : ProjectedResourceClaim → ProjectedResourceClaim} {id : Uuid}
    {keeps : ∀ claim, (change claim).claimId = claim.claimId}
    (h : ∀ claim, change (claim.marked claimId) = (change claim).marked claimId) :
    mark claimId ⟨projection.claims.modify id change keeps⟩ =
      ⟨(projection.mark claimId).claims.modify id change keeps⟩ := by
  refine mark_mapRows fun claim => ?_
  have hkey : (claim.marked claimId).claimId = claim.claimId := rfl
  rw [hkey]
  split_ifs
  · exact h claim
  · rfl

theorem update_mark {change : ProjectedResourceClaim → ProjectedResourceClaim} {id : Uuid}
    {missing : CommandJournalError} {keeps : ∀ claim, (change claim).claimId = claim.claimId}
    (hchange : ∀ claim, change (claim.marked claimId) = (change claim).marked claimId)
    (h : projection.update id missing change keeps = .ok projection') :
    (projection.mark claimId).update id missing change keeps = .ok (projection'.mark claimId) := by
  simp only [update, ok_rules] at h ⊢
  obtain ⟨claim, hget, rfl⟩ := h
  exact ⟨_, by rw [get?_mark, hget]; rfl, (mark_modify hchange).symm⟩

theorem fence_marked (unitId : String) (generation : ℕ) (claim : ProjectedResourceClaim) :
    (claim.marked claimId).fence unitId generation = (claim.fence unitId generation).marked claimId := by
  have hholds : (claim.marked claimId).holds unitId generation = claim.holds unitId generation := rfl
  unfold ProjectedResourceClaim.fence
  rw [hholds]
  split_ifs <;> rfl

theorem validateRuntimeApply_mark (spec : RuntimeUnitSpec)
    (binding : Option NodeResourceClaimBinding) :
    (projection.mark claimId).validateRuntimeApply X spec binding =
      projection.validateRuntimeApply X spec binding := by
  have hfind : (projection.mark claimId).claims.rows.find? (·.holds spec.unitId spec.generation) =
      (projection.claims.rows.find? (·.holds spec.unitId spec.generation)).map (marked claimId) := by
    rw [rows_mark, find?_map]
    rfl
  unfold validateRuntimeApply
  rw [hfind]
  cases projection.claims.rows.find? (·.holds spec.unitId spec.generation) <;> cases binding <;> rfl

/-- A claim whose prepare has ended can be released if it could before. -/
theorem validateRelease_mark {request : NodeResourceClaimRelease}
    (h : projection.validateRelease request = .ok ()) :
    (projection.mark claimId).validateRelease request = .ok () := by
  simp only [validateRelease, bind_ok_iff, exists_unit, mapError_ok_iff, orElse_ok_iff] at h ⊢
  obtain ⟨hvalid, claim, hget, hrefuse, hrest⟩ := h
  refine ⟨hvalid, claim.marked claimId, by rw [get?_mark, hget]; rfl, ?_, hrest⟩
  rw [refuseIf_ok_iff] at hrefuse ⊢
  rintro (hbinding | hterminal | hother)
  · exact hrefuse (.inl hbinding)
  · refine hrefuse (.inr (.inl fun h => hterminal ?_))
    simp [marked, h]
  · exact hrefuse (.inr (.inr hother))

theorem settle_mark {payload : NodeCommandPayload} {result : NodeCommandResult}
    (h : projection.settle X payload result = .ok projection') :
    (projection.mark claimId).settle X payload result = .ok (projection'.mark claimId) := by
  unfold settle at h ⊢
  split at h
  · simp only [ok_rules, activatePrepared] at h ⊢
    obtain ⟨hvalid, hunit, hactive, hupdate⟩ := h
    refine ⟨hvalid, ?_, ?_, update_mark (fun _ => rfl) hupdate⟩
    · rw [rows_mark, any_map]
      exact hunit
    · rw [checkAll_ok_iff] at hactive ⊢
      intro claim hclaim
      rw [rows_mark, filter_map, mem_map] at hclaim
      obtain ⟨original, horiginal, rfl⟩ := hclaim
      exact hactive original horiginal
  · simp only [ok_rules, validateRuntimeApply_mark] at h ⊢
    exact ⟨h.1, h.2.1, update_mark (fun _ => rfl) h.2.2⟩
  · simp only [ok_rules, validateRuntimeApply_mark] at h ⊢
    exact ⟨h.1, by rw [h.2]⟩
  · split_ifs at h ⊢ <;> cases h
    · exact congrArg Except.ok (mark_mapRows (fence_marked _ _)).symm
    · rfl
  · cases h
    exact congrArg Except.ok (mark_mapRows (fence_marked _ _)).symm
  · simp only [ok_rules] at h ⊢
    exact ⟨validateRelease_mark h.1, h.2.1, update_mark (fun _ => rfl) h.2.2⟩
  · rw [pure_ok_iff] at h
    rw [← h]
    rfl

theorem insertIfAbsent_mark (h : projection.claims.get? claimId ≠ none)
    (claim : ProjectedResourceClaim) :
    (projection.mark claimId).claims.insertIfAbsent claim =
      (mark claimId ⟨projection.claims.insertIfAbsent claim⟩).claims := by
  unfold insertIfAbsent
  rw [get?_mark]
  cases hget : projection.claims.get? claim.claimId with
  | some => rfl
  | none =>
    have hother : claim.claimId ≠ claimId := fun heq => h (heq ▸ hget)
    have hsame : claim.marked claimId = claim := by simp [marked, hother]
    refine ext_rows ?_
    rw [Option.map_none, rows_mark, rows_insert_of_none (by rw [get?_mark, hget]; rfl),
      rows_mark, rows_insert_of_none hget, map_append, map_singleton, hsame]

theorem terminal_marked (completed : Bool) (claim : ProjectedResourceClaim) :
    (claim.marked claimId).terminal completed = (claim.terminal completed).marked claimId := by
  cases completed with
  | false => rfl
  | true => simp [terminal, marked, ProjectedResourceClaim.claimId]

theorem advance_marked (generation : ℕ) (claim : ProjectedResourceClaim) :
    (claim.marked claimId).advance generation = (claim.advance generation).marked claimId := rfl

theorem register_mark (hmem : projection.claims.get? claimId ≠ none) {entry : JournalEntry}
    (h : projection.register entry = .ok projection') :
    (projection.mark claimId).register entry = .ok (projection'.mark claimId) := by
  unfold register at h ⊢
  split at h
  · simp only [ok_rules, get?_mark, insertIfAbsent_mark hmem] at h ⊢
    obtain ⟨hregister, rfl⟩ := h
    refine ⟨?_, (mark_modify (terminal_marked _)).symm⟩
    revert hregister
    cases projection.claims.get? _ <;> exact id
  · simp only [ok_rules, get?_mark] at h ⊢
    obtain ⟨claim, hget, hregister, rfl⟩ := h
    exact ⟨claim.marked claimId, by rw [hget]; rfl, hregister, (mark_modify (advance_marked _)).symm⟩
  · rw [pure_ok_iff] at h
    rw [← h]
    rfl

theorem replay_mark (hmem : projection.claims.get? claimId ≠ none) {entries : List JournalEntry}
    (h : replayEntries X projection entries = .ok projection') :
    replayEntries X (projection.mark claimId) entries = .ok (projection'.mark claimId) := by
  induction entries generalizing projection with
  | nil => cases h; rfl
  | cons entry entries ih =>
    rw [replayEntries_cons_ok] at h ⊢
    obtain ⟨next, hnext, hrest⟩ := h
    have hmem' : next.claims.get? claimId ≠ none := by
      obtain ⟨claim, hclaim⟩ := Option.ne_none_iff_exists'.1 hmem
      obtain ⟨claim', hclaim', -⟩ := identity_apply hnext hclaim
      rw [hclaim']
      exact Option.some_ne_none claim'
    refine ⟨next.mark claimId, ?_, ih hmem' hrest⟩
    simp only [apply, bind_ok_iff] at hnext ⊢
    obtain ⟨registered, hregister, hsettle⟩ := hnext
    refine ⟨registered.mark claimId, register_mark hmem hregister, ?_⟩
    cases hsuccess : entry.success? with
    | none => rw [hsuccess] at hsettle; cases hsettle; rfl
    | some => rw [hsuccess] at hsettle; exact settle_mark hsettle

/-- A command that fails is registered like an open one, except that its prepare has ended. -/
theorem apply_failed {entry : JournalEntry} {completion : JournalCompletion}
    (hnone : entry.completion = none) (hfailed : (entry.complete completion).success? = none)
    (h : projection.apply X entry = .ok projection') :
    projection.apply X (entry.complete completion) = .ok projection' ∨
      ∃ claimId, projection'.claims.get? claimId ≠ none ∧
        projection.apply X (entry.complete completion) = .ok (projection'.mark claimId) := by
  have hopen : entry.success? = none := by
    unfold success?
    rw [hnone]
  simp only [apply, hopen, hfailed, ok_rules, exists_eq_right] at h ⊢
  have hpayload : (entry.complete completion).envelope.payload = entry.envelope.payload := rfl
  unfold register at h ⊢
  rw [hpayload]
  split at h
  · rename_i request _
    simp only [ok_rules, hnone] at h ⊢
    obtain ⟨hregister, rfl⟩ := h
    refine .inr ⟨request.binding.claimId, ?_, hregister, ?_⟩
    · rw [get?_modify, if_pos rfl, get?_insertIfAbsent, claimId_new, if_pos rfl]
      simp
    · refine congrArg mk (ext_rows ?_)
      simp only [Table.modify, rows_mapRows, List.map_map]
      refine map_congr_left fun claim _ => ?_
      by_cases hid : claim.claimId = request.binding.claimId <;>
        simp [hid, terminal, marked, complete]
  · exact .inl h
  · exact .inl h

end ResourceClaimJournalProjection

theorem JournalEntry.success?_failed {entry : JournalEntry} {completion : JournalCompletion}
    (h : ∀ result, completion.outcome ≠ .succeeded result) :
    (entry.complete completion).success? = none := by
  obtain ⟨completedAt, outcome⟩ := completion
  cases outcome with
  | succeeded result => exact absurd rfl (h result)
  | _ => rfl

open ResourceClaimJournalProjection

namespace CommandJournal
variable {journal : CommandJournal} {completion : JournalCompletion}

theorem Valid.complete_failed (h : journal.Valid X) {entry : JournalEntry}
    (hentry : entry ∈ journal.entries.rows) (hnone : entry.completion = none)
    (hfailed : (entry.complete completion).success? = none)
    (hack : (report entry.envelope completion).validateAgainst X entry.envelope =
      .ok ()) : (journal.complete entry.commandId completion).Valid X := by
  have hopen : entry.success? = none := by
    unfold success?
    rw [hnone]
  obtain ⟨front, back, hsplit⟩ : ∃ front back, bySequence journal.entries.rows = front ++ entry :: back :=
    append_of_mem ((mem_insertionSort _).2 hentry)
  have hrows : bySequence (journal.complete entry.commandId completion).entries.rows =
      front ++ entry.complete completion :: back := by
    rw [rows_complete, bySequence,
      ← map_insertionSort (fun a b : JournalEntry => a.sequence ≤ b.sequence)]
    · refine map_complete_split ?_ hsplit completion
      exact ((perm_insertionSort _ _).map _).nodup_iff.2 journal.entries.nodup
    · intro a _ b _
      rw [sequence_modify (f := JournalEntry.complete completion) (fun _ => rfl),
        sequence_modify (f := JournalEntry.complete completion) (fun _ => rfl)]
  have hskip : ∀ {β : Type} {g : β → JournalEntry → Except CommandJournalError β} {b : β},
      (∀ e : JournalEntry, e.success? = none → ∀ b, g b e = .ok b) →
      (front ++ entry.complete completion :: back).foldlM g b = (front ++ entry :: back).foldlM g b := by
    intro β g b hg
    simp only [foldlM_append, foldlM_cons, hg _ hopen, hg _ hfailed]
  refine h.complete hentry hack ?_ ?_ ?_
  · obtain ⟨projection, hprojection⟩ := h.claims
    rw [resourceClaimProjection, hsplit, projectEntries_append_ok] at hprojection
    obtain ⟨before, hbefore, hrest⟩ := hprojection
    obtain ⟨next, hnext, hrest⟩ := replayEntries_cons_ok.1 hrest
    simp only [resourceClaimProjection, hrows, projectEntries_append_ok, replayEntries_cons_ok]
    rcases apply_failed hnone hfailed hnext with happly | ⟨claimId, hmem, happly⟩
    · exact ⟨projection, before, hbefore, next, happly, hrest⟩
    · exact ⟨_, before, hbefore, _, happly, replay_mark hmem hrest⟩
  · rw [codeRunBindingsProjection, hrows, hskip fun e he b => applyCodeRun_of_none he b, ← hsplit]
    exact h.codeRuns
  · rw [providerRunBindingsProjection, hrows, hskip fun e he b => applyProviderRun_of_none he b, ← hsplit]
    exact h.providerRuns

end CommandJournal

/-- The journal records the outcome of an error exactly when it is valid. -/
theorem completeSync_dispatchFailure {journal : CommandJournal} (hvalid : journal.Valid X)
    {entry : JournalEntry} (hget : journal.entries.get? entry.commandId = some entry)
    (hnone : entry.completion = none) (error : DispatchError) (now : ℤ) :
    (∃ completed, completeSync X journal.nodeId journal entry.commandId
        (completionTimestamp entry.envelope (dispatchFailure error) now) (dispatchFailure error) =
          .ok completed) ↔ (dispatchFailure error).validate X = .ok () := by
  constructor
  · rintro ⟨⟨acknowledgement, journal'⟩, h⟩
    simp only [completeSync, bind_ok_iff, orElse_ok_iff, hget, Option.some.injEq, exists_eq_left',
      hnone, acknowledgement_ok_iff, complete, forall_eq'] at h
    obtain ⟨-, -, -, ⟨-, hack⟩, -⟩ := h
    exact (NodeCommandAck.validateAgainst_ok_iff.1 hack).2.2.2.2.1
  · intro h
    have hentry := (get?_eq_some_iff.1 hget).1
    have hack : (report entry.envelope ⟨completionTimestamp entry.envelope
        (dispatchFailure error) now, dispatchFailure error⟩).validateAgainst X entry.envelope =
          .ok () :=
      NodeCommandAck.validateAgainst_ok_iff.2 ⟨(hvalid.entries entry hentry).envelope, .inl rfl,
        ⟨rfl, rfl, rfl, rfl, rfl⟩, le_completionTimestamp _ _ now, h,
        fun result hresult => absurd hresult (dispatchFailure_ne_succeeded error result)⟩
    exact ⟨_, completeSync_recorded rfl hvalid hget hnone hack
      (hvalid.complete_failed hentry hnone (success?_failed (dispatchFailure_ne_succeeded error))
        hack)⟩

/-- The outcome of an error is valid, and recorded for every open command of a valid journal, exactly
when the first 16384 characters of the text, without the blank ones at its ends, have at most as many
bytes. -/
theorem dispatchFailure_validates_iff (X : External) (error : DispatchError) (h : error.Raised) :
    ((dispatchFailure error).validate X = .ok () ↔ messageBytes error.text ≤ 16 * 1024) ∧
      ∀ (journal : CommandJournal) (entry : JournalEntry) (now : ℤ), journal.Valid X →
        journal.entries.get? entry.commandId = some entry → entry.completion = none →
          ((∃ completed, completeSync X journal.nodeId journal entry.commandId
              (completionTimestamp entry.envelope (dispatchFailure error) now)
              (dispatchFailure error) = .ok completed) ↔
            messageBytes error.text ≤ 16 * 1024) := by
  have hvalidates : (dispatchFailure error).validate X = .ok () ↔
      messageBytes error.text ≤ 16 * 1024 := by
    rw [dispatchFailure_validate, and_iff_right (validateSingleLine_code h)]
  refine ⟨hvalidates, fun journal entry now hvalid hget hnone => ?_⟩
  rw [completeSync_dispatchFailure hvalid hget hnone, hvalidates]

/-! ### A long text -/

namespace Sample

theorem messageBytes_replicate {n : ℕ} (hle : n ≤ 16 * 1024) :
    messageBytes (ofList (List.replicate n 'é')) = 2 * n := by
  have hedge : isEdge 'é' = false := by decide
  have hsize : ∀ n, utf8Len (List.replicate n 'é') = 2 * n := by
    intro n
    induction n with
    | zero => rfl
    | succ n ih =>
      have hchar : 'é'.utf8Size = 2 := by decide
      rw [replicate_succ, utf8Len_cons, ih, hchar, Nat.mul_succ]
  simp [messageBytes, rdropWhile, hedge, take_replicate, min_eq_right hle,
    utf8ByteSize_ofList, hsize]

/-- An error of the Plugin Manager with a text of 8193 characters of two bytes each. -/
def longError : DispatchError :=
  .adapter (AdapterDispatchError.pluginHost "activation_failed"
    (ofList (List.replicate 8193 'é'))).error

/-- The first command of the sample node, which applies its unit. -/
def firstApply : NodeCommandEnvelope :=
  command 1 workloadId (.runtimeApply (applyRequest none) none)

theorem firstApply_begun : ∃ journal,
    beginSync external nodeId (.empty nodeId) firstApply = .ok (.execute, journal) ∧
      journal.Valid external ∧ journal.nodeId = nodeId ∧
        journal.entries.get? (received firstApply).commandId =
          some (.received firstApply) := by
  obtain ⟨⟨decision, journal⟩, hbegin, hdecision, hnode, hget⟩ : ∃ begun,
      beginSync external nodeId (.empty nodeId) firstApply = .ok begun ∧ begun.1 = .execute ∧
        begun.2.nodeId = nodeId ∧ begun.2.entries.get? firstApply.commandId =
          some (.received firstApply) := by
    decide +kernel
  cases hdecision
  exact ⟨journal, hbegin, (beginSync_ok hbegin).2.2.2.2.1, hnode, hget⟩

/-- The outcome of a text that is cut to few enough characters and still has too many bytes. -/
theorem longError_rejected :
    (dispatchFailure longError).validate external ≠ .ok () ∧
      ∃ journal, beginSync external nodeId (.empty nodeId) firstApply = .ok (.execute, journal) ∧
        ∀ now completed, completeSync external nodeId journal firstApply.commandId
          (completionTimestamp firstApply (dispatchFailure longError) now)
          (dispatchFailure longError) ≠ .ok completed := by
  have hinvalid : (dispatchFailure longError).validate external ≠ .ok () := by
    rw [Ne, dispatchFailure_validate, not_and, not_le]
    intro _
    rw [longError, DispatchError.text, AdapterDispatchError.error,
      messageBytes_replicate (by decide)]
    decide
  obtain ⟨journal, hbegin, hvalid, hnode, hget⟩ := firstApply_begun
  refine ⟨hinvalid, journal, hbegin, fun now completed hcompleted => hinvalid ?_⟩
  rw [← hnode] at hcompleted
  exact (completeSync_dispatchFailure hvalid hget rfl longError now).1 ⟨completed, hcompleted⟩

/-- A Gateway that cannot be reached fails the command that was begun. -/
theorem dispatchFailure_validates_unavailable :
    ∃ journal, beginSync external nodeId (.empty nodeId) firstApply = .ok (.execute, journal) ∧
      ∃ completed, completeSync external journal.nodeId journal firstApply.commandId
        (completionTimestamp firstApply (dispatchFailure (.gateway (.unavailable "no route"))) 0)
        (dispatchFailure (.gateway (.unavailable "no route"))) = .ok completed := by
  obtain ⟨journal, hbegin, hvalid, -, hget⟩ := firstApply_begun
  exact ⟨journal, hbegin, ((dispatchFailure_validates_iff external
    (.gateway (.unavailable "no route")) trivial).2 journal _ 0 hvalid hget rfl).2 (by decide)⟩

end Sample

end A3SCloud
