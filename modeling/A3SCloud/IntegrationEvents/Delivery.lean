import Mathlib.Data.Finset.Card
import A3SCloud.Contracts.Sample
import A3SCloud.IntegrationEvents.OutboxRelay

/-!
# Which messages the relay delivers

One relay takes a turn per poll interval while no message is added. `Delivers` says of a message that
the projectors and the publisher accept it in a turn; nothing is assumed of the other messages.

* `OutboxRow.Restores` and `OutboxRelayConfig.WholeMillis` are what a claim needs of the rows and of
  the configuration.
* `RowStep` is what a turn does to one row, and `runLoop_step` says so of every row; `turns_row` says
  what follows for all turns.
* A message waits behind the rows that are unpublished and come first in the order of the claims
  (`ahead`). A failed row is put behind every due row, so that each turn serves the message or
  shortens the list (`ahead_runOnce_ssubset`).
* `published_within` bounds the number of turns, and `turns_of_blocked` says what happens if the
  first row cannot be restored.
-/

namespace A3SCloud.IntegrationEvents

open Checks List Outbox OutboxRow Table

/-! ### Rows and messages -/

/-- A claim of the row restores its message. -/
def OutboxRow.Restores (row : OutboxRow) : Prop := ∃ message, row.restore = .ok message

section

variable {row : OutboxRow} {message : OutboxMessage} {outbox : Outbox}

theorem OutboxRow.restore_ok_iff :
    row.restore = .ok message ↔ ∃ scope event, row.scope = .ok scope ∧
      message = ⟨row.eventId, row.eventKey, row.schemaVersion, scope, row.aggregateId,
        row.aggregateVersion, row.occurredAt, row.correlationId, row.causationId, row.payload,
        row.deliveryAttempts⟩ ∧
      message.domainEvent = .ok event := by
  have hvalidate : ∀ m : OutboxMessage, m.validate = .ok () ↔ ∃ event, m.domainEvent = .ok event := by
    intro m
    rw [OutboxMessage.validate]
    cases m.domainEvent <;> simp [Except.map]
  simp only [restore, ok_rules, hvalidate]
  constructor
  · rintro ⟨scope, hscope, ⟨event, hevent⟩, rfl⟩
    exact ⟨scope, event, hscope, rfl, hevent⟩
  · rintro ⟨scope, event, hscope, rfl, hevent⟩
    exact ⟨scope, hscope, ⟨event, hevent⟩, rfl⟩

/-- A restored event has an identity. -/
theorem OutboxMessage.eventId_ne {event : DomainEventEnvelope}
    (h : message.domainEvent = .ok event) : message.eventId ≠ 0 := by
  simp only [domainEvent, DomainEventEnvelope.validate, ok_rules, not_or] at h
  exact h.2.1.2.1

theorem OutboxRow.restore_leaseRow (h : row.restore = .ok message) (owner : Uuid)
    (leasedUntil : ℤ) :
    (leaseRow owner leasedUntil row).restore =
      .ok { message with deliveryAttempts := row.deliveryAttempts + 1 } := by
  obtain ⟨scope, event, hscope, rfl, hevent⟩ := restore_ok_iff.1 h
  exact restore_ok_iff.2 ⟨scope, event, hscope, rfl, hevent⟩

/-! ### Intervals -/

/-- The lease and the retry delays are whole milliseconds that the database can add. -/
def OutboxRelayConfig.WholeMillis (config : OutboxRelayConfig) : Prop :=
  nanosPerMilli ≤ config.leaseDuration ∧ config.leaseDuration / nanosPerMilli ≤ i64Max ∧
    nanosPerMilli ≤ config.initialBackoff ∧ config.maximumBackoff / nanosPerMilli ≤ i64Max

instance (config : OutboxRelayConfig) : Decidable config.WholeMillis :=
  inferInstanceAs (Decidable (_ ∧ _ ∧ _ ∧ _))

theorem positiveIntervalMillis_of {duration : ℕ} (hle : nanosPerMilli ≤ duration)
    (hmax : duration / nanosPerMilli ≤ i64Max) (purpose : String) :
    positiveIntervalMillis duration purpose = .ok (duration / nanosPerMilli) := by
  have hpos : 0 < duration / nanosPerMilli := Nat.div_pos hle (by decide)
  simp only [positiveIntervalMillis, ok_rules]
  exact ⟨by omega, by omega, trivial⟩

theorem positiveIntervalMillis_pos {duration milliseconds : ℕ} {purpose : String}
    (h : positiveIntervalMillis duration purpose = .ok milliseconds) : 0 < milliseconds := by
  simp only [positiveIntervalMillis, ok_rules] at h
  obtain ⟨hne, -, rfl⟩ := h
  exact Nat.pos_of_ne_zero hne

theorem lt_afterMillis {milliseconds : ℕ} (h : 0 < milliseconds) (now : ℤ) :
    now < afterMillis now milliseconds := by
  have hnanos : (nanosPerMilli : ℤ) = 1000000 := rfl
  rw [afterMillis, hnanos]
  omega

namespace OutboxRelay

variable {relay : OutboxRelay}

theorem validate_ok (relay : OutboxRelay) :
    0 < relay.config.batchSize ∧ 0 < relay.config.pollInterval ∧
      relay.config.initialBackoff ≤ relay.config.maximumBackoff := by
  have h := relay.valid
  simp only [OutboxRelayConfig.validate, ok_rules, not_or] at h
  omega

theorem retryDelay_millis {attempts : ℕ} {purpose : String} (h : relay.config.WholeMillis) :
    positiveIntervalMillis (retryDelay relay.config attempts) purpose =
      .ok (retryDelay relay.config attempts / nanosPerMilli) := by
  obtain ⟨-, -, hinitial, hmaximum⟩ := h
  have hbackoff := relay.validate_ok.2.2
  have hpow := Nat.one_le_two_pow (n := min (attempts - 1) 20)
  have hle : nanosPerMilli ≤ retryDelay relay.config attempts := by
    have hmul := Nat.mul_le_mul_left relay.config.initialBackoff hpow
    have hmax : nanosPerMilli ≤ durationMax := by decide
    simp only [retryDelay, le_min_iff]
    omega
  exact positiveIntervalMillis_of hle
    ((Nat.div_le_div_right (min_le_right _ _)).trans hmaximum) purpose

/-! ### One claim and one delivery -/

/-- The projectors and the publisher accept the message in time. -/
def Delivers (ports : DeliveryPorts) (message : OutboxMessage) : Prop :=
  ports.timedOut message = false ∧ (∀ project ∈ ports.projectors, project message = .ok ()) ∧
    ports.publish message = .ok ()

/-- What a turn does to a row: nothing, or one counted attempt that publishes it or, if the message
is not accepted, puts it behind the clock, provided the retry delays are whole milliseconds. -/
def RowStep (config : OutboxRelayConfig) (ports : DeliveryPorts) (now : ℤ)
    (row row' : OutboxRow) : Prop :=
  row' = row ∨
    (row.publishedAt = none ∧ row'.deliveryAttempts = row.deliveryAttempts + 1 ∧ row'.Restores ∧
      (row'.publishedAt.isSome = true ∨
        row'.publishedAt = none ∧ row.nextAttemptAt ≤ now ∧
          (config.WholeMillis → now < row'.nextAttemptAt) ∧
          ∃ message, message.eventId = row.eventId ∧ ¬ Delivers ports message))

/-- Every unpublished row can be claimed a number of times. -/
def Claimable (attempts : ℕ) (outbox : Outbox) : Prop :=
  ∀ row ∈ outbox.rows, row.publishedAt = none →
    row.Restores ∧ row.deliveryAttempts + attempts ≤ i32Max

variable {ports : DeliveryPorts} {row row' : OutboxRow} {now leasedUntil : ℤ} {attempts : ℕ}
  {id : Uuid}

theorem publishMessage_of_delivers {message : OutboxMessage} {event : DomainEventEnvelope}
    (h : Delivers ports message) (hevent : message.domainEvent = .ok event) :
    relay.publishMessage ports message = .ok () := by
  obtain ⟨htimer, hprojectors, hpublish⟩ := h
  simp only [publishMessage, htimer, Bool.false_eq_true, if_false, ok_rules, checkAll_ok_iff]
  exact ⟨event, hevent, hprojectors, hpublish⟩

/-- The row of one event is replaced and the other rows are kept. -/
structure Replaces (outbox outbox' : Outbox) (row row' : OutboxRow) : Prop where
  new : outbox'.get? row.eventId = some row'
  others : ∀ id, id ≠ row.eventId → outbox'.get? id = outbox.get? id

theorem replaces_modify (hrow : outbox.get? row.eventId = some row')
    {change : OutboxRow → OutboxRow} (hchange : ∀ row, (change row).eventId = row.eventId) :
    Replaces outbox (outbox.modify row.eventId change hchange) row (change row') where
  new := by rw [get?_modify, if_pos rfl, hrow, Option.map_some]
  others id hid := by rw [get?_modify, if_neg hid]

instance : Std.Total RankLe := ⟨fun row row' => le_total row.rank row'.rank⟩

instance : IsTrans OutboxRow RankLe := ⟨fun _ _ _ h h' => le_trans h h'⟩

/-- What a relay writes into a row does not decide whether the row can be restored. -/
theorem restores_of_written (h : row' = { row with
      publishedAt := row'.publishedAt, deliveryAttempts := row'.deliveryAttempts
      lastError := row'.lastError, lease := row'.lease, nextAttemptAt := row'.nextAttemptAt })
    (hrestores : row.Restores) : row'.Restores := by
  obtain ⟨message, hmessage⟩ := hrestores
  obtain ⟨scope, event, hscope, rfl, hevent⟩ := restore_ok_iff.1 hmessage
  rw [h]
  exact ⟨_, restore_ok_iff.2 ⟨scope, event, hscope, rfl, hevent⟩⟩

/-- A claim of one message takes the first due row, or changes nothing: then it is refused or no row
is due. -/
theorem claim_one (relay : OutboxRelay) (outbox : Outbox) (now : ℤ) :
    ((outbox.claim now relay.owner 1 relay.config.leaseDuration = .ok ([], outbox) ∨
        ∃ error, outbox.claim now relay.owner 1 relay.config.leaseDuration = .error error) ∧
      (relay.config.WholeMillis → Claimable 1 outbox → ∀ row ∈ outbox.rows, ¬ row.Due now)) ∨
    ∃ row ∈ outbox.rows, ∃ message leased leasedUntil, row.Due now ∧
      (∀ other ∈ outbox.rows, other.Due now → row.rank ≤ other.rank) ∧
      row.restore = .ok message ∧ now < leasedUntil ∧
      outbox.claim now relay.owner 1 relay.config.leaseDuration =
        .ok ([{ message with deliveryAttempts := row.deliveryAttempts + 1 }], leased) ∧
      Replaces outbox leased row (leaseRow relay.owner leasedUntil row) := by
  have hlimit : ¬ i64Max < 1 := by decide
  simp only [claim, one_ne_zero, if_false, refuseIf, relay.owner_ne, hlimit]
  cases hlease : positiveIntervalMillis relay.config.leaseDuration "claim lease" with
  | error error =>
    refine .inl ⟨.inr ⟨error, rfl⟩, fun hmillis => ?_⟩
    rw [positiveIntervalMillis_of hmillis.1 hmillis.2.1] at hlease
    cases hlease
  | ok millis =>
    set leasedUntil := afterMillis now millis with huntil
    rcases @firstRows_one _ _ _ RankLe _ _ _ outbox (fun row => row.Due now) with
      ⟨hnil, hnone⟩ | ⟨row, hrow, hfirst, hdue, hmin⟩
    · have hsame : outbox.mapRows (fun row => row) (fun _ => rfl) = outbox :=
        ext_rows (map_id' outbox.rows)
      refine .inl ⟨.inl ?_, fun _ _ row hrow => by simpa using hnone row hrow⟩
      simp [hnil, mapAll, bind, Except.bind, pure, Except.pure, hsame]
    have hdue' : row.Due now := by simpa using hdue
    by_cases hclaims : row.Restores ∧ row.deliveryAttempts < i32Max
    · obtain ⟨⟨message, hmessage⟩, hattempts⟩ := hclaims
      refine .inr ⟨row, hrow, message,
        outbox.modify row.eventId (leaseRow relay.owner leasedUntil) (fun _ => rfl),
        leasedUntil, hdue', fun other hother hdue => hmin other hother (by simpa using hdue),
        hmessage, lt_afterMillis (positiveIntervalMillis_pos hlease) now, ?_,
        replaces_modify (get?_eq_some_iff.2 ⟨hrow, rfl⟩) _⟩
      simp [hfirst, hattempts.not_ge, mapAll, restore_leaseRow hmessage, bind, Except.bind,
        pure, Except.pure, Except.map, Table.modify, ← huntil]
    · refine .inl ⟨.inr ?_, fun _ hclaimable => absurd ⟨(hclaimable row hrow hdue'.1).1, ?_⟩ hclaims⟩
      · by_cases hfits : i32Max ≤ row.deliveryAttempts
        · exact ⟨_, by simp [hfirst, hfits, bind, Except.bind]; rfl⟩
        · cases hrestore : (leaseRow relay.owner leasedUntil row).restore with
          | error error =>
            exact ⟨error, by simp [hfirst, hfits, mapAll, ← huntil, hrestore, bind, Except.bind]⟩
          | ok message =>
            have hleased : (leaseRow relay.owner leasedUntil row).Restores := ⟨message, hrestore⟩
            exact absurd ⟨restores_of_written (by rfl) hleased, not_le.1 hfits⟩ hclaims
      · have := (hclaimable row hrow hdue'.1).2
        omega

theorem settle_leased {owner : Uuid}
    (hrow : outbox.get? row.eventId = some (leaseRow owner leasedUntil row))
    (hunpublished : row.publishedAt = none) (hlease : now < leasedUntil) (action : String)
    (change : OutboxRow → OutboxRow) (hchange : ∀ row, (change row).eventId = row.eventId) :
    ∃ outbox', outbox.settle now row.eventId owner action change hchange = .ok outbox' ∧
      Replaces outbox outbox' row (change (leaseRow owner leasedUntil row)) := by
  refine ⟨outbox.modify row.eventId change hchange, ?_, replaces_modify hrow hchange⟩
  simp only [settle, ok_rules, and_true]
  simp [hrow, leaseRow, hunpublished, hlease]

theorem validateClaimIdentity_owner (relay : OutboxRelay) (h : id ≠ 0) (action : String) :
    validateClaimIdentity id relay.owner action = .ok () := by
  rw [validateClaimIdentity, refuseIf_ok_iff, not_or]
  exact ⟨h, relay.owner_ne⟩

/-- A claimed message is published and acknowledged, or its next attempt lies behind the clock. -/
theorem deliverClaimed_cases (ports : DeliveryPorts) {leased : Outbox} (message : OutboxMessage)
    (hrow : leased.get? row.eventId = some (leaseRow relay.owner leasedUntil row))
    (hunpublished : row.publishedAt = none) (hlease : now < leasedUntil)
    (hid : message.eventId = row.eventId) (hne : row.eventId ≠ 0) :
    ∃ outbox' row', Replaces leased outbox' row row' ∧
      row'.deliveryAttempts = row.deliveryAttempts + 1 ∧ (row.Restores → row'.Restores) ∧
      ((row'.publishedAt.isSome = true ∧
        relay.deliverClaimed ports now leased message = (.ok (), outbox')) ∨
      (row'.publishedAt = none ∧ (relay.config.WholeMillis → now < row'.nextAttemptAt) ∧
        relay.publishMessage ports message ≠ .ok () ∧
        ∃ failure, relay.deliverClaimed ports now leased message = (.error failure, outbox'))) := by
  have hidentity := relay.validateClaimIdentity_owner hne
  cases hpublish : relay.publishMessage ports message with
  | ok =>
    obtain ⟨outbox', hsettle, hreplaces⟩ := settle_leased hrow hunpublished hlease "publish"
      (fun row => { row with publishedAt := some now, lease := none, lastError := none })
      (fun _ => rfl)
    refine ⟨outbox', _, hreplaces, rfl, restores_of_written rfl, .inl ⟨rfl, ?_⟩⟩
    have hmark : leased.markPublished now message.eventId relay.owner now = .ok outbox' := by
      rw [markPublished, hid, hidentity]
      exact hsettle
    simp only [deliverClaimed, hpublish, hmark]
  | error failure =>
    cases hdelay : positiveIntervalMillis (retryDelay relay.config message.deliveryAttempts)
        "retry delay" with
    | error error =>
      -- the row stays leased
      have hmark : leased.markFailed now message.eventId relay.owner failure
          (retryDelay relay.config message.deliveryAttempts) = .error error := by
        simp only [markFailed, hid, hidentity, hdelay]
        rfl
      refine ⟨leased, _, ⟨hrow, fun _ _ => rfl⟩, rfl, restores_of_written rfl, .inr ⟨hunpublished,
        fun hmillis => ?_, by simp, ⟨message.eventId, _⟩, by
          simp only [deliverClaimed, hpublish, scheduleRetry, hmark]; rfl⟩⟩
      rw [retryDelay_millis hmillis] at hdelay
      cases hdelay
    | ok milliseconds =>
      obtain ⟨outbox', hsettle, hreplaces⟩ := settle_leased hrow hunpublished hlease "fail"
        (fun row => { row with
          lastError := some (String.ofList (failure.toList.take 2048))
          nextAttemptAt := afterMillis now milliseconds
          lease := none })
        (fun _ => rfl)
      refine ⟨outbox', _, hreplaces, rfl, restores_of_written rfl, .inr ⟨hunpublished,
        fun _ => lt_afterMillis (positiveIntervalMillis_pos hdelay) now, by simp,
        ⟨message.eventId, failure⟩, ?_⟩⟩
      have hmark : leased.markFailed now message.eventId relay.owner failure
          (retryDelay relay.config message.deliveryAttempts) = .ok outbox' := by
        simp only [markFailed, hid, hidentity, hdelay]
        exact hsettle
      simp only [deliverClaimed, hpublish, scheduleRetry, hmark]

/-! ### One turn -/

/-- One round of a turn: nothing is claimed, or the first due row is published and the turn goes on, or
its delivery fails and the turn ends. -/
theorem runLoop_succ (relay : OutboxRelay) (outbox : Outbox) (ports : DeliveryPorts) (now : ℤ)
    (remaining : ℕ) (report : OutboxRelayReport) :
    ((relay.config.WholeMillis → Claimable 1 outbox → ∀ row ∈ outbox.rows, ¬ row.Due now) ∧
      (relay.runLoop ports now (remaining + 1) report outbox).2 = outbox) ∨
    ∃ row ∈ outbox.rows, ∃ outbox' row', row.Due now ∧
      (∀ other ∈ outbox.rows, other.Due now → row.rank ≤ other.rank) ∧
      Replaces outbox outbox' row row' ∧ row'.deliveryAttempts = row.deliveryAttempts + 1 ∧
      row'.Restores ∧
      ((row'.publishedAt.isSome = true ∧ ∃ report',
        relay.runLoop ports now (remaining + 1) report outbox =
          relay.runLoop ports now remaining report' outbox') ∨
      (row'.publishedAt = none ∧ (relay.config.WholeMillis → now < row'.nextAttemptAt) ∧
        (∃ message, message.eventId = row.eventId ∧ ¬ Delivers ports message) ∧
        (relay.runLoop ports now (remaining + 1) report outbox).2 = outbox')) := by
  rcases claim_one relay outbox now with ⟨hclaim | ⟨error, hclaim⟩, hnone⟩ |
    ⟨row, hrow, message, leased, leasedUntil, hdue, hfirst, hmessage, hlease, hclaim, hleased⟩
  · exact .inl ⟨hnone, by simp [runLoop, hclaim]⟩
  · exact .inl ⟨hnone, by simp [runLoop, hclaim]⟩
  · obtain ⟨scope, event, -, hrestored, hevent⟩ := restore_ok_iff.1 hmessage
    have hid : message.eventId = row.eventId := by rw [hrestored]
    obtain ⟨outbox', row', hsettled, hattempts, hrestores, hcases⟩ := deliverClaimed_cases
      ports { message with deliveryAttempts := row.deliveryAttempts + 1 } hleased.new hdue.1 hlease
      hid (hid ▸ OutboxMessage.eventId_ne hevent)
    refine .inr ⟨row, hrow, outbox', row', hdue, hfirst, ⟨hsettled.new, fun id hid =>
      (hsettled.others id hid).trans (hleased.others id hid)⟩, hattempts,
      hrestores ⟨_, hmessage⟩, ?_⟩
    rcases hcases with ⟨hpublished, hdeliver⟩ | ⟨hunpublished, hlater, hfails, failure, hdeliver⟩
    · exact .inl ⟨hpublished,
        { report with claimed := report.claimed + 1, published := report.published + 1 },
        by simp only [runLoop, hclaim, hdeliver]⟩
    · refine .inr ⟨hunpublished, hlater,
        ⟨{ message with deliveryAttempts := row.deliveryAttempts + 1 }, hid, fun hdelivers =>
          hfails (publishMessage_of_delivers hdelivers hevent)⟩, ?_⟩
      simp only [runLoop, hclaim, hdeliver]

section RowStep

variable {config : OutboxRelayConfig}

theorem RowStep.published (h : RowStep config ports now row row')
    (hpublished : row.publishedAt.isSome = true) : row' = row := by
  rcases h with rfl | ⟨hnone, -⟩
  · rfl
  · rw [hnone] at hpublished
    cases hpublished

/-- A row never comes earlier in the order of the claims. -/
theorem RowStep.rank_le (h : RowStep config ports now row row') (hmillis : config.WholeMillis)
    (hunpublished : row'.publishedAt = none) : row.rank ≤ row'.rank := by
  rcases h with rfl | ⟨-, -, -, hsome | ⟨-, hdue, hlater, -⟩⟩
  · exact le_refl _
  · rw [hunpublished] at hsome
    cases hsome
  · exact (Prod.Lex.toLex_lt_toLex.2 (.inl (hdue.trans_lt (hlater hmillis)))).le

theorem RowStep.refl_rel (o : Option OutboxRow) : Option.Rel (RowStep config ports now) o o := by
  cases o with
  | none => exact .none
  | some => exact .some (.inl rfl)

end RowStep

/-- A turn takes one step at every row. -/
theorem runLoop_step (relay : OutboxRelay) (ports : DeliveryPorts) (now : ℤ) (remaining : ℕ)
    (report : OutboxRelayReport) (id : Uuid) :
    Option.Rel (RowStep relay.config ports now) (outbox.get? id)
      ((relay.runLoop ports now remaining report outbox).2.get? id) := by
  induction remaining generalizing report outbox with
  | zero => exact RowStep.refl_rel _
  | succ remaining ih =>
    rcases runLoop_succ relay outbox ports now remaining report with ⟨-, hsame⟩ |
      ⟨first, hfirst, outbox', first', hdue, -, hreplaces, hattempts, hrestores, hcases⟩
    · rw [hsame]
      exact RowStep.refl_rel _
    have hget := get?_eq_some_iff.2 ⟨hfirst, rfl⟩
    rcases hcases with ⟨hpublished, report', hrun⟩ | ⟨hunpublished, hlater, hfails, hrun⟩
    · have hrest := @ih outbox' report'
      rw [hrun]
      by_cases heq : id = first.eventId
      · -- the rest of the turn leaves the published row as it is
        subst heq
        rw [hreplaces.new] at hrest
        rw [hget]
        generalize (relay.runLoop ports now remaining report' outbox').2.get? first.eventId = o
          at hrest ⊢
        cases hrest with
        | some hstep =>
          rw [hstep.published hpublished]
          exact .some (.inr ⟨hdue.1, hattempts, hrestores, .inl hpublished⟩)
      · rw [hreplaces.others id heq] at hrest
        exact hrest
    · rw [hrun]
      by_cases heq : id = first.eventId
      · subst heq
        rw [hget, hreplaces.new]
        exact .some (.inr ⟨hdue.1, hattempts, hrestores,
          .inr ⟨hunpublished, hdue.2.1, hlater, hfails⟩⟩)
      · rw [hreplaces.others id heq]
        exact RowStep.refl_rel _

theorem runOnce_row (relay : OutboxRelay) (ports : DeliveryPorts) (now : ℤ)
    (hrow : outbox.get? id = some row) :
    ∃ row', (relay.runOnce ports now outbox).2.get? id = some row' ∧
      RowStep relay.config ports now row row' := by
  have hstep := @runLoop_step outbox relay ports now relay.config.batchSize {} id
  rw [hrow] at hstep
  rw [runOnce]
  generalize (relay.runLoop ports now relay.config.batchSize {} outbox).2.get? id = o at hstep ⊢
  cases hstep with
  | some hstep => exact ⟨_, rfl, hstep⟩

theorem runOnce_row_before (relay : OutboxRelay) (ports : DeliveryPorts) (now : ℤ)
    (hrow : (relay.runOnce ports now outbox).2.get? id = some row') :
    ∃ row, outbox.get? id = some row ∧ RowStep relay.config ports now row row' := by
  have hstep := @runLoop_step outbox relay ports now relay.config.batchSize {} id
  rw [runOnce] at hrow
  rw [hrow] at hstep
  generalize outbox.get? id = o at hstep ⊢
  cases hstep with
  | some hstep => exact ⟨_, rfl, hstep⟩

/-- A turn uses up one attempt of a row. -/
theorem Claimable.runOnce (h : Claimable (attempts + 1) outbox) (relay : OutboxRelay)
    (ports : DeliveryPorts) (now : ℤ) : Claimable attempts (relay.runOnce ports now outbox).2 := by
  intro row' hrow' hnone
  obtain ⟨row, hrow, hstep⟩ := runOnce_row_before relay ports now
    (get?_eq_some_iff.2 ⟨hrow', rfl⟩)
  have hmem := (get?_eq_some_iff.1 hrow).1
  rcases hstep with rfl | ⟨hunpublished, hattempts, hrestores, -⟩
  · exact ⟨(h _ hmem hnone).1, by have := (h _ hmem hnone).2; omega⟩
  · exact ⟨hrestores, by have := (h row hmem hunpublished).2; omega⟩

/-! ### The wait of a message -/

/-- The unpublished events up to a place in the order of the claims. -/
def ahead (outbox : Outbox) (place : ℤ ×ₗ ℤ ×ₗ ℕ) : Finset Uuid :=
  ((outbox.rows.filter fun row => row.publishedAt = none ∧ row.rank ≤ place).map
    OutboxRow.eventId).toFinset

theorem mem_ahead {place : ℤ ×ₗ ℤ ×ₗ ℕ} : id ∈ ahead outbox place ↔
      ∃ row, outbox.get? id = some row ∧ row.publishedAt = none ∧ row.rank ≤ place := by
  simp only [ahead, mem_toFinset, mem_map, mem_filter, decide_eq_true_eq,
    get?_eq_some_iff]
  constructor
  · rintro ⟨row, ⟨hrow, hnone, hle⟩, rfl⟩
    exact ⟨row, ⟨hrow, rfl⟩, hnone, hle⟩
  · rintro ⟨row, ⟨hrow, rfl⟩, hnone, hle⟩
    exact ⟨row, ⟨hrow, hnone, hle⟩, rfl⟩

theorem ahead_runOnce (hmillis : relay.config.WholeMillis) (ports : DeliveryPorts) (now : ℤ)
    (outbox : Outbox) (place : ℤ ×ₗ ℤ ×ₗ ℕ) :
    ahead (relay.runOnce ports now outbox).2 place ⊆ ahead outbox place := by
  intro id hid
  obtain ⟨row', hrow', hnone, hle⟩ := mem_ahead.1 hid
  obtain ⟨row, hrow, hstep⟩ := runOnce_row_before relay ports now hrow'
  refine mem_ahead.2 ⟨row, hrow, ?_, (hstep.rank_le hmillis hnone).trans hle⟩
  rcases hstep with rfl | ⟨hunpublished, -⟩
  · exact hnone
  · exact hunpublished

/-- A turn leaves fewer events ahead of a message that is due. -/
theorem ahead_runOnce_ssubset (hmillis : relay.config.WholeMillis) (ports : DeliveryPorts)
    (hclaimable : Claimable 1 outbox) (hrow : row ∈ outbox.rows) (hdue : row.Due now) :
    ahead (relay.runOnce ports now outbox).2 row.rank ⊂ ahead outbox row.rank := by
  obtain ⟨remaining, hbatch⟩ := Nat.exists_eq_succ_of_ne_zero relay.validate_ok.1.ne'
  have hrun : relay.runOnce ports now outbox = relay.runLoop ports now (remaining + 1) {} outbox := by
    rw [runOnce, hbatch]
  rcases runLoop_succ relay outbox ports now remaining {} with ⟨hnone, -⟩ |
    ⟨first, hfirst, outbox', first', hfirstDue, hle, hreplaces, hattempts, hrestores, hcases⟩
  · exact absurd hdue (hnone hmillis hclaimable row hrow)
  have hget := get?_eq_some_iff.2 ⟨hfirst, rfl⟩
  have hmem : first.eventId ∈ ahead outbox row.rank :=
    mem_ahead.2 ⟨first, hget, hfirstDue.1, hle row hrow hdue⟩
  refine (Finset.ssubset_iff_of_subset (ahead_runOnce hmillis ports now outbox _)).2
    ⟨first.eventId, hmem, fun hafter => ?_⟩
  obtain ⟨row', hrow', hunpublished', hle'⟩ := mem_ahead.1 hafter
  rcases hcases with ⟨hpublished, report', hrest⟩ |
      ⟨-, hlater, -, hrest⟩
  · -- the row stays published until the end of the turn
    have hstep := @runLoop_step outbox' relay ports now remaining report' first.eventId
    rw [hrun, hrest] at hrow'
    rw [hreplaces.new, hrow'] at hstep
    cases hstep with
    | some hstep =>
      rw [hstep.published hpublished] at hunpublished'
      rw [hunpublished'] at hpublished
      cases hpublished
  · rw [hrun, hrest, hreplaces.new] at hrow'
    cases hrow'
    have hlt : row.rank < first'.rank :=
      Prod.Lex.toLex_lt_toLex.2 (.inl (hdue.2.1.trans_lt (hlater hmillis)))
    exact absurd hle' (not_le.2 hlt)

/-- An accepted message stays as it is until it is published. -/
theorem RowStep.of_delivers {config : OutboxRelayConfig} (h : RowStep config ports now row row')
    (hdelivers : ∀ message, message.eventId = row.eventId → Delivers ports message) :
    row' = row ∨ row'.publishedAt.isSome = true := by
  rcases h with rfl | ⟨-, -, -, hsome | ⟨-, -, -, message, hid, hfails⟩⟩
  · exact .inl rfl
  · exact .inr hsome
  · exact absurd (hdelivers message hid) hfails

end OutboxRelay

/-! ### The bound -/

/-- The number of unpublished messages. -/
def Outbox.unpublished (outbox : Outbox) : ℕ :=
  (outbox.rows.filter fun row => row.publishedAt = none).length

/-- The turns after which the times that a relay writes have passed, and one turn for each
unpublished message. -/
def OutboxRelayConfig.turnBound (config : OutboxRelayConfig) (unpublished : ℕ) : ℕ :=
  (max config.leaseDuration config.maximumBackoff + config.pollInterval - 1) / config.pollInterval +
    unpublished

/-- The unpublished rows can be restored as often as the bound may need it, and the times of those
outside `B` are within what a relay of this configuration writes. -/
def Outbox.Deliverable (config : OutboxRelayConfig) (start : ℤ) (B : Set Uuid)
    (outbox : Outbox) : Prop :=
  ∀ row ∈ outbox.rows, row.publishedAt = none →
    row.Restores ∧ row.deliveryAttempts + config.turnBound outbox.unpublished ≤ i32Max ∧
      (row.eventId ∉ B → row.nextAttemptAt ≤ start + config.maximumBackoff ∧
        ∀ lease ∈ row.lease, lease.leasedUntil ≤ start + config.leaseDuration)

namespace OutboxRelay

variable {relay : OutboxRelay}

theorem card_ahead_le (outbox : Outbox) (place : ℤ ×ₗ ℤ ×ₗ ℕ) :
    (ahead outbox place).card ≤ outbox.unpublished := by
  refine (toFinset_card_le _).trans ?_
  rw [length_map, Outbox.unpublished]
  refine (monotone_filter_right outbox.rows fun row h => ?_).length_le
  simp only [decide_eq_true_eq] at h ⊢
  exact h.1

theorem claimable_turns (ports : ℕ → DeliveryPorts) (start : ℤ) {attempts : ℕ} (turn : ℕ)
    (h : Claimable (attempts + turn) outbox) :
    Claimable attempts (relay.turns ports start outbox turn) := by
  induction turn generalizing attempts with
  | zero => exact h
  | succ turn ih =>
    refine Claimable.runOnce (ih ?_) relay (ports turn) (relay.clock start turn)
    rwa [Nat.add_right_comm, Nat.add_assoc attempts]

variable {start : ℤ} {row : OutboxRow} {turn : ℕ}

/-- When the times of a row have passed. -/
theorem due_of_turn (hunpublished : row.publishedAt = none)
    (hnext : row.nextAttemptAt ≤ start + relay.config.maximumBackoff)
    (hlease : ∀ lease ∈ row.lease, lease.leasedUntil ≤ start + relay.config.leaseDuration)
    (hturn : relay.config.turnBound 0 ≤ turn) : row.Due (relay.clock start turn) := by
  have hpoll := relay.validate_ok.2.1
  have hpassed : max relay.config.leaseDuration relay.config.maximumBackoff ≤
      turn * relay.config.pollInterval := by
    rw [OutboxRelayConfig.turnBound, Nat.add_zero, Nat.div_le_iff_le_mul_add_pred hpoll] at hturn
    rw [Nat.mul_comm]
    omega
  have hlease' := (le_max_left _ _).trans hpassed
  have hnext' := (le_max_right _ _).trans hpassed
  have hclock : relay.clock start turn = start + ((turn * relay.config.pollInterval : ℕ) : ℤ) := by
    rw [clock, Nat.cast_mul]
  rw [hclock]
  exact ⟨hunpublished, by omega, fun lease hl => by have := hlease lease hl; omega⟩

/-- Until an accepted message is published its row is unchanged, and from the turn on in which it is
due each turn leaves fewer events ahead of it. -/
theorem turns_waits (hmillis : relay.config.WholeMillis) {ports : ℕ → DeliveryPorts} {B : Set Uuid}
    (hrows : outbox.Deliverable relay.config start B) (hrow : row ∈ outbox.rows)
    (hunpublished : row.publishedAt = none) (hB : row.eventId ∉ B)
    (hdelivers : ∀ turn message, message.eventId = row.eventId → Delivers (ports turn) message)
    (hturn : turn ≤ relay.config.turnBound outbox.unpublished) :
    (∃ row', (relay.turns ports start outbox turn).get? row.eventId = some row' ∧
      row'.publishedAt.isSome = true) ∨
    ((relay.turns ports start outbox turn).get? row.eventId = some row ∧
      (ahead (relay.turns ports start outbox turn) row.rank).card +
        (turn - relay.config.turnBound 0) ≤ outbox.unpublished) := by
  induction turn with
  | zero => exact .inr ⟨get?_eq_some_iff.2 ⟨hrow, rfl⟩, by
      rw [Nat.zero_sub, Nat.add_zero]
      exact card_ahead_le outbox row.rank⟩
  | succ turn ih =>
    have hclaimable : Claimable 1 (relay.turns ports start outbox turn) := by
      refine claimable_turns ports start turn fun row hrow hnone => ?_
      obtain ⟨hrestores, hattempts, -⟩ := hrows row hrow hnone
      exact ⟨hrestores, by omega⟩
    rcases ih (by omega) with ⟨row', hrow', hpublished⟩ | ⟨hwaits, hcard⟩
    · obtain ⟨row'', hrow'', hstep⟩ := runOnce_row relay (ports turn) (relay.clock start turn) hrow'
      exact .inl ⟨row'', hrow'', by rw [hstep.published hpublished]; exact hpublished⟩
    · obtain ⟨row', hrow', hstep⟩ := runOnce_row relay (ports turn) (relay.clock start turn) hwaits
      rcases hstep.of_delivers (hdelivers turn) with rfl | hpublished
      · refine .inr ⟨hrow', ?_⟩
        have hsubset := Finset.card_le_card (ahead_runOnce hmillis (ports turn)
          (relay.clock start turn) (relay.turns ports start outbox turn) row'.rank)
        rcases lt_or_ge turn (relay.config.turnBound 0) with hlt | hge
        · rw [turns]
          omega
        · obtain ⟨hnext, hlease⟩ := (hrows row' hrow hunpublished).2.2 hB
          have hfewer := Finset.card_lt_card (ahead_runOnce_ssubset hmillis (ports turn) hclaimable
            (get?_eq_some_iff.1 hwaits).1 (due_of_turn hunpublished hnext hlease hge))
          rw [turns]
          omega
      · exact .inl ⟨row', hrow', hpublished⟩

/-- Every message that is accepted whenever it is claimed is published after a number of turns that
depends only on the configuration and the number of unpublished messages, whatever becomes of the
other messages. -/
theorem published_within (relay : OutboxRelay) (ports : ℕ → DeliveryPorts) (start : ℤ)
    (outbox : Outbox) (B : Set Uuid) (hmillis : relay.config.WholeMillis)
    (hrows : outbox.Deliverable relay.config start B)
    (hports : ∀ turn message, message.eventId ∉ B → Delivers (ports turn) message)
    (row : OutboxRow) (hrow : row ∈ outbox.rows) (hunpublished : row.publishedAt = none)
    (hB : row.eventId ∉ B) :
    ∃ row', (relay.turns ports start outbox
        (relay.config.turnBound outbox.unpublished)).get? row.eventId = some row' ∧
      row'.publishedAt.isSome = true := by
  rcases turns_waits hmillis hrows hrow hunpublished hB
    (fun turn message hid => hports turn message (hid ▸ hB)) le_rfl with h | ⟨hwaits, hcard⟩
  · exact h
  · -- the message itself is among those that are not behind it
    have hself : 0 < (ahead (relay.turns ports start outbox
        (relay.config.turnBound outbox.unpublished)) row.rank).card :=
      Finset.card_pos.2 ⟨row.eventId, mem_ahead.2 ⟨row, hwaits, hunpublished, le_refl _⟩⟩
    have hbound : relay.config.turnBound outbox.unpublished =
        relay.config.turnBound 0 + outbox.unpublished := by
      simp [OutboxRelayConfig.turnBound]
    omega

/-! ### A row that cannot be restored -/

/-- A claim whose first row cannot be restored is undone. -/
theorem claim_blocked (relay : OutboxRelay) {now : ℤ} (hrow : row ∈ outbox.rows)
    (hdue : row.Due now) (hbad : ¬ row.Restores)
    (hfirst : ∀ other ∈ outbox.rows, other.publishedAt = none → row.rank ≤ other.rank) :
    ∃ error, outbox.claim now relay.owner 1 relay.config.leaseDuration = .error error := by
  cases hclaim : outbox.claim now relay.owner 1 relay.config.leaseDuration with
  | error error => exact ⟨error, rfl⟩
  | ok =>
    exfalso
    rcases @firstRows_one _ _ _ RankLe _ _ _ outbox (fun row => row.Due now) with
      ⟨-, hnone⟩ | ⟨first, hmem, hlist, hfirstDue, hle⟩
    · exact absurd hdue (by simpa using hnone row hrow)
    have hsame : first = row := by
      have hrank : first.rank = row.rank :=
        (hle row hrow (by simpa using hdue)).antisymm
          (hfirst first hmem (by simpa using hfirstDue : first.Due now).1)
      simp only [rank, EmbeddingLike.apply_eq_iff_eq, Prod.mk.injEq] at hrank
      exact outbox.eq_of_key_eq hmem hrow hrank.2.2
    subst hsame
    simp only [claim, one_ne_zero, if_false, ok_rules, hlist, map_cons, map_nil, mapAll_ok_iff,
      forall₂_cons_left_iff] at hclaim
    obtain ⟨-, -, millis, -, -, messages, ⟨message, -, hmessage, -⟩, -⟩ := hclaim
    obtain ⟨scope, event, hscope, rfl, hevent⟩ := restore_ok_iff.1 hmessage
    exact hbad ⟨_, restore_ok_iff.2 ⟨scope, event, hscope, rfl, hevent⟩⟩

theorem le_clock (relay : OutboxRelay) (start : ℤ) (turn : ℕ) : start ≤ relay.clock start turn :=
  le_add_of_nonneg_right (by positivity)

/-- If the first unpublished row is due and cannot be restored, no turn changes the outbox. -/
theorem turns_of_blocked (relay : OutboxRelay) (ports : ℕ → DeliveryPorts)
    (row : OutboxRow) (hrow : row ∈ outbox.rows) (hdue : row.Due start) (hbad : ¬ row.Restores)
    (hfirst : ∀ other ∈ outbox.rows, other.publishedAt = none → row.rank ≤ other.rank) (turn : ℕ) :
    relay.turns ports start outbox turn = outbox := by
  induction turn with
  | zero => rfl
  | succ turn ih =>
    have hlater := relay.le_clock start turn
    have hdue' : row.Due (relay.clock start turn) :=
      ⟨hdue.1, hdue.2.1.trans hlater, fun lease hl => (hdue.2.2 lease hl).trans hlater⟩
    obtain ⟨error, herror⟩ := claim_blocked relay hrow hdue' hbad hfirst
    obtain ⟨remaining, hbatch⟩ := Nat.exists_eq_succ_of_ne_zero relay.validate_ok.1.ne'
    rw [turns, ih, runOnce, hbatch, runLoop, herror]

/-- Whatever the projectors and the publisher answer, no row is lost, none is touched after it was
published, and a turn makes at most one attempt at a row. -/
theorem turns_row (relay : OutboxRelay) (ports : ℕ → DeliveryPorts) (start : ℤ) (turn : ℕ)
    (hrow : row ∈ outbox.rows) :
    ∃ row', (relay.turns ports start outbox turn).get? row.eventId = some row' ∧
      (row.publishedAt.isSome = true → row' = row) ∧
      (row'.deliveryAttempts = row.deliveryAttempts → row' = row) ∧
      row.deliveryAttempts ≤ row'.deliveryAttempts ∧
      row'.deliveryAttempts ≤ row.deliveryAttempts + turn := by
  induction turn with
  | zero =>
    exact ⟨row, get?_eq_some_iff.2 ⟨hrow, rfl⟩, fun _ => rfl, fun _ => rfl, le_rfl, le_rfl⟩
  | succ turn ih =>
    obtain ⟨before, hbefore, hpublished, hsame, hle, hbound⟩ := ih
    obtain ⟨row', hrow', hstep⟩ := runOnce_row relay (ports turn) (relay.clock start turn) hbefore
    refine ⟨row', hrow', ?_⟩
    rcases hstep with rfl | ⟨hunpublished, hattempts, -⟩
    · exact ⟨hpublished, hsame, hle, by omega⟩
    · refine ⟨fun hsome => ?_, by omega, by omega, by omega⟩
      rw [hpublished hsome] at hunpublished
      simp [hunpublished] at hsome

end OutboxRelay

end

/-! ### A small outbox -/

namespace Sample

open A3SCloud.Sample

/-- An event of an organization. -/
def outboxRow (eventId : Uuid) (eventKey : String) : OutboxRow where
  eventId := eventId
  eventKey := eventKey
  schemaVersion := 1
  scope := .ok (.organization 7 8)
  aggregateId := 9
  aggregateVersion := 1
  occurredAt := seconds eventId
  correlationId := 10
  causationId := none
  payload := ⟨true, "changed"⟩
  publishedAt := none
  deliveryAttempts := 0
  lastError := none
  lease := none
  nextAttemptAt := seconds eventId

/-- One message per turn, a lease of thirty seconds and retries after one to sixty seconds. -/
def outboxRelay : OutboxRelay where
  owner := 3
  config := ⟨1, 1000000000, 30000000000, 10000000000, 1000000000, 60000000000⟩
  owner_ne := by decide
  valid := by decide

def rejectFirst : DeliveryPorts where
  projectors := [fun message => if message.eventId = 1 then .error "rejected" else .ok ()]
  publish _ := .ok ()
  timedOut _ := false

/-- Two events, the first under the given key. -/
def outbox (eventKey : String) : Outbox :=
  ⟨[outboxRow 1 eventKey, outboxRow 2 "identity.platform-role.changed"], by simp [outboxRow]⟩

theorem delivers_second {message : OutboxMessage} (h : message.eventId ∉ ({1} : Set Uuid)) :
    OutboxRelay.Delivers rejectFirst message := by
  refine ⟨rfl, fun project hproject => ?_, rfl⟩
  rw [rejectFirst, mem_singleton] at hproject
  rw [hproject]
  exact if_neg h

end Sample

open IntegrationEvents.Sample A3SCloud.Sample

/-- The second event is published although the first one is always rejected. -/
theorem published_within_rejected :
    ∃ row', (outboxRelay.turns (fun _ => rejectFirst) (seconds 5) (outbox "identity.user.created")
        (outboxRelay.config.turnBound 2)).get? 2 = some row' ∧ row'.publishedAt.isSome = true := by
  refine OutboxRelay.published_within outboxRelay _ _ (outbox "identity.user.created") {1}
    (by decide) ?_ (fun _ _ => delivers_second) (outboxRow 2 "identity.platform-role.changed")
    (by simp [outbox]) rfl (by simp [outboxRow])
  intro row hrow _
  rcases mem_pair.1 hrow with rfl | rfl
  · exact ⟨⟨_, rfl⟩, by decide, fun h => absurd rfl h⟩
  · exact ⟨⟨_, rfl⟩, by decide, fun _ => by decide⟩

theorem turns_row_rejected :
    ∃ row', (outboxRelay.turns (fun _ => rejectFirst) (seconds 5) (outbox "identity.user.created")
        2).get? 1 = some row' ∧ row'.deliveryAttempts ≤ 2 := by
  have hrow : outboxRow 1 _ ∈ (outbox "identity.user.created").rows := mem_cons_self
  obtain ⟨row', hrow', -, -, -, hattempts⟩ := OutboxRelay.turns_row outboxRelay
    (fun _ => rejectFirst) (seconds 5) 2 hrow
  exact ⟨row', hrow', hattempts⟩

/-- The key of the first event has only two segments. The second event is due and accepted, and no
turn publishes it. -/
theorem unrestorable_blocks :
    (∀ turn : ℕ, (outboxRow 2 "identity.platform-role.changed").Due
      (outboxRelay.clock (seconds 5) turn)) ∧
    (∀ message : OutboxMessage, message.eventId = 2 → OutboxRelay.Delivers rejectFirst message) ∧
    ∀ turn, (outboxRelay.turns (fun _ => rejectFirst) (seconds 5) (outbox "identity.changed")
      turn).get? 2 = some (outboxRow 2 "identity.platform-role.changed") := by
  refine ⟨fun turn => ⟨rfl, ?_, by simp [outboxRow]⟩,
    fun message hid => delivers_second (by simp [hid]), fun turn => ?_⟩
  · have hseconds : (outboxRow 2 "identity.platform-role.changed").nextAttemptAt ≤ seconds 5 := by
      decide
    exact hseconds.trans (outboxRelay.le_clock _ turn)
  · rw [OutboxRelay.turns_of_blocked outboxRelay _ (outboxRow 1 "identity.changed")
      (by simp [outbox]) (by decide) ?_ ?_ turn]
    · rfl
    · rintro ⟨message, hmessage⟩
      have : (outboxRow 1 "identity.changed").restore =
          .error (.storage ("PostgreSQL persistence invariant failed: " ++
            "domain event envelope is invalid")) := rfl
      rw [this] at hmessage
      cases hmessage
    · intro other hother _
      rcases mem_pair.1 hother with rfl | rfl
      · exact le_refl _
      · decide

end A3SCloud.IntegrationEvents
