import A3SCloud.Automations.Invocation

/-!
# Deduplication keys

The key of an invocation is the template of its definition with the holes filled. What a trigger puts
into the key is the text of one hole, so two triggers get different keys if and only if the template
has that hole.

* `AutomationDefinitionSpec.BindsTrigger`: the template of a schedule has the hole `{scheduled_at}`.
* `AutomationDeduplicationPolicy.ReadAs` cuts a template that passed its check into pieces;
  `renderKey_ok` is what is rendered of them.
* `renderKey_ne_iff`: the keys of two triggers differ if and only if the definition binds them.
* `InvocationStore.Consistent` ties the two tables of the repository together, and
  `InvocationStore.admitEnvelope_bound_iff` says when an admission is refused because of an earlier one.
-/

namespace A3SCloud

open Checks Template List AutomationDeduplicationPolicy AutomationInvocationEnvelope
  AutomationInvocationOrigin

namespace AutomationInvocationOrigin

/-- The two origins denote different triggers. -/
def Distinct : AutomationInvocationOrigin → AutomationInvocationOrigin → Prop
  | dueTime s, dueTime t => s ≠ t
  | event id _ _ _, event id' _ _ _ => id ≠ id'
  | _, _ => True

/-- The hole that the trigger of an origin fills. -/
def hole : AutomationInvocationOrigin → Placeholder
  | dueTime _ => .scheduledAt
  | event .. => .eventId

/-- What the trigger fills its hole with. -/
def value (codec : AutomationCodec) : AutomationInvocationOrigin → List Char
  | dueTime scheduledAt => (codec.timestampText scheduledAt).toList
  | event eventId _ _ _ => (codec.uuidText eventId).toList

theorem hole_eq {o o' : AutomationInvocationOrigin} (hkind : o.isDueTime = o'.isDueTime) :
    o.hole = o'.hole := by
  cases o <;> cases o' <;> first | rfl | cases hkind

end AutomationInvocationOrigin

/-- The template of a schedule names the occurrence. -/
def AutomationDefinitionSpec.BindsTrigger (spec : AutomationDefinitionSpec) : Prop :=
  spec.trigger.isSchedule = true →
    ∃ placeholders, templatePlaceholders spec.policy.deduplication.keyTemplate = .ok placeholders ∧
      Placeholder.scheduledAt.chars ∈ placeholders

/-! ### The pieces of a template -/

namespace Deduplication

theorem plain_chars (p : Placeholder) : Plain p.chars := by
  cases p <;> simp [Plain, Placeholder.chars, Placeholder.name]

theorem chars_injective : Function.Injective Placeholder.chars := by
  intro p q h
  have hname : p.name = q.name := String.toList_injective h
  cases p <;> cases q <;> first | rfl | simp [Placeholder.name] at hname

theorem checkPlaceholder_ok {seen : List (List Char)} {name : List Char}
    (h : checkPlaceholder seen name = .ok ()) : (∃ p, name = Placeholder.chars p) ∧ name ∉ seen := by
  simp only [checkPlaceholder, ok_rules, not_not] at h
  obtain ⟨p, -, hp⟩ := mem_map.1 h.1
  exact ⟨⟨p, hp.symm⟩, h.2⟩

/-- The pieces of a template that was read. -/
structure ReadAs (template : String) (segments : List Segment) : Prop where
  text : Template.text segments = template.toList
  plain : ∀ segment ∈ segments, segment.Plain
  nodup : (holes segments).Nodup

theorem nodup_of_checked {names : List (List Char)}
    (h : ∀ front name back, names = front ++ name :: back → name ∉ front) : names.Nodup := by
  induction names using reverseRecOn with
  | nil => exact nodup_nil
  | append_singleton names name ih =>
    rw [nodup_append]
    refine ⟨ih fun front other back heq => h front other (back ++ [name]) (by simp [heq]),
      nodup_singleton name, ?_⟩
    rintro a ha b hb rfl
    rw [mem_singleton] at hb
    exact h names name [] rfl (hb ▸ ha)

/-- A template whose holes can be read is cut into its pieces. -/
theorem templatePlaceholders_ok {template : String} {placeholders : List (List Char)}
    (h : templatePlaceholders template = .ok placeholders) :
    ∃ segments, ReadAs template segments ∧ placeholders = holes segments := by
  simp only [templatePlaceholders, ok_rules] at h
  have hopen : ∀ seen name, checkPlaceholder seen name = .ok () → '{' ∉ name := by
    intro seen name hname
    obtain ⟨⟨p, rfl⟩, -⟩ := checkPlaceholder_ok hname
    exact (plain_chars p).1
  obtain ⟨segments, hreads, htext, hnames⟩ := scan_ok hopen h.2
  refine ⟨segments, ⟨htext, hreads.plain, nodup_of_checked fun front name back heq => ?_⟩, hnames⟩
  exact (checkPlaceholder_ok (hreads.checked front name back heq)).2

/-! ### What is rendered -/

variable {codec : AutomationCodec}

/-- The pieces of a template with everything filled in that does not depend on the trigger. -/
def bound (codec : AutomationCodec) (segments : List Segment) (automationId revisionId : Uuid)
    (subscriptionId : Option Uuid) : List Segment :=
  let segments := segments.map (Segment.fill Placeholder.automationId.chars
    (codec.uuidText automationId).toList)
  let segments := segments.map (Segment.fill Placeholder.revisionId.chars
    (codec.uuidText revisionId).toList)
  match subscriptionId with
  | none => segments
  | some id => segments.map (Segment.fill Placeholder.subscriptionId.chars
      (codec.uuidText id).toList)

variable {segments : List Segment} {policy : AutomationDeduplicationPolicy}
  {automationId revisionId : Uuid} {origin o o' : AutomationInvocationOrigin}
  {subscriptionId : Option Uuid} {key key' : String}

theorem bound_plain (hlaw : codec.Lawful) (hplain : ∀ segment ∈ segments, segment.Plain)
    (automationId revisionId : Uuid) (subscriptionId : Option Uuid) :
    ∀ segment ∈ bound codec segments automationId revisionId subscriptionId, segment.Plain := by
  have hboth := plain_fill Placeholder.revisionId.chars
    (plain_fill Placeholder.automationId.chars hplain (hlaw.uuidPlain automationId))
    (hlaw.uuidPlain revisionId)
  cases subscriptionId with
  | none => exact hboth
  | some id => exact plain_fill _ hboth (hlaw.uuidPlain id)

/-- The holes of the triggers are still there. -/
theorem mem_holes_bound (codec : AutomationCodec) (segments : List Segment)
    (automationId revisionId : Uuid) (subscriptionId : Option Uuid)
    (origin : AutomationInvocationOrigin) :
    origin.hole.chars ∈ holes (bound codec segments automationId revisionId subscriptionId) ↔
      origin.hole.chars ∈ holes segments := by
  have hne : ∀ p : Placeholder, p ≠ origin.hole → origin.hole.chars ≠ p.chars :=
    fun p hp h => hp (chars_injective h).symm
  have h₁ := hne .automationId (by cases origin <;> simp [hole])
  have h₂ := hne .revisionId (by cases origin <;> simp [hole])
  have h₃ := hne .subscriptionId (by cases origin <;> simp [hole])
  cases subscriptionId with
  | none =>
    rw [bound, holes_fill, holes_fill]
    simp [h₁, h₂]
  | some =>
    rw [bound, holes_fill, holes_fill, holes_fill]
    simp [h₁, h₂, h₃]

theorem holes_bound_sublist (codec : AutomationCodec) (segments : List Segment)
    (automationId revisionId : Uuid) (subscriptionId : Option Uuid) :
    (holes (bound codec segments automationId revisionId subscriptionId)).Sublist
      (holes segments) := by
  cases subscriptionId with
  | none =>
    rw [bound, holes_fill, holes_fill]
    exact filter_sublist.trans filter_sublist
  | some =>
    rw [bound, holes_fill, holes_fill, holes_fill]
    exact filter_sublist.trans (filter_sublist.trans filter_sublist)

/-- A rendered key is the template with all its holes filled. -/
theorem renderKey_ok (hlaw : codec.Lawful) (hread : ReadAs policy.keyTemplate segments)
    (h : policy.renderKey codec automationId revisionId origin subscriptionId = .ok key) :
    origin.validate = .ok () ∧
      key.toList = text ((bound codec segments automationId revisionId subscriptionId).map
        (Segment.fill origin.hole.chars (origin.value codec))) := by
  simp only [renderKey, ok_rules] at h
  obtain ⟨horigin, -, -, filled, hfilled, rendered, hrendered, -, -, rfl⟩ := h
  refine ⟨horigin, ?_⟩
  rw [String.toList_ofList]
  -- One replacement after the other fills the holes of one name.
  have hauto := plain_fill Placeholder.automationId.chars hread.plain
    (hlaw.uuidPlain automationId)
  have hrevision := plain_fill Placeholder.revisionId.chars hauto (hlaw.uuidPlain revisionId)
  rw [← hread.text, Placeholder.pattern, Placeholder.pattern,
    replace_text _ hread.plain (plain_chars _),
    replace_text _ hauto (plain_chars _)] at hfilled
  have hbound : filled = text (bound codec segments automationId revisionId subscriptionId) := by
    cases subscriptionId with
    | none =>
      cases hfilled
      rfl
    | some =>
      simp only [renderKey.replaceSubscription, ok_rules, Placeholder.pattern] at hfilled
      rw [← hfilled.2, replace_text _ hrevision (plain_chars _), bound]
  have hplain := bound_plain hlaw hread.plain automationId revisionId subscriptionId
  cases origin with
  | dueTime =>
    simp only [renderKey.replaceOrigin, Except.ok.injEq] at hrendered
    rw [← hrendered, hbound, Placeholder.pattern, replace_text _ hplain (plain_chars _)]
    rfl
  | event =>
    simp only [renderKey.replaceOrigin, ok_rules] at hrendered
    rw [← hrendered.2, hbound, Placeholder.pattern, replace_text _ hplain (plain_chars _)]
    rfl

/-- Different triggers of one kind fill their hole with different texts. -/
theorem value_ne_of_distinct (hlaw : codec.Lawful) (hkind : o.isDueTime = o'.isDueTime)
    (hvalid : o.validate = .ok ()) (hvalid' : o'.validate = .ok ()) (hdistinct : o.Distinct o') :
    o.value codec ≠ o'.value codec := by
  intro hvalue
  cases o with
  | dueTime s =>
    cases o' with
    | dueTime t =>
      simp only [AutomationInvocationOrigin.validate, validateTimestamp, refuseIf_ok_iff, ne_eq,
        not_not] at hvalid hvalid'
      exact hdistinct (hlaw.timestampText s t hvalid hvalid' (String.toList_injective hvalue))
    | event => cases hkind
  | event =>
    cases o' with
    | dueTime => cases hkind
    | event =>
      exact hdistinct (hlaw.uuidText (String.toList_injective hvalue))

/-- The keys of two different triggers of one kind differ if and only if the template has the hole
that they fill. -/
theorem renderKey_ne_iff_hole (hlaw : codec.Lawful) (hread : ReadAs policy.keyTemplate segments)
    (hkind : o.isDueTime = o'.isDueTime) (hdistinct : o.Distinct o')
    (h : policy.renderKey codec automationId revisionId o subscriptionId = .ok key)
    (h' : policy.renderKey codec automationId revisionId o' subscriptionId = .ok key') :
    key ≠ key' ↔ o.hole.chars ∈ holes segments := by
  obtain ⟨hvalid, hkey⟩ := renderKey_ok hlaw hread h
  obtain ⟨hvalid', hkey'⟩ := renderKey_ok hlaw hread h'
  rw [← hole_eq hkind] at hkey'
  rw [← mem_holes_bound codec segments automationId revisionId subscriptionId o]
  constructor
  · intro hne
    by_contra hmem
    rw [map_fill_of_notMem hmem] at hkey hkey'
    exact hne (String.toList_injective (hkey.trans hkey'.symm))
  · rintro hmem rfl
    have hnodup := hread.nodup.sublist
      (holes_bound_sublist codec segments automationId revisionId subscriptionId)
    exact value_ne_of_distinct hlaw hkind hvalid hvalid' hdistinct
      (text_fill_injective hmem hnodup (hkey.symm.trans hkey'))

theorem isDueTime_of_matches {trigger : AutomationTrigger}
    (h : originMatches trigger origin = true) :
    origin.isDueTime = trigger.isSchedule := by
  cases trigger <;> cases origin <;> first | rfl | cases h

/-- The keys of two different triggers of a valid definition differ if and only if its template binds
them. -/
theorem renderKey_ne_iff (hlaw : codec.Lawful) {spec : AutomationDefinitionSpec}
    (hspec : spec.validate = .ok ()) (hmatch : originMatches spec.trigger o = true)
    (hmatch' : originMatches spec.trigger o' = true) (hdistinct : o.Distinct o')
    (h : spec.policy.deduplication.renderKey codec automationId revisionId o subscriptionId = .ok key)
    (h' : spec.policy.deduplication.renderKey codec automationId revisionId o' subscriptionId =
      .ok key') : key ≠ key' ↔ spec.BindsTrigger := by
  obtain ⟨placeholders, hpolicy⟩ := AutomationDefinitionSpec.deduplication_of_validate hspec
  simp only [AutomationDeduplicationPolicy.validate, ok_rules] at hpolicy
  obtain ⟨names, hholes, -, -, -, hidentity, -, rfl⟩ := hpolicy
  obtain ⟨segments, hread, rfl⟩ := templatePlaceholders_ok hholes
  have hkind := isDueTime_of_matches hmatch
  have hsame := hkind.trans (isDueTime_of_matches hmatch').symm
  rw [renderKey_ne_iff_hole hlaw hread hsame hdistinct h h', AutomationDefinitionSpec.BindsTrigger,
    ← hkind]
  cases o with
  | dueTime =>
    constructor
    · exact fun hmem _ => ⟨_, hholes, hmem⟩
    · intro hbinds
      obtain ⟨names, hnames, hmem⟩ := hbinds rfl
      cases hholes.symm.trans hnames
      exact hmem
  | event =>
    have hevent : spec.trigger.requiresEventIdentity = true := by
      rw [AutomationTrigger.requiresEventIdentity, ← hkind]
      rfl
    simp only [checkIdentity, hevent, if_true, ok_rules, not_not] at hidentity
    exact ⟨fun _ hdue => absurd hdue Bool.false_ne_true, fun _ => hidentity.1⟩

end Deduplication

/-! ### The admission repository -/

namespace InvocationStore

variable {codec : AutomationCodec}

variable {store : InvocationStore} {envelope : AutomationInvocationEnvelope}
  {record : AutomationInvocationRecord}

/-- An admission finds its record or stores it with its key. -/
theorem admitEnvelope_ok {store' : InvocationStore} {replayed : Bool}
    (h : store.admitEnvelope codec envelope = .ok ((record, replayed), store')) :
    AutomationInvocationRecord.new codec envelope = .ok record ∧
      ((store' = store ∧ store.byInvocation.get? record.key = some record) ∨
        (replayed = false ∧ store.byInvocation.get? record.key = none ∧
          store.byDeduplication.get? record.deduplicationKey = none ∧
          store' = ⟨store.byInvocation.insert record,
            store.byDeduplication.insert ⟨record.deduplicationKey, envelope.invocationId⟩⟩)) := by
  simp only [admitEnvelope, ok_rules] at h
  obtain ⟨made, hmade, h⟩ := h
  cases hfound : store.byInvocation.get? made.key with
  | some =>
    rw [hfound] at h
    simp only at h
    split_ifs at h with hsame
    cases h
    exact ⟨hsame ▸ hmade, .inl ⟨rfl, hsame ▸ hfound⟩⟩
  | none =>
    rw [hfound] at h
    cases hkey : store.byDeduplication.get? made.deduplicationKey with
    | some =>
      rw [hkey] at h
      cases h
    | none =>
      rw [hkey] at h
      cases h
      exact ⟨hmade, .inr ⟨rfl, hfound, hkey, rfl⟩⟩

theorem new_ok (h : AutomationInvocationRecord.new codec envelope = .ok record) :
    record.envelope = envelope := by
  simp only [AutomationInvocationRecord.new, ok_rules] at h
  obtain ⟨-, digest, -, rfl⟩ := h
  rfl

/-- A record and the binding of its key come together. -/
structure Consistent (store : InvocationStore) : Prop where
  held : ∀ record ∈ store.byInvocation.rows, store.byDeduplication.get? record.deduplicationKey =
    some ⟨record.deduplicationKey, record.envelope.invocationId⟩
  bound : ∀ key b, store.byDeduplication.get? key = some b →
    ∃ record ∈ store.byInvocation.rows, record.deduplicationKey = key ∧
      record.envelope.invocationId = b.invocationId

theorem Consistent.step (h : store.Consistent) (envelope : AutomationInvocationEnvelope) :
    (store.step codec envelope).Consistent := by
  refine Runs.afterResult_of (P := Consistent) h ?_
  rintro ⟨record, replayed⟩ store' hadmission
  obtain ⟨hnew, ⟨rfl, -⟩ | ⟨-, hfresh, hfree, rfl⟩⟩ := admitEnvelope_ok hadmission
  · exact h
  have henvelope := new_ok hnew
  constructor
  · intro other hother
    rcases Table.mem_insert.1 hother with rfl | ⟨hother, -⟩
    · rw [Table.get?_insert, if_pos rfl, henvelope]
    · have hkept := h.held other hother
      have hne : other.deduplicationKey ≠ record.deduplicationKey := by
        intro heq
        rw [heq, hfree] at hkept
        cases hkept
      rw [Table.get?_insert, if_neg hne]
      exact hkept
  · intro key b hb
    rcases Table.get?_insert_eq_some.1 hb with ⟨rfl, rfl⟩ | ⟨-, hb⟩
    · exact ⟨record, Table.mem_insert.2 (.inl rfl), rfl, by rw [henvelope]⟩
    · obtain ⟨other, hother, hkey, hid⟩ := h.bound key b hb
      refine ⟨other, Table.mem_insert.2 (.inr ⟨hother, fun heq => ?_⟩), hkey, hid⟩
      exact absurd hother (Table.get?_eq_none_iff.1 hfresh other · heq)

theorem consistent_empty : empty.Consistent where
  held _ h := by cases h
  bound _ _ h := by cases h

/-- An admission under a new identity is refused if its key is bound. -/
theorem admitEnvelope_of_fresh (hnew : AutomationInvocationRecord.new codec envelope = .ok record)
    (hfresh : store.byInvocation.get? record.key = none) :
    store.admitEnvelope codec envelope = match store.byDeduplication.get? record.deduplicationKey with
      | some bound => .error (keyBound codec bound.invocationId)
      | none => .ok ((record, false), ⟨store.byInvocation.insert record,
          store.byDeduplication.insert ⟨record.deduplicationKey, envelope.invocationId⟩⟩) := by
  rw [admitEnvelope, hnew]
  simp only [Except.mapError, bind, Except.bind, hfresh]
  rfl

/-- It is refused because of an earlier record if and only if both have one key. -/
theorem admitEnvelope_bound_iff (hlaw : codec.Lawful) (hstore : store.Consistent)
    {earlier : AutomationInvocationRecord} (hearlier : earlier ∈ store.byInvocation.rows)
    (hnew : AutomationInvocationRecord.new codec envelope = .ok record)
    (hfresh : store.byInvocation.get? record.key = none)
    (horganization : earlier.envelope.organizationId = record.envelope.organizationId) :
    store.admitEnvelope codec envelope = .error (keyBound codec earlier.envelope.invocationId) ↔
      earlier.deduplicationKey = record.deduplicationKey := by
  rw [admitEnvelope_of_fresh hnew hfresh]
  constructor
  · intro h
    cases hkey : store.byDeduplication.get? record.deduplicationKey with
    | none =>
      rw [hkey] at h
      cases h
    | some b =>
      rw [hkey] at h
      simp only [keyBound, Except.error.injEq, RepositoryError.conflict.injEq,
        String.append_right_inj] at h
      obtain ⟨other, hother, hbound, hid⟩ := hstore.bound _ b hkey
      have hsame : other = earlier := by
        refine store.byInvocation.eq_of_key_eq hother hearlier (Prod.ext ?_ ?_)
        · exact (congrArg Prod.fst hbound).trans horganization.symm
        · exact hid.trans (hlaw.uuidText h)
      rw [← hsame, hbound]
  · intro hkey
    rw [← hkey, hstore.held earlier hearlier]

end InvocationStore

end A3SCloud
