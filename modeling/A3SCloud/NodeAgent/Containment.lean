import A3SCloud.NodeAgent.Archive

/-!
# Where an extracted archive leads

An extraction that succeeds puts the tree of its plan below the destination (`planTree`,
`Extracting.tree_eq`) and changes nothing else. The links of the archive are checked one by one
against their own paths; whether the tree holds every path that starts in it is decided by the links
together:

* `extracted_contained_iff`: no path of names that starts in the destination leaves it if and only if
  the target of no symbolic link does, resolved through the other entries of the archive.
* `link_through_link_leaves`: two links of which each passes the check lead out of the destination.
-/

namespace A3SCloud

open FileSystem Checks List Function

def PlannedKind.entryKind : PlannedKind → Kind
  | directory => .directory
  | file .. | hardlink _ => .file
  | symlink target => .symlink target

/-- What a plan puts below the destination. -/
def planTree (plans : List PlannedEntry) : Tree := fun p =>
  match plannedAt plans p with
  | some kind => some kind.entryKind
  | none => if p = [] ∨ p ∈ requiredDirectories plans then some .directory else none

/-! ### Valid plans -/

structure ValidPlan (plans : List PlannedEntry) : Prop where
  nodup : (plans.map (·.path)).Nodup
  nonempty : ∀ plan ∈ plans, plan.path ≠ []
  above : ∀ plan ∈ plans, ∀ a ∈ ancestors plan.path, ∀ kind, plannedAt plans a = some kind →
    kind = .directory
  hardlinks : ∀ plan ∈ plans, ∀ target, plan.kind = .hardlink target →
    ∃ kind, plannedAt plans target = some kind ∧ kind.isFile = true

variable {path a p d : Path} {plan : PlannedEntry} {node : FileSystem.Node}
  {plans : List PlannedEntry}

theorem mem_tail_inits : a ∈ path.inits.tail ↔ a <+: path ∧ a ≠ [] := by
  cases path with
  | nil => simp
  | cons =>
    simp only [inits_cons, tail_cons, mem_map, mem_inits]
    constructor
    · rintro ⟨b, hb, rfl⟩
      exact ⟨cons_prefix_cons.2 ⟨rfl, hb⟩, cons_ne_nil _ _⟩
    · rintro ⟨ha, hne⟩
      obtain ⟨x, b, rfl⟩ := exists_cons_of_ne_nil hne
      obtain ⟨rfl, hb⟩ := cons_prefix_cons.1 ha
      exact ⟨b, hb, rfl⟩

theorem mem_ancestors : a ∈ ancestors path ↔ a <+: path ∧ a ≠ [] ∧ a ≠ path := by
  rw [ancestors, mem_reverse]
  induction path using reverseRecOn with
  | nil => simp
  | append_singleton path name _ =>
    have hinits : (path ++ [name]).inits.dropLast = path.inits := by
      rw [inits_append]
      exact dropLast_concat
    rw [hinits, mem_tail_inits]
    constructor
    · rintro ⟨ha, hne⟩
      refine ⟨ha.trans (prefix_append _ _), hne, fun heq => ?_⟩
      have hle := ha.length_le
      rw [heq, length_append, length_singleton] at hle
      omega
    · rintro ⟨ha, hne, hnot⟩
      exact ⟨(prefix_concat_iff.1 ha).resolve_left hnot, hne⟩

theorem normalizedArchivePath_ne_nil {raw : RawPath} (h : normalizedArchivePath raw = .ok path) :
    path ≠ [] := by
  cases raw with
  | notUtf8 => cases h
  | text =>
    simp only [normalizedArchivePath, ok_rules] at h
    obtain ⟨-, normalized, -, hne, rfl⟩ := h
    exact hne

theorem planArchive_nonempty {sha256 : List UInt8 → ℕ} {limits : ArchiveLimits}
    {reading : TarReading} {summary : ArchiveSummary}
    (h : planArchive sha256 limits reading = .ok (plans, summary)) :
    ∀ plan ∈ plans, plan.path ≠ [] := by
  simp only [planArchive, ok_rules, Prod.mk.injEq] at h
  obtain ⟨planning, hfold, -, rfl, -⟩ := h
  refine (foldlM_ok (P := fun planning : Planning => ∀ plan ∈ planning.plans, plan.path ≠ [])
    (Q := fun _ _ => True) ?_ (fun _ hplan => absurd hplan not_mem_nil) hfold).1
  intro entry _ before after hbefore hentry
  refine ⟨?_, trivial, fun _ _ => trivial⟩
  simp only [planEntry, ok_rules] at hentry
  obtain ⟨entry, -, raw, -, hentry⟩ := hentry
  split_ifs at hentry
  · simp only [ok_rules] at hentry
    obtain ⟨-, rfl⟩ := hentry
    exact hbefore
  · simp only [ok_rules] at hentry
    obtain ⟨-, path, hpath, ⟨kind, expandedBytes⟩, -, rfl⟩ := hentry
    intro plan hplan
    rcases mem_append.1 hplan with hplan | hplan
    · exact hbefore plan hplan
    · rw [mem_singleton.1 hplan]
      exact normalizedArchivePath_ne_nil hpath

theorem validPlan_of_checks
    (hnonempty : ∀ plan ∈ plans, plan.path ≠ []) (h : validatePlan plans = .ok ()) :
    ValidPlan plans := by
  simp only [validatePlan, ok_rules, not_not, checkAll_ok_iff] at h
  obtain ⟨hnodup, hall⟩ := h
  have hchecked : ∀ plan ∈ plans,
      (∀ a ∈ ancestors plan.path, ∀ kind, plannedAt plans a = some kind → kind = .directory) ∧
        validateHardlink plans plan.kind = .ok () := by
    intro plan hplan
    have hplanned := hall plan hplan
    simp only [validatePlanned, ok_rules, Bool.not_eq_true] at hplanned
    refine ⟨fun a ha kind hkind => ?_, hplanned.2⟩
    by_contra hne
    have htrue : ((ancestors plan.path).any fun path =>
        (plannedAt plans path).any fun kind => decide (kind ≠ .directory)) = true :=
      any_eq_true.2 ⟨a, ha, by simp [hkind, hne]⟩
    rw [hplanned.1] at htrue
    cases htrue
  refine ⟨hnodup, hnonempty, fun plan hplan => (hchecked plan hplan).1, ?_⟩
  intro plan hplan target hkind
  have hhard := (hchecked plan hplan).2
  rw [hkind, validateHardlink, refuseIf_ok_iff] at hhard
  cases hplanned : plannedAt plans target with
  | none => simp [hplanned] at hhard
  | some kind => exact ⟨kind, rfl, by simpa [hplanned] using hhard⟩

theorem plannedAt_eq_some (h : ValidPlan plans) {kind : PlannedKind} :
    plannedAt plans p = some kind ↔ ⟨p, kind⟩ ∈ plans := by
  rw [plannedAt, Option.map_eq_some_iff]
  constructor
  · rintro ⟨plan, hfind, rfl⟩
    have hpath : plan.path = p := by simpa using find?_some hfind
    rw [← hpath]
    exact mem_of_find?_eq_some hfind
  · intro hmem
    cases hfind : plans.find? (·.path = p) with
    | none =>
      have hnone := find?_eq_none.1 hfind _ hmem
      simp at hnone
    | some plan =>
      have hpath : plan.path = p := by simpa using find?_some hfind
      have heq := inj_on_of_nodup_map h.nodup (mem_of_find?_eq_some hfind) hmem hpath
      exact ⟨plan, rfl, by rw [heq]⟩

theorem mem_requiredDirectories : d ∈ requiredDirectories plans ↔
      ∃ plan ∈ plans, (plan.kind = .directory ∧ plan.path = d) ∨ d ∈ ancestors plan.path := by
  rw [requiredDirectories, mem_dedup, mem_flatMap]
  apply exists_congr
  intro plan
  rw [mem_append]
  split_ifs with hkind
  · simp [hkind, eq_comm]
  · simp [hkind]

/-! ### Paths that stand in directories of the plan -/

/-- Everything above the path is a directory of the plan. -/
def InDirectories (plans : List PlannedEntry) (p : Path) : Prop :=
  ∀ a, a <+: p → a ≠ p → planTree plans a = some .directory

theorem ValidPlan.planTree_nil (h : ValidPlan plans) : planTree plans [] = some .directory := by
  have hnone : plannedAt plans [] = none := by
    rw [Option.eq_none_iff_forall_ne_some]
    intro kind hkind
    exact h.nonempty _ ((plannedAt_eq_some h).1 hkind) rfl
  simp [planTree, hnone]

theorem ValidPlan.planTree_ancestor (h : ValidPlan plans) (hplan : plan ∈ plans)
    (ha : a ∈ ancestors plan.path) : planTree plans a = some .directory := by
  unfold planTree
  cases hkind : plannedAt plans a with
  | some kind =>
    rw [h.above plan hplan a ha kind hkind]
    rfl
  | none => exact if_pos (.inr (mem_requiredDirectories.2 ⟨plan, hplan, .inr ha⟩))

theorem ValidPlan.inDirectories (h : ValidPlan plans) (hplan : plan ∈ plans) :
    InDirectories plans plan.path := by
  intro a ha hne
  by_cases hnil : a = []
  · rw [hnil]
    exact h.planTree_nil
  · exact h.planTree_ancestor hplan (mem_ancestors.2 ⟨ha, hnil, hne⟩)

theorem ValidPlan.planTree_of_mem (h : ValidPlan plans) (hplan : plan ∈ plans) :
    planTree plans plan.path = some plan.kind.entryKind := by
  have hplanned : plannedAt plans plan.path = some plan.kind := (plannedAt_eq_some h).2 hplan
  simp [planTree, hplanned]

theorem ValidPlan.planTree_symlink (h : ValidPlan plans) (p : Path) (target : String) :
    planTree plans p = some (.symlink target) ↔ ⟨p, .symlink target⟩ ∈ plans := by
  rw [← plannedAt_eq_some h, planTree]
  cases plannedAt plans p with
  | none =>
    simp only [reduceCtorEq, iff_false]
    split_ifs <;> simp
  | some kind => cases kind <;> simp [PlannedKind.entryKind]

theorem ValidPlan.required (h : ValidPlan plans) (hd : d ∈ requiredDirectories plans) :
    planTree plans d = some .directory ∧ InDirectories plans d ∧ d ≠ [] := by
  obtain ⟨plan, hplan, ⟨hkind, rfl⟩ | hancestor⟩ := mem_requiredDirectories.1 hd
  · refine ⟨?_, h.inDirectories hplan, h.nonempty plan hplan⟩
    rw [h.planTree_of_mem hplan, hkind]
    rfl
  · obtain ⟨hfront, hnil, hne⟩ := mem_ancestors.1 hancestor
    refine ⟨h.planTree_ancestor hplan hancestor, fun a ha hnot => ?_, hnil⟩
    refine h.inDirectories hplan a (ha.trans hfront) fun heq => hne ?_
    exact hfront.eq_of_length (le_antisymm hfront.length_le (heq ▸ ha.length_le))

/-! ### The extraction, step by step -/

/-- A state of the extraction: outside the destination nothing has changed, inside there are entries
of the plan only, each in its directory, and files have new inodes. -/
structure Extracting (fs₀ : Fs) (destination : Path) (plans : List PlannedEntry) (fs : Fs) :
    Prop where
  root : destination ≠ []
  above : ∀ q, q <+: destination → q ≠ [] →
    ∃ node, fs.entries q = some node ∧ node.kind = .directory
  outside : ∀ q, ¬ destination <+: q → fs.entries q = fs₀.entries q
  inside : ∀ p node, fs.entries (destination ++ p) = some node →
    planTree plans p = some node.kind
  files : ∀ p inode, fs.entries (destination ++ p) = some (.file inode) → fs₀.next ≤ inode
  parents : ∀ p node, p ≠ [] → fs.entries (destination ++ p) = some node →
    ∃ parent, fs.entries (destination ++ p.dropLast) = some parent ∧ parent.kind = .directory
  inodes : ∀ i < fs₀.next, fs.inodes i = fs₀.inodes i
  next : fs₀.next ≤ fs.next

def KeepsKinds (fs fs' : Fs) : Prop :=
  ∀ q node, fs.entries q = some node → ∃ node', fs'.entries q = some node' ∧ node'.kind = node.kind

theorem KeepsKinds.refl (fs : Fs) : KeepsKinds fs fs := fun _ node h => ⟨node, h, rfl⟩

theorem KeepsKinds.trans {fs fs' fs'' : Fs} (h : KeepsKinds fs fs') (h' : KeepsKinds fs' fs'') :
    KeepsKinds fs fs'' := by
  intro q node hnode
  obtain ⟨node', hnode', hkind⟩ := h q node hnode
  obtain ⟨node'', hnode'', hkind'⟩ := h' q node' hnode'
  exact ⟨node'', hnode'', hkind'.trans hkind⟩

/-- An entry with the kind that the plan has at the path. -/
def HasKind (fs : Fs) (destination : Path) (p : Path) (kind : Kind) : Prop :=
  ∃ node, fs.entries (destination ++ p) = some node ∧ node.kind = kind

theorem HasKind.keep {fs fs' : Fs} {destination : Path} {kind : Kind}
    (h : HasKind fs destination p kind) (hkeep : KeepsKinds fs fs') :
    HasKind fs' destination p kind := by
  obtain ⟨node, hnode, rfl⟩ := h
  exact hkeep _ node hnode

variable {fs₀ fs fs' : Fs} {destination : Path} {links : ℕ}

/-- The path of an entry of the plan has no links above it. -/
theorem Extracting.straight (h : Extracting fs₀ destination plans fs)
    (hdestination : fs₀.Straight destination) (hp : InDirectories plans p) :
    fs.Straight (destination ++ p) := by
  intro q hq hne node hnode
  by_cases hinside : destination <+: q
  · obtain ⟨a, rfl⟩ := hinside
    have hkind := h.inside a node hnode
    rw [hp a ((prefix_append_right_inj destination).1 hq) fun heq => hne (by rw [heq])] at hkind
    exact (Option.some.inj hkind).symm
  · rw [h.outside q hinside] at hnode
    have hshort : q <+: destination :=
      (List.prefix_or_prefix_of_prefix hq (prefix_append _ _)).resolve_right hinside
    exact hdestination q hshort (fun heq => hinside (heq ▸ prefix_rfl)) node hnode

/-- An entry of the plan is written where there is none or one of the same kind. -/
theorem Extracting.update (h : Extracting fs₀ destination plans fs)
    (hnode : planTree plans p = some node.kind)
    (hinode : ∀ inode, node = .file inode → fs₀.next ≤ inode)
    (hold : ∀ old, fs.entries (destination ++ p) = some old → old.kind = node.kind)
    (hparent : p ≠ [] → ∃ parent, fs.entries (destination ++ p.dropLast) = some parent ∧
      parent.kind = .directory) :
    Extracting fs₀ destination plans
        { fs with entries := Function.update fs.entries (destination ++ p) (some node) } ∧
      KeepsKinds fs
        { fs with entries := Function.update fs.entries (destination ++ p) (some node) } := by
  have hat : ∀ {r node'}, Function.update fs.entries (destination ++ p) (some node)
      (destination ++ r) = some node' → (r = p ∧ node' = node) ∨
        (r ≠ p ∧ fs.entries (destination ++ r) = some node') := by
    intro r node' hr
    by_cases heq : r = p
    · subst heq
      rw [update_self] at hr
      exact .inl ⟨rfl, (Option.some.inj hr).symm⟩
    · rw [update_of_ne (fun hsame => heq (append_cancel_left hsame))] at hr
      exact .inr ⟨heq, hr⟩
  have hkeep : KeepsKinds fs
      { fs with entries := Function.update fs.entries (destination ++ p) (some node) } := by
    intro q node' hnode'
    by_cases heq : q = destination ++ p
    · subst heq
      exact ⟨node, update_self .., (hold node' hnode').symm⟩
    · exact ⟨node', (update_of_ne heq _ _).trans hnode', rfl⟩
  have hstays : ∀ q kind, (∃ old, fs.entries q = some old ∧ old.kind = kind) →
      ∃ new, Function.update fs.entries (destination ++ p) (some node) q = some new ∧
        new.kind = kind := by
    rintro q kind ⟨old, hentry, rfl⟩
    exact hkeep q old hentry
  refine ⟨⟨h.root, fun q hq hne => hstays q _ (h.above q hq hne), ?_, ?_, ?_, ?_, h.inodes, h.next⟩,
    hkeep⟩
  · intro q hq
    have hne : q ≠ destination ++ p := fun heq => hq (heq ▸ prefix_append _ _)
    exact (update_of_ne hne _ _).trans (h.outside q hq)
  · intro r node' hr
    rcases hat hr with ⟨rfl, rfl⟩ | ⟨-, hentry⟩
    · exact hnode
    · exact h.inside r node' hentry
  · intro r inode hr
    rcases hat hr with ⟨rfl, heq⟩ | ⟨-, hentry⟩
    · exact hinode inode heq.symm
    · exact h.files r inode hentry
  · intro r node' hr' hr
    apply hstays
    rcases hat hr with ⟨rfl, rfl⟩ | ⟨-, hentry⟩
    · exact hparent hr'
    · exact h.parents r node' hr' hentry

theorem Extracting.insert (h : Extracting fs₀ destination plans fs)
    (hdestination : fs₀.Straight destination) (hp : InDirectories plans p) (hne : p ≠ [])
    (hnode : planTree plans p = some node.kind)
    (hinode : ∀ inode, node = .file inode → fs₀.next ≤ inode)
    (hinsert : fs.insert links (destination ++ p) node = .ok fs') :
    Extracting fs₀ destination plans fs' ∧ HasKind fs' destination p node.kind ∧
      KeepsKinds fs fs' := by
  obtain ⟨rfl, -, hnone, hdir⟩ := Fs.insert_of_straight (h.straight hdestination hp) hinsert
  have hparent : ∃ parent, fs.entries (destination ++ p.dropLast) = some parent ∧
      parent.kind = .directory := by
    rw [dropLast_append_of_ne_nil hne] at hdir
    have hplace : destination ++ p.dropLast ≠ [] := fun heq => h.root (append_eq_nil_iff.1 heq).1
    exact Fs.exists_of_isDirectoryAt hdir hplace
  obtain ⟨hnext, hkeep⟩ := h.update hnode hinode
    (fun old hold => by rw [hnone] at hold; cases hold) fun _ => hparent
  exact ⟨hnext, ⟨node, update_self .., rfl⟩, hkeep⟩

/-- A loop whose rounds keep a state of the extraction and establish what is kept with the kinds. -/
theorem Extracting.loop {ε α : Type} {f : Fs → α → Except ε Fs} {l : List α}
    {Q : α → Fs → Prop} (hkeep : ∀ a fs fs', Q a fs → KeepsKinds fs fs' → Q a fs')
    (hstep : ∀ a ∈ l, ∀ fs fs', Extracting fs₀ destination plans fs → f fs a = .ok fs' →
      Extracting fs₀ destination plans fs' ∧ Q a fs' ∧ KeepsKinds fs fs')
    (h : Extracting fs₀ destination plans fs) (hloop : l.foldlM f fs = .ok fs') :
    Extracting fs₀ destination plans fs' ∧ (∀ a ∈ l, Q a fs') ∧ KeepsKinds fs fs' := by
  obtain ⟨⟨hextracting, hkinds⟩, hall, -⟩ := foldlM_ok
    (P := fun s => Extracting fs₀ destination plans s ∧ KeepsKinds fs s) (Q := Q)
    (fun a ha s s' hs hround => by
      obtain ⟨hnext, hdone, hkinds⟩ := hstep a ha s s' hs.1 hround
      exact ⟨⟨hnext, hs.2.trans hkinds⟩, hdone, fun b hb => hkeep b s s' hb hkinds⟩)
    ⟨h, KeepsKinds.refl fs⟩ hloop
  exact ⟨hextracting, hall, hkinds⟩

section Steps

variable (h : Extracting fs₀ destination plans fs)
  (hdestination : fs₀.Straight destination)

include h hdestination

theorem Extracting.walk (hp : InDirectories plans p)
    (hplain : ∀ target, planTree plans p ≠ some (.symlink target)) {place : Path}
    (hwalk : (fs.walk links [] ((destination ++ p).map .normal)).result = .ok place) :
    place = destination ++ p := by
  refine Fs.walk_names [] (destination ++ p) (h.straight hdestination hp) ?_ hwalk
  rintro node hnode target rfl
  exact hplain target (h.inside p _ hnode)

theorem Extracting.hasKind_of_isDir (hp : InDirectories plans p)
    (hkind : planTree plans p = some .directory) (hdir : fs.isDir links (destination ++ p) = true) :
    HasKind fs destination p .directory := by
  unfold Fs.isDir at hdir
  cases hwalk : (fs.walk links [] ((destination ++ p).map .normal)).result with
  | error =>
    rw [hwalk] at hdir
    cases hdir
  | ok place =>
    have hplace := h.walk hdestination hp (fun target => by simp [hkind]) hwalk
    rw [hwalk] at hdir
    simp only at hdir
    have hne : place ≠ [] := fun heq => h.root (append_eq_nil_iff.1 (hplace ▸ heq)).1
    obtain ⟨node, hnode, hdirectory⟩ := Fs.exists_of_isDirectoryAt hdir hne
    exact ⟨node, hplace ▸ hnode, hdirectory⟩

/-- The directories of the plan; those above the destination are there already. -/
theorem Extracting.mkdirAll (hvalid : ValidPlan plans)
    (hd : d ∈ requiredDirectories plans) (hmkdir : fs.mkdirAll links (destination ++ d) = .ok fs') :
    Extracting fs₀ destination plans fs' ∧ HasKind fs' destination d .directory ∧
      KeepsKinds fs fs' := by
  obtain ⟨hkind, hin, hne⟩ := hvalid.required hd
  have hdir : ∀ a, a <+: d → planTree plans a = some .directory := by
    intro a ha
    by_cases heq : a = d
    · rw [heq]
      exact hkind
    · exact hin a ha heq
  have hin' : ∀ a, a <+: d → InDirectories plans a :=
    fun a ha b hb _ => hdir b (hb.trans ha)
  have hround : ∀ q ∈ (destination ++ d).inits, ∀ fs fs', Extracting fs₀ destination plans fs →
      (if fs.isDir links q = true then .ok fs else fs.mkdir links q) = .ok fs' →
      Extracting fs₀ destination plans fs' ∧
        (∀ a, q = destination ++ a → a ≠ [] → HasKind fs' destination a .directory) ∧
        KeepsKinds fs fs' := by
    intro q hq fs fs' hfs hround
    rw [mem_inits] at hq
    by_cases hinside : destination <+: q ∧ q ≠ destination
    · obtain ⟨⟨a, rfl⟩, hnot⟩ := hinside
      have ha := (prefix_append_right_inj destination).1 hq
      have hane : a ≠ [] := fun heq => hnot (by rw [heq, append_nil])
      split_ifs at hround with hisdir
      · cases hround
        refine ⟨hfs, ?_, KeepsKinds.refl fs⟩
        intro b hb _
        rw [← append_cancel_left hb]
        exact hfs.hasKind_of_isDir hdestination (hin' a ha) (hdir a ha) hisdir
      · have hnode : planTree plans a = some (FileSystem.Node.directory 0o755).kind := hdir a ha
        obtain ⟨hnext, hmade, hkeep⟩ := hfs.insert hdestination (hin' a ha) hane hnode
          (fun _ hfile => by cases hfile) hround
        exact ⟨hnext, fun b hb _ => append_cancel_left hb ▸ hmade, hkeep⟩
    · -- at or above the destination
      have hshort : q <+: destination := by
        rcases prefix_or_prefix_of_prefix hq (prefix_append destination d) with h | h
        · exact h
        · rw [not_and_not_right] at hinside
          exact hinside h ▸ prefix_rfl
      split_ifs at hround with hisdir
      · cases hround
        refine ⟨hfs, fun a ha hane => ?_, KeepsKinds.refl fs⟩
        rw [ha] at hshort
        have hle := hshort.length_le
        rw [length_append] at hle
        exact absurd (length_eq_zero_iff.1 (by omega)) hane
      · have hstraight : fs.Straight q := by
          have hroot := hfs.straight hdestination (hin' [] nil_prefix)
          rw [append_nil] at hroot
          intro r hr hne
          refine hroot r (hr.trans hshort) fun heq => hne ?_
          exact hr.eq_of_length (le_antisymm hr.length_le (heq ▸ hshort.length_le))
        obtain ⟨-, hqne, hnone, -⟩ := Fs.insert_of_straight hstraight hround
        obtain ⟨node, hnode, -⟩ := hfs.above q hshort hqne
        rw [hnone] at hnode
        cases hnode
  obtain ⟨hnext, hmade, hkeep⟩ := Extracting.loop
    (fun q fs fs' hq hkinds a ha hne => (hq a ha hne).keep hkinds) hround h hmkdir
  exact ⟨hnext, hmade _ ((mem_inits _ _).2 prefix_rfl) d rfl hne, hkeep⟩

theorem Extracting.chmod (hp : InDirectories plans p)
    (hplain : ∀ target, planTree plans p ≠ some (.symlink target)) {mode : ℕ}
    (hchmod : fs.chmod links (destination ++ p) mode = .ok fs') :
    Extracting fs₀ destination plans fs' ∧
      (∃ kind, planTree plans p = some kind ∧ HasKind fs' destination p kind) ∧
      KeepsKinds fs fs' := by
  unfold Fs.chmod at hchmod
  cases hwalk : (fs.walk links [] ((destination ++ p).map .normal)).result with
  | error =>
    rw [hwalk] at hchmod
    cases hchmod
  | ok =>
    have hplace := h.walk hdestination hp hplain hwalk
    subst hplace
    rw [hwalk] at hchmod
    simp only at hchmod
    cases hentry : fs.entries (destination ++ p) with
    | none =>
      rw [hentry] at hchmod
      cases hchmod
    | some node =>
      rw [hentry] at hchmod
      have hinside := h.inside p node hentry
      cases node with
      | symlink => cases hchmod
      | file inode =>
        cases hchmod
        refine ⟨⟨h.root, h.above, h.outside, h.inside, h.files, h.parents, ?_, h.next⟩,
          ⟨_, hinside, _, hentry, rfl⟩, fun q node hnode => ⟨node, hnode, rfl⟩⟩
        intro i hi
        have hne : i ≠ inode := by
          have hle := h.files p inode hentry
          omega
        exact (update_of_ne hne _ _).trans (h.inodes i hi)
      | directory =>
        cases hchmod
        have hmode : planTree plans p = some (FileSystem.Node.directory mode).kind := hinside
        obtain ⟨hnext, hkeep⟩ := h.update hmode
          (fun _ hfile => by cases hfile)
          (fun old' hold => by rw [hentry] at hold; cases hold; rfl)
          fun hne => h.parents p _ hne hentry
        exact ⟨hnext, ⟨_, hinside, .directory mode, update_self .., rfl⟩, hkeep⟩

theorem Extracting.createNew (hvalid : ValidPlan plans) (hplan : plan ∈ plans)
    (hkind : plan.kind.entryKind = .file) {content : List UInt8}
    (hcreate : fs.createNew links (destination ++ plan.path) content = .ok fs') :
    Extracting fs₀ destination plans fs' ∧ KeepsKinds fs fs' := by
  have hstart : Extracting fs₀ destination plans
      { fs with
        inodes := Function.update fs.inodes fs.next (some ⟨content, 0o644⟩)
        next := fs.next + 1 } := by
    refine ⟨h.root, h.above, h.outside, h.inside, h.files, h.parents, ?_, h.next.trans (Nat.le_succ _)⟩
    intro i hi
    have hne : i ≠ fs.next := (hi.trans_le h.next).ne
    exact (update_of_ne hne _ _).trans (h.inodes i hi)
  have hnode : planTree plans plan.path = some (FileSystem.Node.file fs.next).kind := by
    rw [hvalid.planTree_of_mem hplan, hkind]
    rfl
  obtain ⟨hnext, -, hkeep⟩ := hstart.insert hdestination (hvalid.inDirectories hplan)
    (hvalid.nonempty plan hplan) hnode (fun inode hinode => by cases hinode; exact h.next) hcreate
  exact ⟨hnext, hkeep⟩

theorem Extracting.link (hvalid : ValidPlan plans) (hplan : plan ∈ plans)
    {target : Path} (hkind : plan.kind = .hardlink target)
    (hlink : fs.link links (destination ++ target) (destination ++ plan.path) = .ok fs') :
    Extracting fs₀ destination plans fs' ∧ HasKind fs' destination plan.path .file ∧
      KeepsKinds fs fs' := by
  obtain ⟨kind, hplanned, hfile⟩ := hvalid.hardlinks plan hplan target hkind
  have htarget : ⟨target, kind⟩ ∈ plans := (plannedAt_eq_some hvalid).1 hplanned
  have hin : InDirectories plans target := hvalid.inDirectories htarget
  have htree : planTree plans target = some .file := by
    have hsource : planTree plans target = some kind.entryKind := hvalid.planTree_of_mem htarget
    rw [hsource]
    cases kind <;> first | rfl | cases hfile
  unfold Fs.link at hlink
  cases hlocate : fs.locate links (destination ++ target) with
  | error =>
    rw [hlocate] at hlink
    cases hlink
  | ok =>
    obtain ⟨rfl, -, -⟩ := Fs.locate_of_straight (h.straight hdestination hin) hlocate
    rw [hlocate] at hlink
    simp only at hlink
    cases hentry : fs.entries (destination ++ target) with
    | none =>
      rw [hentry] at hlink
      cases hlink
    | some node =>
      have hinside := h.inside target node hentry
      rw [htree] at hinside
      rw [hentry] at hlink
      cases node with
      | directory | symlink => cases hinside
      | file inode =>
        have hnode : planTree plans plan.path = some (FileSystem.Node.file inode).kind := by
          rw [hvalid.planTree_of_mem hplan, hkind]
          rfl
        exact h.insert hdestination (hvalid.inDirectories hplan) (hvalid.nonempty plan hplan) hnode
          (fun i hi => by cases hi; exact h.files target inode hentry) hlink

end Steps

/-! ### The whole extraction -/

variable {sha256 : List UInt8 → ℕ}

theorem Extracting.extractEntry {extraction extraction' : Extraction}
    {entry : Except String TarEntry} (h : Extracting fs₀ destination plans extraction.fs)
    (hdestination : fs₀.Straight destination) (hvalid : ValidPlan plans)
    (hentry : A3SCloud.extractEntry sha256 links destination plans extraction entry =
      .ok extraction') :
    Extracting fs₀ destination plans extraction'.fs ∧ KeepsKinds extraction.fs extraction'.fs := by
  simp only [A3SCloud.extractEntry, ok_rules] at hentry
  obtain ⟨entry, -, raw, -, hentry⟩ := hentry
  split_ifs at hentry
  · simp only [ok_rules] at hentry
    obtain ⟨-, rfl⟩ := hentry
    exact ⟨h, KeepsKinds.refl _⟩
  · simp only [ok_rules] at hentry
    obtain ⟨path, -, kind, hplanned, fs, hkind, rfl⟩ := hentry
    have hplan := (plannedAt_eq_some hvalid).1 hplanned
    cases kind with
    | directory | symlink | hardlink =>
      cases hkind
      exact ⟨h, KeepsKinds.refl _⟩
    | file =>
      simp only [extractKind, extractFile, ok_rules] at hkind
      obtain ⟨written, hcreate, content, -, -, -, rfl⟩ := hkind
      exact h.createNew hdestination hvalid hplan rfl hcreate

/-- The entries that the plan names are there, each with its kind. -/
def Complete (plans : List PlannedEntry) (destination : Path) (fs : Fs) : Prop :=
  (∀ d ∈ requiredDirectories plans, HasKind fs destination d .directory) ∧
    ∀ plan ∈ plans, plan.kind ≠ .directory → HasKind fs destination plan.path plan.kind.entryKind

theorem Extracting.tree_eq (h : Extracting fs₀ destination plans fs) (hvalid : ValidPlan plans)
    (hcomplete : Complete plans destination fs) : fs.tree destination = planTree plans := by
  funext p
  rw [Fs.tree]
  cases hentry : fs.entries (destination ++ p) with
  | some node => exact (h.inside p node hentry).symm
  | none =>
    have habsent : ∀ kind, ¬ HasKind fs destination p kind := by
      rintro kind ⟨node, hnode, -⟩
      rw [hentry] at hnode
      cases hnode
    rw [Option.map_none, planTree]
    cases hplanned : plannedAt plans p with
    | none =>
      refine (if_neg ?_).symm
      rintro (rfl | hrequired)
      · obtain ⟨node, hnode, -⟩ := h.above destination prefix_rfl h.root
        rw [append_nil, hnode] at hentry
        cases hentry
      · exact habsent _ (hcomplete.1 p hrequired)
    | some kind =>
      exfalso
      have hplan := (plannedAt_eq_some hvalid).1 hplanned
      by_cases hkind : kind = .directory
      · exact habsent _ (hcomplete.1 p (mem_requiredDirectories.2 ⟨_, hplan, .inl ⟨hkind, rfl⟩⟩))
      · exact habsent _ (hcomplete.2 _ hplan hkind)

/-- A loop over the plan that makes the entries of some kinds. -/
theorem Extracting.plansLoop {f : Fs → PlannedEntry → Except String Fs} (K : PlannedKind → Prop)
    (hstep : ∀ plan ∈ plans, ∀ fs fs', Extracting fs₀ destination plans fs →
      f fs plan = .ok fs' → Extracting fs₀ destination plans fs' ∧
        (K plan.kind → HasKind fs' destination plan.path plan.kind.entryKind) ∧ KeepsKinds fs fs')
    (h : Extracting fs₀ destination plans fs) (hloop : plans.foldlM f fs = .ok fs') :
    Extracting fs₀ destination plans fs' ∧
      (∀ plan ∈ plans, K plan.kind → HasKind fs' destination plan.path plan.kind.entryKind) ∧
      KeepsKinds fs fs' :=
  Extracting.loop (fun _ _ _ hplan hkinds hK => (hplan hK).keep hkinds) hstep h hloop

section Plans

variable (h : Extracting fs₀ destination plans fs)
  (hdestination : fs₀.Straight destination) (hvalid : ValidPlan plans)

include h hdestination hvalid

theorem Extracting.makeHardlink (hplan : plan ∈ plans)
    (hmake : A3SCloud.makeHardlink links destination fs plan = .ok fs') :
    Extracting fs₀ destination plans fs' ∧
      ((∃ target, plan.kind = .hardlink target) →
        HasKind fs' destination plan.path plan.kind.entryKind) ∧ KeepsKinds fs fs' := by
  cases hkind : plan.kind with
  | hardlink =>
    rw [A3SCloud.makeHardlink, hkind] at hmake
    obtain ⟨hnext, hdone, hkeep⟩ :=
      h.link hdestination hvalid hplan hkind (mapError_ok_iff.1 hmake)
    exact ⟨hnext, fun _ => hdone, hkeep⟩
  | directory | file | symlink =>
    rw [A3SCloud.makeHardlink, hkind] at hmake
    cases hmake
    exact ⟨h, by simp, KeepsKinds.refl fs⟩

theorem Extracting.makeSymlink (hplan : plan ∈ plans)
    (hmake : A3SCloud.makeSymlink links destination fs plan = .ok fs') :
    Extracting fs₀ destination plans fs' ∧
      ((∃ target, plan.kind = .symlink target) →
        HasKind fs' destination plan.path plan.kind.entryKind) ∧ KeepsKinds fs fs' := by
  cases hkind : plan.kind with
  | symlink target =>
    rw [A3SCloud.makeSymlink, hkind] at hmake
    have hnode : planTree plans plan.path = some (FileSystem.Node.symlink target).kind := by
      rw [hvalid.planTree_of_mem hplan, hkind]
      rfl
    obtain ⟨hnext, hdone, hkeep⟩ := h.insert hdestination (hvalid.inDirectories hplan)
      (hvalid.nonempty plan hplan) hnode (fun _ hfile => by cases hfile) (mapError_ok_iff.1 hmake)
    exact ⟨hnext, fun _ => hdone, hkeep⟩
  | directory | file | hardlink =>
    rw [A3SCloud.makeSymlink, hkind] at hmake
    cases hmake
    exact ⟨h, by simp, KeepsKinds.refl fs⟩

/-- The mode of a file can be set because the second reading has written it. -/
theorem Extracting.setReadOnlyMode (hplan : plan ∈ plans)
    (hset : A3SCloud.setReadOnlyMode links destination fs plan = .ok fs') :
    Extracting fs₀ destination plans fs' ∧
      (plan.kind.isFile = true → HasKind fs' destination plan.path plan.kind.entryKind) ∧
      KeepsKinds fs fs' := by
  have htree := hvalid.planTree_of_mem hplan
  cases hkind : plan.kind with
  | file =>
    rw [hkind] at htree
    rw [A3SCloud.setReadOnlyMode, hkind] at hset
    obtain ⟨hnext, ⟨kind, hplanned, hdone⟩, hkeep⟩ := h.chmod hdestination
      (hvalid.inDirectories hplan) (fun target => by simp [htree, PlannedKind.entryKind])
      (mapError_ok_iff.1 hset)
    rw [htree, Option.some.injEq] at hplanned
    exact ⟨hnext, fun _ => hplanned ▸ hdone, hkeep⟩
  | directory | symlink | hardlink =>
    rw [A3SCloud.setReadOnlyMode, hkind] at hset
    cases hset
    exact ⟨h, by simp [PlannedKind.isFile], KeepsKinds.refl fs⟩

theorem Extracting.extractPlans {rereading : TarReading}
    (hextract : A3SCloud.extractPlans sha256 links destination plans fs rereading = .ok fs') :
    Extracting fs₀ destination plans fs' ∧ fs'.tree destination = planTree plans := by
  simp only [A3SCloud.extractPlans, ok_rules] at hextract
  obtain ⟨fs₁, hdirectories, extraction, hfiles, -, fs₂, hhardlinks, fs₃, hsymlinks, fs₄, hmodes,
    hlast⟩ := hextract
  obtain ⟨h₁, hmade, -⟩ := Extracting.loop
    (Q := fun d fs => HasKind fs destination d .directory) (fun _ _ _ hd hkinds => hd.keep hkinds)
    (fun d hd fs fs' hfs hround =>
      hfs.mkdirAll hdestination hvalid hd (mapError_ok_iff.1 hround)) h hdirectories
  obtain ⟨⟨h₂, hkeep₂⟩, -, -⟩ := foldlM_ok
    (P := fun extraction : Extraction => Extracting fs₀ destination plans extraction.fs ∧
      KeepsKinds fs₁ extraction.fs) (Q := fun _ _ => True)
    (fun entry _ s s' hs hround => by
      obtain ⟨hnext, hkeep⟩ := hs.1.extractEntry hdestination hvalid hround
      exact ⟨⟨hnext, hs.2.trans hkeep⟩, trivial, fun _ _ => trivial⟩)
    ⟨h₁, KeepsKinds.refl fs₁⟩ hfiles
  obtain ⟨h₃, hlinked, hkeep₃⟩ := Extracting.plansLoop (∃ target, · = .hardlink target)
    (fun plan hplan _ _ hfs => hfs.makeHardlink hdestination hvalid hplan) h₂ hhardlinks
  obtain ⟨h₄, hsymlinked, hkeep₄⟩ := Extracting.plansLoop (∃ target, · = .symlink target)
    (fun plan hplan _ _ hfs => hfs.makeSymlink hdestination hvalid hplan) h₃ hsymlinks
  obtain ⟨h₅, hset, hkeep₅⟩ := Extracting.plansLoop (·.isFile = true)
    (fun plan hplan _ _ hfs => hfs.setReadOnlyMode hdestination hvalid hplan) h₄ hmodes
  obtain ⟨h₆, -, hkeep₆⟩ := Extracting.loop (Q := fun _ _ => True) (fun _ _ _ _ _ => trivial)
    (fun d hd fs fs' hfs hround => by
      obtain ⟨hkind, hin, -⟩ := hvalid.required ((mem_insertionSort _).1 hd)
      obtain ⟨hnext, -, hkeep⟩ := hfs.chmod hdestination hin (fun target => by simp [hkind])
        (mapError_ok_iff.1 hround)
      exact ⟨hnext, trivial, hkeep⟩) h₅ hlast
  refine ⟨h₆, h₆.tree_eq hvalid ⟨fun d hd => ?_, fun plan hplan hkind => ?_⟩⟩
  · exact (hmade d hd).keep ((((hkeep₂.trans hkeep₃).trans hkeep₄).trans hkeep₅).trans hkeep₆)
  · cases hentry : plan.kind with
    | directory => exact absurd hentry hkind
    | file =>
      exact hentry ▸ (hset plan hplan (by rw [hentry]; rfl)).keep hkeep₆
    | symlink target =>
      exact hentry ▸ (hsymlinked plan hplan ⟨target, hentry⟩).keep (hkeep₅.trans hkeep₆)
    | hardlink target =>
      exact hentry ▸ (hlinked plan hplan ⟨target, hentry⟩).keep
        ((hkeep₄.trans hkeep₅).trans hkeep₆)

end Plans

theorem prefix_dropLast_of_ne {q : Path} (h : q <+: p) (hne : q ≠ p) : q <+: p.dropLast := by
  rcases eq_nil_or_concat p with rfl | ⟨front, last, rfl⟩
  · exact absurd (prefix_nil.1 h) hne
  · rw [concat_eq_append] at h hne ⊢
    rw [dropLast_concat]
    exact (prefix_concat_iff.1 h).resolve_left hne

/-- The state after the destination has been made. -/
theorem extracting_start (hfs : fs₀.WellFormed) (hdestination : fs₀.Straight destination)
    (hvalid : ValidPlan plans) (hmkdir : fs₀.mkdir links destination = .ok fs) :
    Extracting fs₀ destination plans fs := by
  obtain ⟨rfl, hne, hnone, hdir⟩ := Fs.insert_of_straight hdestination hmkdir
  have hempty : ∀ p node, update fs₀.entries destination (some (.directory 0o755))
      (destination ++ p) = some node → p = [] ∧ node = .directory 0o755 := by
    intro p node hentry
    by_cases hp : p = []
    · subst hp
      rw [append_nil, update_self] at hentry
      exact ⟨rfl, (Option.some.inj hentry).symm⟩
    · have hnot : destination ++ p ≠ destination := fun heq => hp (append_right_eq_self.1 heq)
      rw [update_of_ne hnot] at hentry
      have hparent := (hfs.parents _ node hentry).2
      rw [dropLast_append_of_ne_nil hp] at hparent
      obtain ⟨old, hold, -⟩ := Fs.exists_of_isDirectoryAt
        (hfs.above hparent (prefix_append _ _)) hne
      rw [hnone] at hold
      cases hold
  refine ⟨hne, ?_, ?_, ?_, ?_, ?_, fun _ _ => rfl, le_rfl⟩
  · intro q hq hqne
    by_cases heq : q = destination
    · exact ⟨.directory 0o755, by rw [heq]; exact update_self .., rfl⟩
    · obtain ⟨node, hnode, hkind⟩ := Fs.exists_of_isDirectoryAt
        (hfs.above hdir (prefix_dropLast_of_ne hq heq)) hqne
      exact ⟨node, (update_of_ne heq _ _).trans hnode, hkind⟩
  · intro q hq
    exact update_of_ne (fun heq => hq (by rw [heq])) _ _
  · intro p node hentry
    obtain ⟨rfl, rfl⟩ := hempty p node hentry
    exact hvalid.planTree_nil
  · intro p inode hentry
    cases (hempty p _ hentry).2
  · intro p node hp hentry
    exact absurd (hempty p node hentry).1 hp

/-! ### The theorem -/

/-- An extraction that succeeds changes nothing outside its destination. No path of names that starts
in the destination leaves it if and only if the target of no symbolic link of the archive does,
resolved component by component through the entries of the archive. -/
theorem extracted_contained_iff {archiveIsFile : Bool} {reading rereading : TarReading}
    {limits : ArchiveLimits} {summary : ArchiveSummary} (hfs : fs₀.WellFormed)
    (hdestination : fs₀.Straight destination)
    (hplans : planArchive sha256 limits reading = .ok (plans, summary))
    (hextract : extractDirectoryArchive sha256 links archiveIsFile reading rereading destination
      limits fs₀ = .ok (summary, fs)) (n : ℕ) :
    (∀ q, ¬ destination <+: q → fs.entries q = fs₀.entries q) ∧
      (∀ inode < fs₀.next, fs.inodes inode = fs₀.inodes inode) ∧
      ((∀ names : List Name, ∀ q ∈ (fs.walk (n + 1) destination (names.map .normal)).places,
          destination <+: q) ↔
        ∀ plan ∈ plans, ∀ target, plan.kind = .symlink target →
          (planTree plans).resolve n plan.path.dropLast (components target) ≠ .escaped) := by
  simp only [extractDirectoryArchive, ok_rules, hplans, Except.ok.injEq, exists_eq_left',
    Prod.mk.injEq, true_and, exists_eq_right] at hextract
  obtain ⟨-, hvalidate, fs₁, hmkdir, hextract⟩ := hextract
  have hvalid := validPlan_of_checks (planArchive_nonempty hplans) hvalidate
  have hstart := extracting_start hfs hdestination hvalid hmkdir
  obtain ⟨hdone, htree⟩ := hstart.extractPlans hdestination hvalid hextract
  refine ⟨hdone.outside, hdone.inodes, ?_⟩
  have hstay : (∀ names : List Name, ∀ q ∈ (fs.walk (n + 1) destination (names.map .normal)).places,
      destination <+: q) ↔
        ∀ names : List Name, (planTree plans).resolve (n + 1) [] (names.map .normal) ≠ .escaped := by
    apply forall_congr'
    intro names
    have hiff := fs.leaves_iff hdone.root (n + 1) [] (names.map .normal)
    rw [append_nil, htree] at hiff
    rw [ne_eq, ← hiff, Fs.Leaves]
    simp only [not_exists, not_and, not_not]
  rw [hstay, Tree.names_stay_iff ?_]
  · constructor
    · intro h plan hplan target hkind
      apply h plan.path target
      rw [hvalid.planTree_of_mem hplan, hkind]
      rfl
    · intro h p target hlink
      exact h _ ((hvalid.planTree_symlink p target).1 hlink) target rfl
  · intro p target hlink
    have hplan := (hvalid.planTree_symlink p target).1 hlink
    have hne : p ≠ [] := hvalid.nonempty _ hplan
    refine ⟨hne, fun q _ hq => ?_⟩
    refine hvalid.inDirectories hplan q (hq.trans (List.dropLast_prefix p)) fun heq : q = p => ?_
    have hle := hq.length_le
    rw [heq, length_dropLast] at hle
    have hpos := length_pos_of_ne_nil hne
    omega

/-! ### Samples -/

namespace Sample

def tarDirectory (path : String) : Except String TarEntry :=
  .ok ⟨.ok (.text path), .directory, 0, .ok 0o755, .ok [], .ok none⟩

def tarFile (path : String) (content : List UInt8) : Except String TarEntry :=
  .ok ⟨.ok (.text path), .file, content.length, .ok 0o644, .ok content, .ok none⟩

def tarSymlink (path target : String) : Except String TarEntry :=
  .ok ⟨.ok (.text path), .symlink, 0, .ok 0o777, .ok [], .ok (some (.text target))⟩

def archiveLimits : ArchiveLimits := ⟨16, 1024, 4096⟩

/-- A file system with one directory. -/
def oneDirectory : Fs :=
  ⟨fun p => if p = ["srv"] then some (.directory 0o755) else none, fun _ => none, 0⟩

/-- A file and a link to its directory. -/
def plainArchive : TarReading := [tarDirectory ".", tarFile "a/b/f" [1, 2], tarSymlink "a/b/l" ".."]

/-- A second link that goes up after the first one. -/
def chainedArchive : TarReading := plainArchive ++ [tarSymlink "x" "a/b/l/../.."]

theorem oneDirectory_wellFormed : oneDirectory.WellFormed := by
  constructor
  · intro q node hentry
    by_cases hq : q = ["srv"]
    · subst hq
      exact ⟨cons_ne_nil _ _, rfl⟩
    · simp [oneDirectory, hq] at hentry
  · intro q inode hentry
    by_cases hq : q = ["srv"]
    · simp [oneDirectory, hq] at hentry
    · simp [oneDirectory, hq] at hentry

theorem oneDirectory_straight : oneDirectory.Straight ["srv", "out"] := by
  intro q _ _ node hentry
  by_cases hq : q = ["srv"]
  · simp only [oneDirectory, hq, if_true, Option.some.injEq] at hentry
    rw [← hentry]
    rfl
  · simp [oneDirectory, hq] at hentry

/-- The sizes of the files stand for their digests. -/
def extractSample (archive : TarReading) : Except String (ArchiveSummary × Fs) :=
  extractDirectoryArchive length 40 true archive archive ["srv", "out"] archiveLimits
    oneDirectory

/-- The plan of the archive with one link. -/
def plainPlan : List PlannedEntry :=
  [⟨["a", "b", "f"], .file false 2 2⟩, ⟨["a", "b", "l"], .symlink ".."⟩]

theorem plainArchive_planned :
    planArchive length archiveLimits plainArchive = .ok (plainPlan, ⟨2, 2⟩) ∧
      ((extractSample plainArchive).map (·.1)) = .ok ⟨2, 2⟩ ∧
      (planTree plainPlan).resolve 39 ["a", "b"] (components "..") ≠ .escaped := by
  decide +kernel

end Sample

open Sample

/-- The archive with one link is contained. -/
theorem extracted_contained_iff_plain :
    ∃ fs, extractSample plainArchive = .ok (⟨2, 2⟩, fs) ∧
      ∀ names : List Name, ∀ q ∈ (fs.walk 40 ["srv", "out"] (names.map .normal)).places,
        ["srv", "out"] <+: q := by
  obtain ⟨hplan, hextract, hstays⟩ := plainArchive_planned
  cases hresult : extractSample plainArchive with
  | error =>
    rw [hresult] at hextract
    cases hextract
  | ok result =>
    obtain ⟨summary, fs⟩ := result
    rw [hresult] at hextract
    cases hextract
    refine ⟨fs, rfl, (extracted_contained_iff oneDirectory_wellFormed
      oneDirectory_straight hplan hresult 39).2.2.2 fun plan hmem target hkind => ?_⟩
    rcases mem_pair.1 hmem with rfl | rfl
    · cases hkind
    · cases hkind
      exact hstays

/-- Each of the two links passes the check, and the name of the second one leads to the directory
above the destination. -/
theorem link_through_link_leaves :
    oneDirectory.WellFormed ∧ oneDirectory.Straight ["srv", "out"] ∧
      ((extractSample chainedArchive).map fun result =>
        (result.1, (result.2.walk 40 ["srv", "out"] [.normal "x"]).result)) =
          .ok (⟨3, 2⟩, .ok ["srv"]) :=
  ⟨oneDirectory_wellFormed, oneDirectory_straight, by decide +kernel⟩

end A3SCloud
