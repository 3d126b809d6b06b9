import Mathlib.Data.List.Basic
import Mathlib.Data.List.Infix
import Mathlib.Logic.Function.Basic
import Mathlib.Tactic.Common

/-!
# A file system with symbolic links

Paths are lists of names from the root. `Fs` maps them to directories, regular files (by inode) and
symbolic links. `Fs.walk` resolves a list of components the way a kernel does: component by component,
a link is replaced by the components of its target, `..` is taken at the place reached so far, and at
most a given number of links is followed. It also returns the places it has passed.

* `Tree.resolve` does the same below a directory and says `escaped` where the walk leaves it;
  `Fs.leaves_iff` connects the two.
* `Tree.names_stay_iff`: no path of names leaves a tree if and only if the target of no link does,
  resolved from the directory of the link.
* `Fs.mkdir`, `Fs.mkdirAll`, `Fs.createNew`, `Fs.link`, `Fs.symlink` and `Fs.chmod` are the
  operations. On a path without links above its last name they change that path
  (`Fs.locate_of_straight`).
-/

namespace FileSystem

open List

abbrev Name := String

/-- An absolute path, from the root. -/
abbrev Path := List Name

inductive Component
  | rootDir
  | curDir
  | parentDir
  | normal (name : Name)
  deriving DecidableEq

/-! ### Components of a text -/

/-- The pieces between the slashes. -/
def splitSlash : List Char → List (List Char)
  | [] => [[]]
  | c :: rest =>
    if c = '/' then [] :: splitSlash rest
    else match splitSlash rest with
      | [] => [[c]]
      | piece :: pieces => (c :: piece) :: pieces

/-- The component of a piece; empty pieces and `.` are none. -/
def component? (piece : List Char) : Option Component :=
  if piece = [] ∨ piece = ['.'] then none
  else if piece = ['.', '.'] then some .parentDir
  else some (.normal (String.ofList piece))

/-- The components of a path; a `.` counts only at its beginning. -/
def components (text : String) : List Component :=
  let pieces := splitSlash text.toList
  let first : List Component := match pieces with
    | [] :: _ :: _ => [.rootDir]
    | ['.'] :: _ => [.curDir]
    | _ => []
  first ++ pieces.filterMap component?

/-! ### Trees -/

inductive Kind
  | directory
  | file
  | symlink (target : String)
  deriving DecidableEq

/-- What stands at each path below a directory. -/
abbrev Tree := Path → Option Kind

/-- How a resolution below a directory ends: it leaves the directory, fails, reaches a file, or
reaches a directory with some links left. -/
inductive Outcome
  | escaped
  | stopped
  | reachedFile
  | reached (place : Path) (links : ℕ)
  deriving DecidableEq

namespace Tree

/-- The walk between two links. -/
def resolveWith (tree : Tree) (follow : Path → List Component → Outcome) (links : ℕ) :
    Path → List Component → Outcome
  | place, [] => .reached place links
  | place, .curDir :: rest => resolveWith tree follow links place rest
  | _, .rootDir :: _ => .escaped
  | place, .parentDir :: rest =>
    if place = [] then .escaped else resolveWith tree follow links place.dropLast rest
  | place, .normal name :: rest =>
    match tree (place ++ [name]) with
    | none => .stopped
    | some .directory => resolveWith tree follow links (place ++ [name]) rest
    | some .file => if rest = [] then .reachedFile else .stopped
    | some (.symlink target) => follow place (components target ++ rest)

/-- The walk with a number of links that it may follow. -/
def resolve (tree : Tree) : ℕ → Path → List Component → Outcome
  | 0 => resolveWith tree (fun _ _ => .stopped) 0
  | links + 1 => resolveWith tree (resolve tree links) (links + 1)

/-- What a link does with the links that are left. -/
def follow (tree : Tree) : ℕ → Path → List Component → Outcome
  | 0 => fun _ _ => .stopped
  | links + 1 => resolve tree links

variable {tree : Tree} {links : ℕ} {place : Path} {rest : List Component}

theorem resolve_eq (links : ℕ) :
    tree.resolve links = tree.resolveWith (tree.follow links) links := by
  cases links <;> rfl

@[simp] theorem resolve_nil : tree.resolve links place [] = .reached place links := by
  rw [resolve_eq]
  rfl

@[simp] theorem resolve_curDir :
    tree.resolve links place (.curDir :: rest) = tree.resolve links place rest := by
  rw [resolve_eq]
  rfl

@[simp] theorem resolve_rootDir : tree.resolve links place (.rootDir :: rest) = .escaped := by
  rw [resolve_eq]
  rfl

theorem resolve_parentDir : tree.resolve links place (.parentDir :: rest) =
    if place = [] then .escaped else tree.resolve links place.dropLast rest := by
  rw [resolve_eq]
  rfl

theorem resolve_normal (name : Name) : tree.resolve links place (.normal name :: rest) =
    match tree (place ++ [name]) with
    | none => .stopped
    | some .directory => tree.resolve links (place ++ [name]) rest
    | some .file => if rest = [] then .reachedFile else .stopped
    | some (.symlink target) => tree.follow links place (components target ++ rest) := by
  rw [resolve_eq]
  rfl

/-- How a walk goes on after its first part. -/
def Outcome.continue (tree : Tree) (rest : List Component) : Outcome → Outcome
  | .escaped => .escaped
  | .stopped => .stopped
  | .reachedFile => if rest = [] then .reachedFile else .stopped
  | .reached place links => tree.resolve links place rest

theorem resolve_append (links : ℕ) (place : Path) (first rest : List Component) :
    tree.resolve links place (first ++ rest) =
      Outcome.continue tree rest (tree.resolve links place first) := by
  induction links using Nat.strong_induction_on generalizing place first with
  | _ links ih =>
    induction first generalizing place with
    | nil => rw [resolve_nil, nil_append, Outcome.continue]
    | cons c first ihc =>
      rw [cons_append]
      cases c with
      | rootDir => simp [Outcome.continue]
      | curDir => rw [resolve_curDir, resolve_curDir, ihc]
      | parentDir =>
        rw [resolve_parentDir, resolve_parentDir]
        split_ifs
        · rfl
        · exact ihc _
      | normal name =>
        rw [resolve_normal, resolve_normal]
        cases tree (place ++ [name]) with
        | none => rfl
        | some kind =>
          cases kind with
          | directory => exact ihc _
          | file =>
            rcases first with _ | ⟨c, first⟩
            · simp [Outcome.continue]
            · simp [Outcome.continue]
          | symlink target =>
            cases links with
            | zero => rfl
            | succ links =>
              change tree.resolve links place (components target ++ (first ++ rest)) =
                Outcome.continue tree rest
                  (tree.resolve links place (components target ++ first))
              rw [← append_assoc]
              exact ih links (Nat.lt_succ_self _) place _

variable {k : ℕ} {cs : List Component}

/-- More links do not undo an escape. -/
theorem escaped_mono (hle : k ≤ links) (h : tree.resolve k place cs = .escaped) :
    tree.resolve links place cs = .escaped := by
  induction k using Nat.strong_induction_on generalizing links place cs with
  | _ k ih =>
    induction cs generalizing place with
    | nil => simp at h
    | cons c cs ihc =>
      cases c with
      | rootDir => exact resolve_rootDir
      | curDir =>
        rw [resolve_curDir] at h ⊢
        exact ihc h
      | parentDir =>
        rw [resolve_parentDir] at h ⊢
        split_ifs at h ⊢ with hplace
        · rfl
        · exact ihc h
      | normal name =>
        rw [resolve_normal] at h ⊢
        cases hkind : tree (place ++ [name]) with
        | none => simp [hkind] at h
        | some kind =>
          rw [hkind] at h
          cases kind with
          | directory => exact ihc h
          | file =>
            simp only at h
            split_ifs at h
          | symlink =>
            cases k with
            | zero => cases h
            | succ k =>
              obtain ⟨links, rfl⟩ := Nat.exists_eq_add_of_lt (Nat.lt_of_lt_of_le k.lt_succ_self hle)
              exact ih k k.lt_succ_self (by omega) h

/-- A walk does not gain links. -/
theorem reached_links_le {place' : Path} (h : tree.resolve links place cs = .reached place' k) :
    k ≤ links := by
  induction links using Nat.strong_induction_on generalizing place cs with
  | _ links ih =>
    induction cs generalizing place with
    | nil =>
      rw [resolve_nil, Outcome.reached.injEq] at h
      exact h.2.ge
    | cons c cs ihc =>
      cases c with
      | rootDir => simp at h
      | curDir => exact ihc (resolve_curDir ▸ h)
      | parentDir =>
        rw [resolve_parentDir] at h
        split_ifs at h
        exact ihc h
      | normal name =>
        rw [resolve_normal] at h
        cases hkind : tree (place ++ [name]) with
        | none => simp [hkind] at h
        | some kind =>
          rw [hkind] at h
          cases kind with
          | directory => exact ihc h
          | file =>
            simp only at h
            split_ifs at h
          | symlink =>
            cases links with
            | zero => cases h
            | succ links => exact (ih links links.lt_succ_self h).trans links.le_succ

/-- The target of every link stays below the root, resolved from the directory of the link. -/
def LinksStay (tree : Tree) (links : ℕ) : Prop :=
  ∀ p target, tree p = some (.symlink target) →
    tree.resolve links p.dropLast (components target) ≠ .escaped

/-- If the targets of the links stay, all paths of names stay. -/
theorem LinksStay.names (h : tree.LinksStay links) {m : ℕ} (hm : m ≤ links + 1) (place : Path)
    (names : List Name) : tree.resolve m place (names.map .normal) ≠ .escaped := by
  induction m using Nat.strong_induction_on generalizing place names with
  | _ m ih =>
    induction names generalizing place with
    | nil => simp
    | cons name names ihn =>
      rw [map_cons, resolve_normal]
      cases hkind : tree (place ++ [name]) with
      | none => simp
      | some kind =>
        cases kind with
        | directory => exact ihn _
        | file =>
          simp only
          split_ifs <;> simp
        | symlink target =>
          cases m with
          | zero => exact Outcome.noConfusion
          | succ m =>
            -- the target first, then the names from the place that it has reached
            change tree.resolve m place (components target ++ names.map .normal) ≠ .escaped
            rw [resolve_append]
            cases houtcome : tree.resolve m place (components target) with
            | escaped =>
              have hlink := h _ _ hkind
              rw [dropLast_concat] at hlink
              exact absurd (escaped_mono (Nat.le_of_succ_le_succ hm) houtcome) hlink
            | stopped => exact Outcome.noConfusion
            | reachedFile =>
              simp only [Outcome.continue]
              split_ifs <;> exact Outcome.noConfusion
            | reached place' k =>
              have hk := reached_links_le houtcome
              exact ih k (by omega) (by omega) place' names

/-- Names of directories lead to the directory. -/
theorem resolve_directories (front place : Path)
    (h : ∀ q, q ≠ [] → q <+: place → tree (front ++ q) = some .directory) :
    tree.resolve links front (place.map .normal ++ rest) = tree.resolve links (front ++ place) rest := by
  induction place generalizing front with
  | nil => simp
  | cons name place ih =>
    have hname := h [name] (cons_ne_nil _ _) (cons_prefix_cons.2 ⟨rfl, nil_prefix⟩)
    rw [map_cons, cons_append, resolve_normal, hname]
    refine (ih (front ++ [name]) ?_).trans (by rw [append_assoc, singleton_append])
    intro q hq hfront
    rw [append_assoc, singleton_append]
    exact h _ (cons_ne_nil _ _) (cons_prefix_cons.2 ⟨rfl, hfront⟩)

/-- In a tree whose links stand in directories: no path of names leaves it if and only if the target
of no link does. -/
theorem names_stay_iff (hdirs : ∀ p target, tree p = some (.symlink target) →
      p ≠ [] ∧ ∀ q, q ≠ [] → q <+: p.dropLast → tree q = some .directory) :
    (∀ names : List Name, tree.resolve (links + 1) [] (names.map .normal) ≠ .escaped) ↔
      tree.LinksStay links := by
  constructor
  · intro h p target hlink hescaped
    obtain ⟨hne, hdir⟩ := hdirs p target hlink
    apply h p
    rw [← dropLast_append_getLast hne] at hlink ⊢
    rw [map_append, resolve_directories [] _ (by simpa using hdir), nil_append,
      map_singleton, resolve_normal, hlink]
    change tree.resolve links p.dropLast (components target ++ []) = .escaped
    rw [append_nil]
    exact hescaped
  · intro h names
    exact h.names le_rfl [] names

end Tree

/-! ### The file system -/

inductive Node
  | directory (mode : ℕ)
  | file (inode : ℕ)
  | symlink (target : String)
  deriving DecidableEq

def Node.kind : Node → Kind
  | directory _ => .directory
  | file _ => .file
  | symlink target => .symlink target

structure Inode where
  content : List UInt8
  mode : ℕ
  deriving DecidableEq

/-- The entries by path and the regular files by inode; `next` is the first free inode. The root
itself has no entry. -/
structure Fs where
  entries : Path → Option Node
  inodes : ℕ → Option Inode
  next : ℕ

inductive FsError
  | notFound
  | notADirectory
  | alreadyExists
  | tooManyLinks
  | notAFile
  | isRoot
  deriving DecidableEq

def FsError.text : FsError → String
  | notFound => "No such file or directory (os error 2)"
  | notADirectory => "Not a directory (os error 20)"
  | alreadyExists => "File exists (os error 17)"
  | tooManyLinks => "Too many levels of symbolic links (os error 40)"
  | notAFile => "Operation not permitted (os error 1)"
  | isRoot => "Is a directory (os error 21)"

/-- The places that a resolution has passed, and how it ended. -/
structure Walk where
  places : List Path
  result : Except FsError Path

def Walk.visit (place : Path) (walk : Walk) : Walk := { walk with places := place :: walk.places }

namespace Fs

/-- The walk between two links. -/
def walkWith (fs : Fs) (follow : Path → List Component → Walk) : Path → List Component → Walk
  | place, [] => ⟨[place], .ok place⟩
  | place, .curDir :: rest => walkWith fs follow place rest
  | place, .rootDir :: rest => (walkWith fs follow [] rest).visit place
  | place, .parentDir :: rest => (walkWith fs follow place.dropLast rest).visit place
  | place, .normal name :: rest =>
    match fs.entries (place ++ [name]) with
    | none => ⟨[place], .error .notFound⟩
    | some (.directory _) => (walkWith fs follow (place ++ [name]) rest).visit place
    | some (.file _) =>
      if rest = [] then ⟨[place, place ++ [name]], .ok (place ++ [name])⟩
      else ⟨[place], .error .notADirectory⟩
    | some (.symlink target) => (follow place (components target ++ rest)).visit place

/-- The walk with a number of links that it may follow. -/
def walk (fs : Fs) : ℕ → Path → List Component → Walk
  | 0 => walkWith fs fun place _ => ⟨[place], .error .tooManyLinks⟩
  | links + 1 => walkWith fs (walk fs links)

def follow (fs : Fs) : ℕ → Path → List Component → Walk
  | 0 => fun place _ => ⟨[place], .error .tooManyLinks⟩
  | links + 1 => fs.walk links

theorem walk_eq (fs : Fs) (links : ℕ) : fs.walk links = fs.walkWith (fs.follow links) := by
  cases links <;> rfl

/-- The tree below a directory. -/
def tree (fs : Fs) (root : Path) : Tree := fun p => (fs.entries (root ++ p)).map Node.kind

/-- A walk passes a place outside a directory. -/
def Leaves (root : Path) (walk : Walk) : Prop := ∃ q ∈ walk.places, ¬ root <+: q

variable {root place p path : Path} {fs : Fs} {links : ℕ}

theorem leaves_visit {walk : Walk} (h : root <+: place) :
    Leaves root (walk.visit place) ↔ Leaves root walk := by
  simp only [Leaves, Walk.visit, mem_cons]
  constructor
  · rintro ⟨q, rfl | hq, hout⟩
    · exact absurd h hout
    · exact ⟨q, hq, hout⟩
  · rintro ⟨q, hq, hout⟩
    exact ⟨q, .inr hq, hout⟩

/-- A walk starts where it is. -/
theorem mem_places (fs : Fs) (links : ℕ) (place : Path) (cs : List Component) :
    place ∈ (fs.walk links place cs).places := by
  rw [walk_eq]
  induction cs with
  | nil => exact mem_singleton_self _
  | cons c cs ih =>
    cases c with
    | curDir => exact ih
    | rootDir | parentDir => exact mem_cons_self
    | normal =>
      unfold walkWith
      split
      · exact mem_singleton_self _
      · exact mem_cons_self
      · split_ifs
        · exact mem_cons_self
        · exact mem_singleton_self _
      · exact mem_cons_self

/-- A walk that starts below a directory leaves it if and only if the resolution in its tree
escapes. -/
theorem leaves_iff (fs : Fs) (hroot : root ≠ []) (links : ℕ) (p : Path) (cs : List Component) :
    Leaves root (fs.walk links (root ++ p) cs) ↔
      (fs.tree root).resolve links p cs = .escaped := by
  have hinside : ∀ q, root <+: root ++ q := fun q => prefix_append root q
  have hout : ∀ {q : Path}, q.length < root.length → ¬ root <+: q :=
    fun hlt h => absurd h.length_le (not_le.2 hlt)
  have hpos := length_pos_of_ne_nil hroot
  induction links using Nat.strong_induction_on generalizing p cs with
  | _ links ih =>
    induction cs generalizing p with
    | nil => simp [walk_eq, walkWith, Leaves]
    | cons c cs ihc =>
      cases c with
      | curDir =>
        have hwalk : fs.walk links (root ++ p) (.curDir :: cs) = fs.walk links (root ++ p) cs := by
          rw [walk_eq]
          rfl
        rw [Tree.resolve_curDir, hwalk]
        exact ihc p
      | rootDir =>
        rw [Tree.resolve_rootDir]
        refine ⟨fun _ => rfl, fun _ => ⟨[], ?_, hout (by simpa using hpos)⟩⟩
        have hmem := fs.mem_places links [] cs
        rw [walk_eq] at hmem ⊢
        exact mem_cons_of_mem _ hmem
      | parentDir =>
        rw [Tree.resolve_parentDir]
        have hwalk : fs.walk links (root ++ p) (.parentDir :: cs) =
            (fs.walk links (root ++ p).dropLast cs).visit (root ++ p) := by
          rw [walk_eq]
          rfl
        rw [hwalk, leaves_visit (hinside p)]
        split_ifs with hp
        · subst hp
          refine ⟨fun _ => rfl, fun _ => ⟨root.dropLast, ?_, hout ?_⟩⟩
          · rw [append_nil]
            exact fs.mem_places _ _ _
          · rw [length_dropLast]
            omega
        · rw [dropLast_append_of_ne_nil hp]
          exact ihc _
      | normal name =>
        rw [Tree.resolve_normal, walk_eq]
        unfold walkWith
        rw [append_assoc, Fs.tree]
        cases hentry : fs.entries (root ++ (p ++ [name])) with
        | none => simp [Leaves, hinside]
        | some node =>
          cases node with
          | directory =>
            simp only [Option.map_some, Node.kind]
            rw [leaves_visit (hinside p), ← walk_eq]
            exact ihc _
          | file =>
            simp only [Option.map_some, Node.kind]
            split_ifs
            · simp [Leaves, hinside]
            · simp [Leaves, hinside]
          | symlink =>
            simp only [Option.map_some, Node.kind]
            rw [leaves_visit (hinside p)]
            cases links with
            | zero => simp [follow, Tree.follow, Leaves, hinside]
            | succ links => exact ih links links.lt_succ_self p _

/-! ### Operations -/

/-- The place is the root or a directory. -/
def isDirectoryAt (fs : Fs) (place : Path) : Bool :=
  place = [] || (fs.entries place).any fun node => node.kind = .directory

/-- The entry that an operation on a path acts on: links above the last name are followed. -/
def locate (fs : Fs) (links : ℕ) (path : Path) : Except FsError Path :=
  match path.getLast? with
  | none => .error .isRoot
  | some name =>
    match (fs.walk links [] (path.dropLast.map .normal)).result with
    | .error error => .error error
    | .ok place => if fs.isDirectoryAt place then .ok (place ++ [name]) else .error .notADirectory

/-- A new entry where there is none. -/
def insert (fs : Fs) (links : ℕ) (path : Path) (node : Node) : Except FsError Fs :=
  match fs.locate links path with
  | .error error => .error error
  | .ok place =>
    if (fs.entries place).isSome then .error .alreadyExists
    else .ok { fs with entries := Function.update fs.entries place (some node) }

def mkdir (fs : Fs) (links : ℕ) (path : Path) : Except FsError Fs :=
  fs.insert links path (.directory 0o755)

def isDir (fs : Fs) (links : ℕ) (path : Path) : Bool :=
  match (fs.walk links [] (path.map .normal)).result with
  | .error _ => false
  | .ok place => fs.isDirectoryAt place

def pathExists (fs : Fs) (links : ℕ) (path : Path) : Bool :=
  (fs.walk links [] (path.map .normal)).result.toBool

/-- Makes the directories of a path that are missing. -/
def mkdirAll (fs : Fs) (links : ℕ) (path : Path) : Except FsError Fs :=
  path.inits.foldlM (fun fs q => if fs.isDir links q then .ok fs else fs.mkdir links q) fs

/-- A new regular file. -/
def createNew (fs : Fs) (links : ℕ) (path : Path) (content : List UInt8) : Except FsError Fs :=
  { fs with
    inodes := Function.update fs.inodes fs.next (some ⟨content, 0o644⟩)
    next := fs.next + 1 }.insert links path (.file fs.next)

/-- A second name of a regular file or a link. -/
def link (fs : Fs) (links : ℕ) (source path : Path) : Except FsError Fs :=
  match fs.locate links source with
  | .error error => .error error
  | .ok place =>
    match fs.entries place with
    | none => .error .notFound
    | some (.directory _) => .error .notAFile
    | some node => fs.insert links path node

def symlink (fs : Fs) (links : ℕ) (target : String) (path : Path) : Except FsError Fs :=
  fs.insert links path (.symlink target)

/-- Sets the mode of what the path leads to. -/
def chmod (fs : Fs) (links : ℕ) (path : Path) (mode : ℕ) : Except FsError Fs :=
  match (fs.walk links [] (path.map .normal)).result with
  | .error error => .error error
  | .ok place =>
    match fs.entries place with
    | none => .error .isRoot
    | some (.directory _) =>
      .ok { fs with entries := Function.update fs.entries place (some (.directory mode)) }
    | some (.file inode) =>
      .ok { fs with
        inodes := Function.update fs.inodes inode
          ((fs.inodes inode).map fun data => { data with mode }) }
    | some (.symlink _) => .error .notFound

/-- Every entry stands in a directory, and the inodes in use are below the free ones. -/
structure WellFormed (fs : Fs) : Prop where
  parents : ∀ q node, fs.entries q = some node → q ≠ [] ∧ fs.isDirectoryAt q.dropLast = true
  inodes : ∀ q inode, fs.entries q = some (.file inode) → inode < fs.next

/-- Above a directory there are directories. -/
theorem WellFormed.above (h : fs.WellFormed) {q : Path} (hp : fs.isDirectoryAt p = true)
    (hq : q <+: p) : fs.isDirectoryAt q = true := by
  induction p using reverseRecOn with
  | nil => rw [prefix_nil.1 hq]; rfl
  | append_singleton p name ih =>
    rcases prefix_concat_iff.1 hq with rfl | hq
    · exact hp
    · refine ih ?_ hq
      simp only [isDirectoryAt, append_eq_nil_iff, cons_ne_self, and_false, decide_false,
        Bool.false_or, Option.any_eq_true] at hp
      obtain ⟨node, hnode, -⟩ := hp
      have hparent := (h.parents _ node hnode).2
      rwa [dropLast_concat] at hparent

theorem exists_of_isDirectoryAt (h : fs.isDirectoryAt p = true) (hne : p ≠ []) :
    ∃ node, fs.entries p = some node ∧ node.kind = .directory := by
  simp only [isDirectoryAt, hne, decide_false, Bool.false_or, Option.any_eq_true,
    decide_eq_true_eq] at h
  exact h

/-- No file and no link stands above the last name of the path. -/
def Straight (fs : Fs) (path : Path) : Prop :=
  ∀ q, q <+: path → q ≠ path → ∀ node, fs.entries q = some node → node.kind = .directory

/-- Names through directories end where they point. -/
theorem walk_names (front path : Path) (hstraight : fs.Straight (front ++ path))
    (hlast : ∀ node, fs.entries (front ++ path) = some node → ∀ target, node ≠ .symlink target)
    (h : (fs.walk links front (path.map .normal)).result = .ok place) : place = front ++ path := by
  induction path generalizing front with
  | nil =>
    rw [walk_eq] at h
    cases h
    exact (append_nil _).symm
  | cons name path ih =>
    have hassoc : front ++ name :: path = front ++ [name] ++ path := by simp
    rw [map_cons, walk_eq] at h
    unfold walkWith at h
    cases hentry : fs.entries (front ++ [name]) with
    | none =>
      rw [hentry] at h
      cases h
    | some node =>
      rw [hentry] at h
      cases node with
      | directory =>
        rw [hassoc] at hstraight hlast ⊢
        apply ih _ hstraight hlast
        rw [walk_eq]
        exact h
      | file =>
        simp only at h
        split_ifs at h with hrest
        · cases h
          rw [map_eq_nil_iff] at hrest
          rw [hrest]
      | symlink target =>
        -- a link can neither be the last entry nor stand above it
        by_cases hpath : path = []
        · subst hpath
          exact absurd rfl (hlast _ hentry target)
        · have hdir := hstraight (front ++ [name]) (hassoc ▸ prefix_append _ _) (by
            intro heq
            rw [hassoc] at heq
            exact hpath (append_cancel_left (heq.symm.trans (append_nil _).symm)))
            _ hentry
          cases hdir

theorem straight_dropLast (h : fs.Straight path) (hne : path ≠ []) :
    fs.Straight path.dropLast ∧
      ∀ node, fs.entries path.dropLast = some node → ∀ target, node ≠ .symlink target := by
  have hfront := dropLast_prefix path
  have hlt : path.dropLast.length < path.length := by
    rw [length_dropLast]
    exact Nat.sub_lt (length_pos_of_ne_nil hne) Nat.one_pos
  constructor
  · intro q hq _ node hnode
    refine h q (hq.trans hfront) (fun heq => ?_) node hnode
    rw [heq] at hq
    exact absurd hq.length_le (not_le.2 hlt)
  · rintro node hnode target rfl
    have hdir := h _ hfront (fun heq => by rw [heq] at hlt; exact lt_irrefl _ hlt) _ hnode
    cases hdir

theorem locate_of_straight (hstraight : fs.Straight path) (h : fs.locate links path = .ok place) :
    place = path ∧ path ≠ [] ∧ fs.isDirectoryAt path.dropLast = true := by
  unfold locate at h
  cases hlast : path.getLast? with
  | none => simp [hlast] at h
  | some =>
    have hne : path ≠ [] := by
      rintro rfl
      cases hlast
    obtain ⟨hparent, hnolink⟩ := straight_dropLast hstraight hne
    simp only [hlast] at h
    cases hwalk : (fs.walk links [] (path.dropLast.map .normal)).result with
    | error =>
      rw [hwalk] at h
      cases h
    | ok =>
      have heq := walk_names [] path.dropLast (by simpa using hparent) (by simpa using hnolink) hwalk
      simp only [hwalk] at h
      split_ifs at h with hdir
      rw [nil_append] at heq
      cases h
      rw [heq] at hdir ⊢
      refine ⟨?_, hne, hdir⟩
      rw [getLast?_eq_some_getLast hne, Option.some.injEq] at hlast
      rw [← hlast]
      exact dropLast_append_getLast hne

theorem insert_of_straight {fs' : Fs} {node : Node} (hstraight : fs.Straight path)
    (h : fs.insert links path node = .ok fs') :
    fs' = { fs with entries := Function.update fs.entries path (some node) } ∧ path ≠ [] ∧
      fs.entries path = none ∧ fs.isDirectoryAt path.dropLast = true := by
  unfold insert at h
  cases hlocate : fs.locate links path with
  | error => simp [hlocate] at h
  | ok =>
    obtain ⟨rfl, hne, hdir⟩ := locate_of_straight hstraight hlocate
    simp only [hlocate] at h
    split_ifs at h with hexists
    cases h
    exact ⟨rfl, hne, Option.not_isSome_iff_eq_none.1 hexists, hdir⟩

end Fs

end FileSystem
