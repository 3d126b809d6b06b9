import A3SCloud.Contracts.Basic
import A3SCloud.Lib.FileSystem
import Mathlib.Data.List.Dedup
import Mathlib.Data.List.Sort

/-!
# Extraction of directory archives

`crates/node-agent/src/artifact/archive.rs`: an archive is read twice. The first reading is checked
and turned into a plan, the second one supplies the contents of the files. Then hard links and
symbolic links are made and the modes are set. What the tar reader returns is a list of entries, each
of which it may fail to read; the two readings need not agree.

* `planArchive` and `validatePlan` check the entries, `resolveLink` checks a link target against the
  path of the link alone.
* `extractPlans` performs the plan, `extractDirectoryArchive` is the whole.

The directories of a plan are listed in the order in which they are first needed; the source keeps
them in a sorted set, and makes missing parents on the way in either order.
-/

namespace A3SCloud

open FileSystem Checks

structure ArchiveLimits where
  maxEntries : ℕ
  maxFileBytes : ℕ
  maxExpandedBytes : ℕ
  deriving DecidableEq

structure ArchiveSummary where
  entries : ℕ
  expandedBytes : ℕ
  deriving DecidableEq

inductive PlannedKind
  | directory
  | file (executable : Bool) (size : ℕ) (digest : ℕ)
  | symlink (target : String)
  | hardlink (target : Path)
  deriving DecidableEq

structure PlannedEntry where
  path : Path
  kind : PlannedKind
  deriving DecidableEq

/-! ### What the tar reader returns -/

/-- A path as it is recorded. -/
inductive RawPath
  | text (value : String)
  | notUtf8
  deriving DecidableEq

inductive TarEntryType
  | directory
  | file
  | symlink
  | hardLink
  | other
  deriving DecidableEq

/-- An entry; what cannot be read is an error text. -/
structure TarEntry where
  path : Except String RawPath
  entryType : TarEntryType
  size : ℕ
  mode : Except String ℕ
  content : Except String (List UInt8)
  linkName : Except String (Option RawPath)

abbrev TarReading := List (Except String TarEntry)

/-! ### Paths -/

/-- A text that is empty, too long or has a NUL. -/
def isInvalidPathText (text : String) : Bool :=
  text = "" || decide (4096 < text.utf8ByteSize) || text.toList.contains (Char.ofNat 0)

/-- The names of a path without `..` and root. -/
def archiveNames : List Component → Except String Path
  | [] => .ok []
  | .normal name :: rest => (archiveNames rest).map (name :: ·)
  | .curDir :: rest => archiveNames rest
  | .parentDir :: _ | .rootDir :: _ => .error "artifact archive path escapes its extraction root"

def normalizedArchivePath : RawPath → Except String Path
  | .notUtf8 => .error "artifact archive path must be UTF-8"
  | .text text => do
    refuseIf (isInvalidPathText text) "artifact archive path is invalid"
    let normalized ← archiveNames (components text)
    refuseIf (normalized = []) "artifact archive path is empty"
    pure normalized

def isExplicitArchiveRoot : RawPath → Bool
  | .notUtf8 => false
  | .text text => (components text).all (· = .curDir)

/-- Takes the components one by one; `..` removes the last name. -/
def resolveComponents : Path → List Component → Except String Path
  | resolved, [] => .ok resolved
  | resolved, .normal name :: rest => resolveComponents (resolved ++ [name]) rest
  | resolved, .curDir :: rest => resolveComponents resolved rest
  | resolved, .parentDir :: rest =>
    if resolved = [] then .error "artifact link target escapes its extraction root"
    else resolveComponents resolved.dropLast rest
  | _, .rootDir :: _ => .error "artifact link target escapes its extraction root"

def resolveLink (base : Path) : RawPath → Except String Path
  | .notUtf8 => .error "artifact link target must be UTF-8"
  | .text text => do
    refuseIf (isInvalidPathText text || decide ((components text).head? = some .rootDir))
      "artifact link target is invalid"
    let resolved ← resolveComponents base (components text)
    refuseIf (resolved = []) "artifact link target resolves to the extraction root"
    pure resolved

/-! ### The plan -/

section Plan

variable (sha256 : List UInt8 → ℕ) (limits : ArchiveLimits)

/-- The parts of the plan that have been made. -/
structure Planning where
  plans : List PlannedEntry
  expandedBytes : ℕ
  hasExplicitRoot : Bool

def linkTarget (entry : TarEntry) (what : String) : Except String RawPath := do
  let name ← entry.linkName.mapError (("artifact " ++ what ++ " target is invalid: ") ++ ·)
  orElse ("artifact " ++ what ++ " omits its target") name

/-- A regular file, with the total size so far. -/
def planFile (expandedBytes : ℕ) (entry : TarEntry) : Except String (PlannedKind × ℕ) := do
  refuseIf (limits.maxFileBytes < entry.size) "artifact archive file exceeds the single-file limit"
  let total ← orElse "artifact archive expanded size overflowed"
    (checkedAdd expandedBytes entry.size)
  refuseIf (limits.maxExpandedBytes < total) "artifact archive exceeds the expanded-byte limit"
  let mode ← entry.mode.mapError ("artifact archive file mode is invalid: " ++ ·)
  let content ← entry.content.mapError ("could not hash artifact archive file: " ++ ·)
  refuseIf (content.length ≠ entry.size) "artifact archive file size changed while planning"
  pure (.file (mode &&& 0o111 ≠ 0) entry.size (sha256 content), total)

def planKind (expandedBytes : ℕ) (path : Path) (entry : TarEntry) :
    Except String (PlannedKind × ℕ) :=
  match entry.entryType with
  | .directory => do
    refuseIf (entry.size ≠ 0) "artifact archive directory has a nonzero size"
    pure (.directory, expandedBytes)
  | .file => planFile sha256 limits expandedBytes entry
  | .symlink => do
    refuseIf (entry.size ≠ 0) "artifact archive symlink has a nonzero size"
    let target ← linkTarget entry "symlink"
    let _ ← resolveLink path.dropLast target
    match target with
    | .text text => pure (.symlink text, expandedBytes)
    | .notUtf8 => .error "artifact link target must be UTF-8"
  | .hardLink => do
    refuseIf (entry.size ≠ 0) "artifact archive hardlink has a nonzero size"
    let target ← linkTarget entry "hardlink"
    let resolved ← resolveLink [] target
    pure (.hardlink resolved, expandedBytes)
  | .other => .error "artifact archive contains a device, FIFO, or unsupported entry type"

def planEntry (planning : Planning) (entry : Except String TarEntry) :
    Except String Planning := do
  let entry ← entry.mapError ("artifact archive entry is invalid: " ++ ·)
  let rawPath ← entry.path.mapError ("artifact archive path is invalid: " ++ ·)
  if isExplicitArchiveRoot rawPath then
    refuseIf (planning.hasExplicitRoot || !planning.plans.isEmpty ||
        entry.entryType ≠ .directory || entry.size ≠ 0)
      "artifact archive has an invalid explicit root entry"
    pure { planning with hasExplicitRoot := true }
  else do
    refuseIf (limits.maxEntries ≤ planning.plans.length) "artifact archive exceeds the entry limit"
    let path ← normalizedArchivePath rawPath
    let (kind, expandedBytes) ← planKind sha256 limits planning.expandedBytes path entry
    pure { planning with plans := planning.plans ++ [⟨path, kind⟩], expandedBytes }

def planArchive (reading : TarReading) : Except String (List PlannedEntry × ArchiveSummary) := do
  let planning ← reading.foldlM (planEntry sha256 limits) ⟨[], 0, false⟩
  refuseIf planning.plans.isEmpty "artifact archive is empty"
  pure (planning.plans, ⟨planning.plans.length, planning.expandedBytes⟩)

end Plan

/-- The directories above a path, from the nearest one on. -/
def ancestors (path : Path) : List Path := path.inits.dropLast.tail.reverse

variable (plans : List PlannedEntry)

/-- The kind that is planned at a path. -/
def plannedAt (path : Path) : Option PlannedKind :=
  (plans.find? (·.path = path)).map (·.kind)

def PlannedKind.isFile : PlannedKind → Bool
  | file .. => true
  | directory | symlink _ | hardlink _ => false

/-- A hard link names a file of the plan. -/
def validateHardlink : PlannedKind → Except String Unit
  | .hardlink target => refuseIf (!(plannedAt plans target).any PlannedKind.isFile)
      "artifact hardlink must reference a regular file in the archive"
  | .directory | .file .. | .symlink _ => .ok ()

def validatePlanned (plan : PlannedEntry) : Except String Unit := do
  refuseIf ((ancestors plan.path).any fun path =>
      (plannedAt plans path).any fun kind => decide (kind ≠ .directory))
    "artifact archive path descends through a non-directory entry"
  validateHardlink plans plan.kind

def validatePlan : Except String Unit := do
  refuseIf (¬ (plans.map (·.path)).Nodup) "artifact archive contains duplicate paths"
  checkAll (validatePlanned plans) plans

def requiredDirectories : List Path :=
  (plans.flatMap fun plan =>
    (if plan.kind = .directory then [plan.path] else []) ++ ancestors plan.path).dedup

/-! ### The extraction -/

section Extract

variable (sha256 : List UInt8 → ℕ) (links : ℕ) (destination : Path) (plans : List PlannedEntry)

/-- The second reading: the files that have been written, and how many entries were seen. -/
structure Extraction where
  fs : Fs
  hasExplicitRoot : Bool
  extractedEntries : ℕ

variable (fs : Fs)

/-- Writes a planned file with the content of the second reading. -/
def extractFile (path : Path) (size digest : ℕ) (entry : TarEntry) : Except String Fs := do
  let fs ← (fs.createNew links (destination ++ path) (entry.content.toOption.getD [])).mapError
    ("could not create artifact file: " ++ ·.text)
  let content ← entry.content.mapError ("could not extract artifact file: " ++ ·)
  refuseIf (content.length ≠ size) "artifact file size changed during extraction"
  refuseIf (sha256 content ≠ digest) "artifact file content changed during extraction"
  pure fs

/-- What the second reading does with an entry of a planned kind. -/
def extractKind (path : Path) (entry : TarEntry) : PlannedKind → Except String Fs
  | .file _ size digest => extractFile sha256 links destination fs path size digest entry
  | .directory | .symlink _ | .hardlink _ => .ok fs

def extractEntry (extraction : Extraction) (entry : Except String TarEntry) :
    Except String Extraction := do
  let entry ← entry.mapError ("artifact archive entry is invalid: " ++ ·)
  let rawPath ← entry.path.mapError ("artifact archive path is invalid: " ++ ·)
  if isExplicitArchiveRoot rawPath then
    refuseIf (extraction.hasExplicitRoot || extraction.extractedEntries ≠ 0 ||
        entry.entryType ≠ .directory || entry.size ≠ 0)
      "artifact archive changed its explicit root entry"
    pure { extraction with hasExplicitRoot := true }
  else do
    let path ← normalizedArchivePath rawPath
    let kind ← orElse "artifact archive changed between validation and extraction"
      (plannedAt plans path)
    let fs ← extractKind sha256 links destination extraction.fs path entry kind
    pure { extraction with fs, extractedEntries := extraction.extractedEntries + 1 }

def makeDirectory (directory : Path) : Except String Fs :=
  (fs.mkdirAll links (destination ++ directory)).mapError
    ("could not create artifact directory: " ++ ·.text)

def makeHardlink (plan : PlannedEntry) : Except String Fs :=
  match plan.kind with
  | .hardlink target => (fs.link links (destination ++ target) (destination ++ plan.path)).mapError
      ("could not create artifact hardlink: " ++ ·.text)
  | .directory | .file .. | .symlink _ => .ok fs

def makeSymlink (plan : PlannedEntry) : Except String Fs :=
  match plan.kind with
  | .symlink target => (fs.symlink links target (destination ++ plan.path)).mapError
      ("could not create artifact symlink: " ++ ·.text)
  | .directory | .file .. | .hardlink _ => .ok fs

def setReadOnlyMode (plan : PlannedEntry) : Except String Fs :=
  match plan.kind with
  | .file executable .. =>
    (fs.chmod links (destination ++ plan.path) (if executable then 0o555 else 0o444)).mapError
      ("could not secure artifact file permissions: " ++ ·.text)
  | .directory | .symlink _ | .hardlink _ => .ok fs

def setDirectoryMode (directory : Path) : Except String Fs :=
  (fs.chmod links (destination ++ directory) 0o555).mapError
    ("could not secure artifact directory permissions: " ++ ·.text)

def extractPlans (reading : TarReading) : Except String Fs := do
  let directories := requiredDirectories plans
  let fs ← directories.foldlM (makeDirectory links destination) fs
  let extraction ← reading.foldlM (extractEntry sha256 links destination plans) ⟨fs, false, 0⟩
  refuseIf (extraction.extractedEntries ≠ plans.length)
    "artifact archive changed between validation and extraction"
  let fs ← plans.foldlM (makeHardlink links destination) extraction.fs
  let fs ← plans.foldlM (makeSymlink links destination) fs
  let fs ← plans.foldlM (setReadOnlyMode links destination) fs
  (directories.insertionSort (fun a b => b.length ≤ a.length)).foldlM
    (setDirectoryMode links destination) fs

def validateOptions (archiveIsFile : Bool) (fs : Fs) (limits : ArchiveLimits) :
    Except String Unit :=
  refuseIf (!archiveIsFile || fs.pathExists links destination || destination = [] ||
      limits.maxEntries = 0 || limits.maxFileBytes = 0 || limits.maxExpandedBytes = 0 ||
      limits.maxExpandedBytes < limits.maxFileBytes)
    "artifact archive extraction options are invalid"

end Extract

/-- The summary and the file system after an extraction that succeeds; one that fails removes its
destination again. -/
def extractDirectoryArchive (sha256 : List UInt8 → ℕ) (links : ℕ) (archiveIsFile : Bool)
    (reading rereading : TarReading) (destination : Path) (limits : ArchiveLimits) (fs : Fs) :
    Except String (ArchiveSummary × Fs) := do
  validateOptions links destination archiveIsFile fs limits
  let (plans, summary) ← planArchive sha256 limits reading
  validatePlan plans
  let fs ← (fs.mkdir links destination).mapError
    ("could not create artifact extraction root: " ++ ·.text)
  let fs ← extractPlans sha256 links destination plans fs rereading
  pure (summary, fs)

end A3SCloud
