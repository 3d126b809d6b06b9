import Mathlib.Data.Int.Order.Basic
import Mathlib.Tactic.Linarith
import A3SCloud.Lib.Checks

/-!
# Identifiers, times and texts of the node contracts

The scalar types that every message of `crates/contracts` is made of, and the checks of
`crates/contracts/src/node/mod.rs` on them.

* `Uuid` is the 128-bit value of an identifier; the nil identifier is `0`.
* Times are integers that count nanoseconds from the Unix epoch; `canonicalTimestamp` is the
  truncation to microseconds of `shared_kernel/domain/timestamp.rs`.
* `DigestText` and `SchemaText` stand for the texts of digest and schema fields. A text that
  passes the check is told apart from every other text; its characters play no role.
-/

namespace A3SCloud

open Checks

/-- The value of an identifier; nil is `0`. -/
abbrev Uuid := ℕ

/-- Milliseconds since the Unix epoch, rounded down. -/
def timestampMillis (t : ℤ) : ℤ := t / 1000000

/-- The last millisecond a `DateTime<Utc>` can represent. -/
def maxTimestampMillis : ℕ := 8210266876799999

/-- The time a count of milliseconds denotes, within the range of `DateTime<Utc>`. -/
def fromTimestampMillis (ms : ℕ) : Option ℤ :=
  if ms ≤ maxTimestampMillis then some ((ms : ℤ) * 1000000) else none

/-- Truncation to the microsecond precision of the database. -/
def canonicalTimestamp (t : ℤ) : ℤ := t - t % 1000

section Canonical

variable {s t : ℤ}

theorem canonicalTimestamp_le (t : ℤ) : canonicalTimestamp t ≤ t := by
  unfold canonicalTimestamp; omega

theorem canonicalTimestamp_mono (h : s ≤ t) : canonicalTimestamp s ≤ canonicalTimestamp t := by
  unfold canonicalTimestamp; omega

@[simp] theorem canonicalTimestamp_idem (t : ℤ) :
    canonicalTimestamp (canonicalTimestamp t) = canonicalTimestamp t := by
  unfold canonicalTimestamp; omega

/-- A whole number of microseconds. -/
def IsCanonical (t : ℤ) : Prop := canonicalTimestamp t = t

theorem isCanonical_canonicalTimestamp (t : ℤ) : IsCanonical (canonicalTimestamp t) :=
  canonicalTimestamp_idem t

/-- A canonical time is not after the truncation of a time exactly when it is not after it. -/
theorem IsCanonical.le_canonicalTimestamp_iff (hs : IsCanonical s) :
    s ≤ canonicalTimestamp t ↔ s ≤ t := by
  unfold IsCanonical canonicalTimestamp at *; omega

theorem timestampMillis_canonicalTimestamp (t : ℤ) :
    timestampMillis (canonicalTimestamp t) = timestampMillis t := by
  unfold timestampMillis canonicalTimestamp; omega

theorem isCanonical_of_fromTimestampMillis {ms : ℕ} (h : fromTimestampMillis ms = some t) :
    IsCanonical t := by
  unfold fromTimestampMillis at h
  split_ifs at h
  cases h
  unfold IsCanonical canonicalTimestamp
  omega

end Canonical

/-- A digest text: one that `validate_sha256` accepts, or any other text. -/
inductive DigestText
  | sha256 (hex : ℕ)
  | other (text : String)
  deriving DecidableEq

/-- A schema text: the one a message declares, its declared predecessor, or any other text. -/
inductive SchemaText
  | current
  | legacy
  | other (text : String)
  deriving DecidableEq

/-! ### Checks on single values -/

/-- `White_Space` of the Unicode character database, which `str::trim` removes. -/
def isTrimmed (c : Char) : Bool :=
  let n := c.toNat
  (9 ≤ n && n ≤ 13) || n == 0x20 || n == 0x85 || n == 0xA0 || n == 0x1680 ||
    (0x2000 ≤ n && n ≤ 0x200A) || n == 0x2028 || n == 0x2029 || n == 0x202F || n == 0x205F ||
    n == 0x3000

/-- `value.trim().is_empty()`. -/
def isBlank (value : String) : Bool := value.toList.all isTrimmed

/-- Whether a text contains one of the given characters. -/
def containsAny (value : String) (chars : List Char) : Bool := value.toList.any (chars.contains ·)

def validateUuid (label : String) (value : Uuid) : Except String Unit :=
  refuseIf (value = 0) (label ++ " must not be nil")

def validateSingleLine (label value : String) (max : ℕ) : Except String Unit :=
  refuseIf (isBlank value ∨ max < value.utf8ByteSize ∨ containsAny value ['\x00', '\r', '\n'])
    (label ++ " must be a bounded nonempty single-line value")

def validateSha256 (label : String) : DigestText → Except String Unit
  | .sha256 _ => .ok ()
  | .other text =>
    .error (if "sha256:".toList.isPrefixOf text.toList
      then label ++ " must contain exactly 64 hexadecimal characters"
      else label ++ " must use sha256")

/-- How a schema text stands in an error message. -/
def SchemaText.quoted : SchemaText → String
  | .current => "current"
  | .legacy => "legacy"
  | .other text => "\"" ++ text ++ "\""

def validateSchema (unsupported : String) (schema : SchemaText) : Except String Unit :=
  refuseIf (schema ≠ .current) (unsupported ++ " " ++ schema.quoted)

@[simp] theorem validateUuid_ok_iff {label : String} {value : Uuid} {u : Unit} :
    validateUuid label value = .ok u ↔ value ≠ 0 := by
  simp [validateUuid]

@[simp] theorem validateSchema_ok_iff {text : String} {schema : SchemaText} {u : Unit} :
    validateSchema text schema = .ok u ↔ schema = .current := by
  simp [validateSchema]

/-- Addition of unsigned 64-bit numbers that reports an overflow. -/
def checkedAdd (a b : ℕ) : Option ℕ := if a + b < 2 ^ 64 then some (a + b) else none

theorem checkedAdd_eq_some {a b c : ℕ} :
    checkedAdd a b = some c ↔ a + b = c ∧ a + b < 2 ^ 64 := by
  unfold checkedAdd
  split_ifs with h <;> simp <;> omega

end A3SCloud
