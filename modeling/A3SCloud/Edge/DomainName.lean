import Mathlib.Data.List.Basic
import A3SCloud.Contracts.Basic

/-!
# Hostnames and domain patterns

The model of `modules/edge/domain/value_objects/route_hostname.rs` and `domain_name_pattern.rs`. A
text is the list of its characters.

* `RouteHostname.parse` accepts the canonical DNS names; the type carries the check, so that every
  hostname is canonical.
* `DomainNamePattern.covers` says which hostnames a pattern claims.
* `DomainNamePattern.conflictsWith_of_covers`: two patterns that claim a common hostname conflict.
-/

namespace A3SCloud

open Checks List

/-! ### Texts -/

/-- `str::trim`. -/
def trimSpaces (text : List Char) : List Char :=
  ((text.dropWhile isTrimmed).reverse.dropWhile isTrimmed).reverse

/-- `str::to_ascii_lowercase`. -/
def toAsciiLowercase (text : List Char) : List Char :=
  text.map fun c => if 'A' ≤ c ∧ c ≤ 'Z' then c.toLower else c

/-- `str::len`, which counts bytes. -/
def byteLength (text : List Char) : ℕ := (text.map Char.utf8Size).sum

/-- `str::strip_suffix`. -/
def stripSuffix (suffix text : List Char) : Option (List Char) :=
  if suffix <:+ text then some (text.take (text.length - suffix.length)) else none

variable {text : List Char}

theorem stripSuffix_eq_some_iff {suffix rest : List Char} :
    stripSuffix suffix text = some rest ↔ text = rest ++ suffix := by
  unfold stripSuffix
  constructor
  · intro h
    split_ifs at h with hsuffix
    obtain ⟨front, rfl⟩ := hsuffix
    cases h
    simp
  · rintro rfl
    simp

theorem trimSpaces_of_forall (h : ∀ c ∈ text, isTrimmed c = false) : trimSpaces text = text := by
  have hdrop : ∀ l : List Char, (∀ c ∈ l, isTrimmed c = false) → l.dropWhile isTrimmed = l := by
    intro l hl
    cases l with
    | nil => rfl
    | cons c => rw [dropWhile_cons, hl c mem_cons_self, if_neg Bool.false_ne_true]
  have hreverse : ∀ c ∈ text.reverse, isTrimmed c = false := by simpa using h
  rw [trimSpaces, hdrop text h, hdrop _ hreverse, reverse_reverse]

theorem char_le_iff_toNat_le {a b : Char} : a ≤ b ↔ a.toNat ≤ b.toNat := by
  rw [Char.le_def, UInt32.le_iff_toNat_le]
  rfl

theorem toAsciiLowercase_of_forall (h : ∀ c ∈ text, ¬ ('A' ≤ c ∧ c ≤ 'Z')) :
    toAsciiLowercase text = text := by
  rw [toAsciiLowercase, map_congr_left fun c hc => if_neg (h c hc), map_id']

/-! ### Hostnames -/

/-- The parts of a name between its dots. -/
def labels (value : List Char) : List (List Char) := value.splitOn '.'

def isLabelChar (c : Char) : Bool := ('a' ≤ c ∧ c ≤ 'z') ∨ ('0' ≤ c ∧ c ≤ '9') ∨ c = '-'

def validLabel (label : List Char) : Bool :=
  label ≠ [] ∧ byteLength label ≤ 63 ∧ label.head? ≠ some '-' ∧ label.getLast? ≠ some '-' ∧
    label.all isLabelChar

/-- A decimal number of at most three digits, at most 255 and without a leading zero. -/
def isOctet (label : List Char) : Bool :=
  label ≠ [] ∧ label.length ≤ 3 ∧ label.all (fun c => '0' ≤ c ∧ c ≤ '9') ∧
    (label.length = 1 ∨ label.head? ≠ some '0') ∧
    label.foldl (fun n c => 10 * n + (c.toNat - '0'.toNat)) 0 ≤ 255

/-- The IPv4 addresses among the texts of `IpAddr`; an IPv6 address contains a colon, which no label
of a hostname does. -/
def isIpv4 (value : List Char) : Bool :=
  (labels value).length = 4 ∧ (labels value).all isOctet

/-- The texts that `RouteHostname::parse` keeps as they are. -/
def isCanonicalHostname (value : List Char) : Bool :=
  value ≠ [] ∧ byteLength value ≤ 253 ∧ value.getLast? ≠ some '.' ∧ isIpv4 value = false ∧
    (labels value).all validLabel

structure RouteHostname where
  value : List Char
  canonical : isCanonicalHostname value = true
  deriving DecidableEq

def RouteHostname.parse (value : List Char) : Except String RouteHostname :=
  let value := toAsciiLowercase (trimSpaces value)
  if h : isCanonicalHostname value = true then .ok ⟨value, h⟩
  else .error "route hostname must be a canonical DNS name"

/-- What stands in a joined list stands in one of its parts or separates them. -/
theorem mem_intercalate {c separator : Char} {parts : List (List Char)}
    (h : c ∈ [separator].intercalate parts) : c = separator ∨ ∃ part ∈ parts, c ∈ part := by
  induction parts with
  | nil => simp [intercalate] at h
  | cons part parts ih =>
    cases parts with
    | nil =>
      simp only [intercalate, intersperse, flatten_cons, flatten_nil,
        append_nil] at h
      exact .inr ⟨part, mem_cons_self, h⟩
    | cons =>
      simp only [intercalate, intersperse_cons_cons, flatten_cons, mem_append,
        mem_singleton] at h ih
      rcases h with hpart | hseparator | hrest
      · exact .inr ⟨part, mem_cons_self, hpart⟩
      · exact .inl hseparator
      · rcases ih hrest with hseparator | ⟨other, hother, hc⟩
        · exact .inl hseparator
        · exact .inr ⟨other, mem_cons_of_mem _ hother, hc⟩

namespace RouteHostname

/-- A character of a canonical hostname is one of a label or a dot. -/
theorem char (hostname : RouteHostname) {c : Char} (hc : c ∈ hostname.value) :
    c = '.' ∨ isLabelChar c = true := by
  have hcanonical := hostname.canonical
  simp only [isCanonicalHostname, decide_eq_true_eq] at hcanonical
  obtain ⟨-, -, -, -, hlabels⟩ := hcanonical
  have hsplit : ['.'].intercalate (hostname.value.splitOn '.') = hostname.value :=
    intercalate_splitOn '.'
  rw [← hsplit] at hc
  rcases mem_intercalate hc with hdot | ⟨label, hlabel, hmem⟩
  · exact .inl hdot
  · have hvalid := all_eq_true.1 hlabels label hlabel
    simp only [validLabel, decide_eq_true_eq] at hvalid
    exact .inr (all_eq_true.1 hvalid.2.2.2.2 c hmem)

/-- A canonical hostname is what its text is parsed to. -/
theorem parse_value (hostname : RouteHostname) : parse hostname.value = .ok hostname := by
  have hchar : ∀ c ∈ hostname.value, isTrimmed c = false ∧ ¬ ('A' ≤ c ∧ c ≤ 'Z') := by
    intro c hc
    have hbound : c.toNat = 46 ∨ (97 ≤ c.toNat ∧ c.toNat ≤ 122) ∨
        (48 ≤ c.toNat ∧ c.toNat ≤ 57) ∨ c.toNat = 45 := by
      have := hostname.char hc
      simp only [isLabelChar, decide_eq_true_eq, char_le_iff_toNat_le] at this
      rcases this with rfl | hletter | hdigit | rfl
      · exact .inl rfl
      · exact .inr (.inl hletter)
      · exact .inr (.inr (.inl hdigit))
      · exact .inr (.inr (.inr rfl))
    constructor
    · simp only [isTrimmed, Bool.or_eq_false_iff, Bool.and_eq_false_iff, decide_eq_false_iff_not,
        beq_eq_false_iff_ne, ne_eq]
      omega
    · rw [char_le_iff_toNat_le, char_le_iff_toNat_le]
      have hA : 'A'.toNat = 65 := rfl
      have hZ : 'Z'.toNat = 90 := rfl
      omega
  have hvalue : toAsciiLowercase (trimSpaces hostname.value) = hostname.value := by
    rw [trimSpaces_of_forall fun c hc => (hchar c hc).1,
      toAsciiLowercase_of_forall fun c hc => (hchar c hc).2]
  rw [parse]
  simp only [hvalue, hostname.canonical, dif_pos]

end RouteHostname

/-! ### Patterns -/

structure DomainNamePattern where
  value : List Char
  deriving DecidableEq

namespace DomainNamePattern

variable (pattern : DomainNamePattern)

def isWildcard : Bool := ['*', '.'].isPrefixOf pattern.value

/-- `strip_prefix("*.")`, or the whole text. -/
def withoutWildcard (value : List Char) : List Char :=
  if ['*', '.'].isPrefixOf value then value.drop 2 else value

def dnsSuffix : List Char := withoutWildcard pattern.value

def parse (value : List Char) : Except String DomainNamePattern := do
  let value := toAsciiLowercase (trimSpaces value)
  let hostname ← RouteHostname.parse (withoutWildcard value)
  refuseIf ('*' ∈ value ∧ ¬ ['*', '.'].isPrefixOf value)
    "domain pattern must be an exact DNS name or one leading wildcard"
  refuseIf (['*', '.'].isPrefixOf value ∧ (labels hostname.value).length < 2)
    "wildcard domain pattern must contain a registrable suffix"
  pure ⟨value⟩

/-- A wildcard stands for one label. -/
def covers (hostname : RouteHostname) : Bool :=
  if pattern.isWildcard then
    ((stripSuffix pattern.dnsSuffix hostname.value).bind (stripSuffix ['.'])).any
      (fun label => label ≠ [] ∧ '.' ∉ label)
  else pattern.value = hostname.value

/-- An exact pattern lies under a wildcard. -/
def coversExact (wildcard exact : DomainNamePattern) : Bool :=
  match RouteHostname.parse exact.value with
  | .ok hostname => wildcard.covers hostname
  | .error _ => false

def conflictsWith (pattern other : DomainNamePattern) : Bool :=
  match pattern.isWildcard, other.isWildcard with
  | false, false => pattern = other
  | true, true => pattern.dnsSuffix = other.dnsSuffix
  | true, false => pattern.coversExact other
  | false, true => other.coversExact pattern

def challengeDnsName : List Char :=
  "_a3s-cloud-challenge.".toList ++ pattern.dnsSuffix

variable {pattern : DomainNamePattern} {hostname : RouteHostname}

theorem covers_exact_iff (h : pattern.isWildcard = false) :
    pattern.covers hostname = true ↔ pattern.value = hostname.value := by
  simp [covers, h]

theorem covers_wildcard_iff (h : pattern.isWildcard = true) :
    pattern.covers hostname = true ↔
      ∃ label, label ≠ [] ∧ '.' ∉ label ∧ hostname.value = label ++ '.' :: pattern.dnsSuffix := by
  simp only [covers, h, if_true, Option.any_eq_true, Option.bind_eq_some_iff,
    stripSuffix_eq_some_iff, decide_eq_true_eq]
  constructor
  · rintro ⟨label, ⟨rest, hrest, rfl⟩, hne, hdot⟩
    exact ⟨label, hne, hdot, by simpa using hrest⟩
  · rintro ⟨label, hne, hdot, hvalue⟩
    exact ⟨label, ⟨label ++ ['.'], by simpa using hvalue, rfl⟩, hne, hdot⟩

/-- The first dot of a name ends its first label. -/
theorem suffix_eq_of_append_eq {label label' rest rest' : List Char} (h : '.' ∉ label)
    (h' : '.' ∉ label') (heq : label ++ '.' :: rest = label' ++ '.' :: rest') : rest = rest' := by
  have hdrop : ∀ l r : List Char, '.' ∉ l → (l ++ '.' :: r).dropWhile (· ≠ '.') = '.' :: r := by
    intro l r hl
    rw [dropWhile_append_of_pos]
    · simp
    · intro c hc
      simpa using fun hdot : c = '.' => hl (hdot ▸ hc)
  have := congrArg (dropWhile (· ≠ '.')) heq
  rw [hdrop _ _ h, hdrop _ _ h'] at this
  exact tail_eq_of_cons_eq this

theorem coversExact_of_covers {wildcard exact : DomainNamePattern}
    (hwildcard : wildcard.covers hostname = true) (hexact : exact.value = hostname.value) :
    wildcard.coversExact exact = true := by
  rw [coversExact, hexact, hostname.parse_value]
  exact hwildcard

theorem conflictsWith_of_covers {other : DomainNamePattern} (h : pattern.covers hostname = true)
    (h' : other.covers hostname = true) : pattern.conflictsWith other = true := by
  unfold conflictsWith
  cases hw : pattern.isWildcard <;> cases hw' : other.isWildcard
  · rw [covers_exact_iff hw] at h
    rw [covers_exact_iff hw'] at h'
    cases pattern
    cases other
    simp_all
  · exact coversExact_of_covers h' ((covers_exact_iff hw).1 h)
  · exact coversExact_of_covers h ((covers_exact_iff hw').1 h')
  · obtain ⟨label, -, hdot, hvalue⟩ := (covers_wildcard_iff hw).1 h
    obtain ⟨label', -, hdot', hvalue'⟩ := (covers_wildcard_iff hw').1 h'
    exact decide_eq_true (suffix_eq_of_append_eq hdot hdot' (hvalue.symm.trans hvalue'))

theorem conflictsWith_comm (pattern other : DomainNamePattern) :
    pattern.conflictsWith other = other.conflictsWith pattern := by
  unfold conflictsWith
  cases pattern.isWildcard <;> cases other.isWildcard <;> simp [eq_comm]

end DomainNamePattern

end A3SCloud
