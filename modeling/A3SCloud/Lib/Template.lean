import Mathlib.Data.List.Infix
import Mathlib.Data.List.Nodup
import Mathlib.Tactic.Common

/-!
# Text templates

A template is a text with holes `{name}` that are filled by replacing them. Texts are lists of
characters.

* `Template.replace` replaces every occurrence of a pattern; `Template.scan` reads the names of the
  holes and refuses a brace without its partner.
* `Template.Segment` is a piece of a template, a literal text or a hole. `Template.scan_ok` cuts a
  text that was read into its pieces.
* `Template.replace_text`: replacing `{name}` fills the holes of that name and nothing else.
* `Template.text_fill_injective`: a hole that occurs once can be read back.
-/

namespace Template

open List

/-! ### Replacing -/

/-- Replaces every occurrence of a pattern, where the first characters of the text belong to an
occurrence that was replaced already. -/
def replaceFrom (pattern value : List Char) : ℕ → List Char → List Char
  | _, [] => []
  | skip + 1, _ :: text => replaceFrom pattern value skip text
  | 0, c :: text =>
    if pattern <+: c :: text then value ++ replaceFrom pattern value (pattern.length - 1) text
    else c :: replaceFrom pattern value 0 text

/-- Replaces every occurrence of a pattern in a text, from left to right. -/
def replace (pattern value text : List Char) : List Char := replaceFrom pattern value 0 text

variable {pattern value name : List Char} {segments : List Segment}

theorem replaceFrom_append (skipped text : List Char) :
    replaceFrom pattern value skipped.length (skipped ++ text) =
      replaceFrom pattern value 0 text := by
  induction skipped with
  | nil => rfl
  | cons c skipped ih => exact ih

/-- A pattern that starts with a character does not occur in a text without it. -/
theorem replaceFrom_of_notMem {c : Char} {front : List Char} (h : c ∉ front) (text : List Char) :
    replaceFrom (c :: pattern) value 0 (front ++ text) =
      front ++ replaceFrom (c :: pattern) value 0 text := by
  induction front with
  | nil => rfl
  | cons d front ih =>
    rw [mem_cons, not_or] at h
    have hno : ¬ (c :: pattern) <+: d :: (front ++ text) := by
      rw [cons_prefix_cons]
      exact fun hboth => h.1 hboth.1
    rw [cons_append, replaceFrom, if_neg hno, ih h.2, cons_append]

/-! ### Segments -/

/-- A piece of a template. -/
inductive Segment
  | literal (text : List Char)
  | hole (name : List Char)
  deriving DecidableEq

/-- A text without braces. -/
def Plain (text : List Char) : Prop := '{' ∉ text ∧ '}' ∉ text

namespace Segment

def text : Segment → List Char
  | literal text => text
  | hole name => '{' :: (name ++ ['}'])

/-- No braces but those around the holes. -/
def Plain : Segment → Prop
  | literal text => Template.Plain text
  | hole name => Template.Plain name

def name? : Segment → Option (List Char)
  | literal _ => none
  | hole name => some name

def fill (name value : List Char) : Segment → Segment
  | literal text => literal text
  | hole other => if other = name then literal value else hole other

end Segment

def text (segments : List Segment) : List Char := segments.flatMap Segment.text

def holes (segments : List Segment) : List (List Char) := segments.filterMap Segment.name?

@[simp] theorem text_cons (segment : Segment) (segments : List Segment) :
    text (segment :: segments) = segment.text ++ text segments := rfl

@[simp] theorem holes_nil : holes [] = [] := rfl

@[simp] theorem holes_literal (t : List Char) (segments : List Segment) :
    holes (.literal t :: segments) = holes segments := rfl

@[simp] theorem holes_hole (name : List Char) (segments : List Segment) :
    holes (.hole name :: segments) = name :: holes segments := rfl

/-- What stands before the first closing brace. -/
theorem eq_of_append_close {a b s t : List Char} (ha : '}' ∉ a) (hb : '}' ∉ b)
    (h : a ++ '}' :: s = b ++ '}' :: t) : a = b := by
  induction a generalizing b with
  | nil =>
    cases b with
    | nil => rfl
    | cons =>
      rw [nil_append, cons_append, cons.injEq] at h
      exact absurd (h.1 ▸ mem_cons_self) hb
  | cons c a ih =>
    cases b with
    | nil =>
      rw [nil_append, cons_append, cons.injEq] at h
      exact absurd (h.1 ▸ mem_cons_self) ha
    | cons =>
      rw [cons_append, cons_append, cons.injEq] at h
      rw [h.1, ih (fun hc => ha (mem_cons_of_mem _ hc))
        (fun hd => hb (mem_cons_of_mem _ hd)) h.2]

/-- Replacing a hole fills the holes of its name and nothing else. -/
theorem replace_text (value : List Char) (hplain : ∀ segment ∈ segments, segment.Plain)
    (hname : Plain name) :
    replace (Segment.hole name).text value (text segments) =
      text (segments.map (Segment.fill name value)) := by
  rw [replace]
  induction segments with
  | nil => rfl
  | cons segment segments ih =>
    obtain ⟨hsegment, hrest⟩ := forall_mem_cons.1 hplain
    rw [text_cons, map_cons, text_cons, ← ih hrest]
    cases segment with
    | literal => exact replaceFrom_of_notMem hsegment.1 (text segments)
    | hole other =>
      by_cases hsame : other = name
      · subst hsame
        have hmatch : (Segment.hole other).text <+:
            '{' :: ((other ++ ['}']) ++ text segments) := prefix_append _ _
        have hskip : replaceFrom (Segment.hole other).text value ((other ++ ['}']).length)
            ((other ++ ['}']) ++ text segments) = _ := replaceFrom_append _ _
        rw [Segment.fill, if_pos rfl, ← hskip]
        exact if_pos hmatch
      · have hno : ¬ (Segment.hole name).text <+: '{' :: ((other ++ ['}']) ++ text segments) := by
          rintro ⟨t, ht⟩
          rw [Segment.text, cons_append, cons.injEq] at ht
          refine hsame (eq_of_append_close (s := text segments) (t := t) hsegment.2 hname.2 ?_)
          simpa using ht.2.symm
        have hplain : '{' ∉ other ++ ['}'] := by
          simpa using hsegment.1
        rw [Segment.fill, if_neg hsame]
        refine (if_neg hno).trans (congrArg (cons '{') ?_)
        exact replaceFrom_of_notMem hplain (text segments)

/-- Filling with a plain text leaves no other braces. -/
theorem plain_fill (name : List Char) (hplain : ∀ segment ∈ segments, segment.Plain)
    (hvalue : Plain value) : ∀ segment ∈ segments.map (Segment.fill name value), segment.Plain := by
  intro segment hsegment
  obtain ⟨old, hold, rfl⟩ := mem_map.1 hsegment
  cases old with
  | literal => exact hplain _ hold
  | hole =>
    rw [Segment.fill]
    split_ifs
    · exact hvalue
    · exact hplain _ hold

theorem holes_fill (name value : List Char) (segments : List Segment) :
    holes (segments.map (Segment.fill name value)) = (holes segments).filter (· ≠ name) := by
  induction segments with
  | nil => rfl
  | cons segment segments ih =>
    cases segment with
    | literal => exact ih
    | hole other =>
      rw [map_cons, Segment.fill, holes_hole]
      by_cases hsame : other = name
      · rw [if_pos hsame, holes_literal, ih]
        simp [hsame]
      · rw [if_neg hsame, holes_hole, ih]
        simp [hsame]

theorem map_fill_of_notMem (h : name ∉ holes segments) :
    segments.map (Segment.fill name value) = segments := by
  induction segments with
  | nil => rfl
  | cons segment segments ih =>
    cases segment with
    | literal => rw [map_cons, ih h, Segment.fill]
    | hole =>
      rw [holes_hole, mem_cons, not_or] at h
      rw [map_cons, ih h.2, Segment.fill, if_neg (Ne.symm h.1)]

/-- A hole that occurs once can be read back. -/
theorem text_fill_injective {v w : List Char} (hmem : name ∈ holes segments)
    (hnodup : (holes segments).Nodup)
    (h : text (segments.map (Segment.fill name v)) = text (segments.map (Segment.fill name w))) :
    v = w := by
  induction segments with
  | nil => cases hmem
  | cons segment segments ih =>
    rw [map_cons, map_cons, text_cons, text_cons] at h
    cases segment with
    | literal => exact ih hmem hnodup (append_cancel_left h)
    | hole other =>
      rw [holes_hole, nodup_cons] at hnodup
      by_cases hsame : other = name
      · subst hsame
        rw [map_fill_of_notMem hnodup.1, map_fill_of_notMem hnodup.1, Segment.fill, Segment.fill,
          if_pos rfl, if_pos rfl] at h
        exact append_cancel_right h
      · rw [Segment.fill, Segment.fill, if_neg hsame, if_neg hsame] at h
        exact ih (mem_of_ne_of_mem (Ne.symm hsame) hmem) hnodup.2 (append_cancel_left h)

/-! ### Reading the holes -/

/-- Reads the names of the holes of a text: `seen` are the names that were read, `current` the name
of the hole that is open. Each name is checked against those before it. -/
def scan {ε : Type*} (unmatched : ε) (check : List (List Char) → List Char → Except ε Unit)
    (seen : List (List Char)) : Option (List Char) → List Char → Except ε (List (List Char))
  | none, [] => .ok seen
  | some _, [] => .error unmatched
  | none, c :: text =>
    if c = '{' then scan unmatched check seen (some []) text
    else if c = '}' then .error unmatched
    else scan unmatched check seen none text
  | some name, c :: text =>
    if c = '}' then
      match check seen name with
      | .ok () => scan unmatched check (seen ++ [name]) none text
      | .error e => .error e
    else scan unmatched check seen (some (name ++ [c])) text

/-- What was read of a text: its pieces, and that each name passed the check. -/
structure Reads {ε : Type*} (check : List (List Char) → List Char → Except ε Unit)
    (seen : List (List Char)) (segments : List Segment) : Prop where
  plain : ∀ segment ∈ segments, segment.Plain
  checked : ∀ front name back, holes segments = front ++ name :: back →
    check (seen ++ front) name = .ok ()

theorem Reads.literal {ε : Type*} {check : List (List Char) → List Char → Except ε Unit}
    {seen : List (List Char)} {segments : List Segment} (h : Reads check seen segments)
    {c : Char} (hopen : c ≠ '{') (hclose : c ≠ '}') :
    Reads check seen (.literal [c] :: segments) := by
  refine ⟨forall_mem_cons.2 ⟨⟨?_, ?_⟩, h.plain⟩, h.checked⟩
  · simpa using Ne.symm hopen
  · simpa using Ne.symm hclose

theorem Reads.hole {ε : Type*} {check : List (List Char) → List Char → Except ε Unit}
    {seen : List (List Char)} (h : Reads check (seen ++ [name]) segments) (hname : Plain name)
    (hcheck : check seen name = .ok ()) : Reads check seen (.hole name :: segments) := by
  refine ⟨forall_mem_cons.2 ⟨hname, h.plain⟩, fun front other back heq => ?_⟩
  rw [holes_hole] at heq
  cases front with
  | nil =>
    rw [nil_append, cons.injEq] at heq
    rw [append_nil, ← heq.1]
    exact hcheck
  | cons first front =>
    rw [cons_append, cons.injEq] at heq
    rw [← heq.1, append_cons]
    exact h.checked front other back heq.2

/-- A text that was read is a template with the names that were found. -/
theorem scan_ok {ε : Type*} {unmatched : ε} {check : List (List Char) → List Char → Except ε Unit}
    (hopen : ∀ seen name, check seen name = .ok () → '{' ∉ name) {t : List Char}
    {seen names : List (List Char)} (h : scan unmatched check seen none t = .ok names) :
    ∃ segments, Reads check seen segments ∧ text segments = t ∧ names = seen ++ holes segments := by
  -- With a hole open, the text goes on with the rest of its name.
  suffices hboth : ∀ (t : List Char) (seen names : List (List Char)),
      (scan unmatched check seen none t = .ok names →
        ∃ segments, Reads check seen segments ∧ text segments = t ∧
          names = seen ++ holes segments) ∧
      ∀ name, '}' ∉ name → scan unmatched check seen (some name) t = .ok names →
        ∃ rest segments, Reads check seen (.hole (name ++ rest) :: segments) ∧
          rest ++ '}' :: text segments = t ∧ names = seen ++ holes (.hole (name ++ rest) :: segments)
    from (hboth t seen names).1 h
  intro t
  induction t with
  | nil =>
    intro seen names
    refine ⟨fun h => ?_, fun name _ h => by cases h⟩
    cases h
    exact ⟨[], ⟨by simp, by simp⟩, rfl, by simp⟩
  | cons c t ih =>
    intro seen names
    constructor
    · intro h
      rw [scan] at h
      split_ifs at h with hbegin hend
      · obtain ⟨rest, segments, hreads, rfl, hnames⟩ := (ih seen names).2 [] (by simp) h
        exact ⟨_, hreads, by simp [Segment.text, hbegin], hnames⟩
      · obtain ⟨segments, hreads, rfl, hnames⟩ := (ih seen names).1 h
        exact ⟨_, hreads.literal hbegin hend, rfl, hnames⟩
    · intro name hname h
      rw [scan] at h
      by_cases hend : c = '}'
      · rw [if_pos hend] at h
        cases hcheck : check seen name with
        | error =>
          rw [hcheck] at h
          cases h
        | ok =>
          rw [hcheck] at h
          obtain ⟨segments, hreads, rfl, hnames⟩ := (ih (seen ++ [name]) names).1 h
          refine ⟨[], segments, ?_, by rw [hend]; rfl, ?_⟩
          · rw [append_nil]
            exact hreads.hole ⟨hopen seen name hcheck, hname⟩ hcheck
          · rw [hnames, holes_hole, append_nil, append_assoc, singleton_append]
      · rw [if_neg hend] at h
        have hname' : '}' ∉ name ++ [c] := by
          simpa [hname] using Ne.symm hend
        obtain ⟨rest, segments, hreads, rfl, hnames⟩ := (ih seen names).2 (name ++ [c]) hname' h
        refine ⟨c :: rest, segments, ?_, rfl, ?_⟩
        · rw [append_cons]
          exact hreads
        · rw [append_cons]
          exact hnames

end Template
