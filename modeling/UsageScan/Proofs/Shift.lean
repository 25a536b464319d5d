import UsageScan.Proofs.Join
/-!
# Texts further on

What is told of a text that stands behind another one is told of places further on. If a line begins
where it stands, the places lie further on by the bytes and the lines before it, and the columns
stay as they are.

## Main definitions

* `Position.shift`, `Token.shift`, `Occurrence.shift` — the same further on

## Main results

* `Position.start_afterAll_of_endsLine` — the position behind a text that ends a line
* `Layout.body_shift` — what is come across further on
-/

set_option autoImplicit false

namespace UsageScan

open Text

/-- A position that many bytes and lines further on. -/
def Position.shift (bytes lines : Nat) (p : Position) : Position :=
  ⟨bytes + p.offset, lines + p.newlines, p.column⟩

/-- A place that many lines further on. -/
def Location.shift (lines : Nat) (l : Location) : Location :=
  ⟨lines + l.line, l.column⟩

/-- A span that many bytes further on. -/
def Span.shift (bytes : Nat) (s : Span) : Span :=
  ⟨bytes + s.start, bytes + s.stop⟩

/-- A token that many bytes and lines further on. -/
def Token.shift (bytes lines : Nat) (t : Token) : Token :=
  { t with location := t.location.shift lines, span := t.span.shift bytes }

/-- An occurrence that many bytes and lines further on. -/
def Occurrence.shift (bytes lines : Nat) : Occurrence → Occurrence
  | token t stop => token (t.shift bytes lines) (stop.shift lines)
  | declaration name line offset stop =>
    declaration name (lines + line) (bytes + offset) (stop.shift lines)
  | lineBreak => lineBreak
  | endOfText => endOfText

section Shift

variable (bytes lines : Nat) (limit : Option Nat)

namespace Position

theorem after_shift (p : Position) (c : Char) :
    (p.shift bytes lines).after c = (p.after c).shift bytes lines := by
  unfold after
  split <;> simp [shift, Nat.add_assoc]

theorem afterAll_shift (p : Position) (cs : List Char) :
    (p.shift bytes lines).afterAll cs = (p.afterAll cs).shift bytes lines := by
  induction cs generalizing p with
  | nil => rfl
  | cons c cs ih => rw [afterAll_cons, after_shift, ih, afterAll_cons]

/-- Behind a text that ends a line, a line begins. -/
theorem start_afterAll_of_endsLine {cs : List Char} (h : EndsLine cs) :
    start.afterAll cs = start.shift (size cs) (cs.count '\n') := by
  -- Only the column could differ, and it is the length of the last line.
  have hlast : lastLine cs = [] := by
    rw [lastLine, List.rtakeWhile_eq_nil_iff]
    intro hne
    have hbreak := h.resolve_left hne
    rw [List.getLast?_eq_some_getLast hne, Option.some.injEq] at hbreak
    simp [hbreak]
  rw [start_afterAll, hlast]
  rfl

end Position

namespace Passage

theorem token_shift (p : Position) (g : Passage) :
    g.token limit (p.shift bytes lines) = (g.token limit p).shift bytes lines := by
  simp only [token, Position.afterAll_shift]
  rfl

theorem map_shift_lineBreaksIn (cs : List Char) :
    (lineBreaksIn cs).map (Occurrence.shift bytes lines) = lineBreaksIn cs := by
  rw [lineBreaksIn, List.map_replicate]
  rfl

theorem declaration_shift (p : Position) (name : List Char) :
    declaration limit (p.shift bytes lines) name =
      (declaration limit p name).map (Occurrence.shift bytes lines) := by
  unfold declaration
  split
  · rfl
  · rw [Position.afterAll_shift]
    rfl

theorem occurrences_shift (p : Position) (g : Passage) :
    g.occurrences limit (p.shift bytes lines) =
      (g.occurrences limit p).map (Occurrence.shift bytes lines) := by
  simp only [occurrences, token_shift, Position.afterAll_shift, declaration_shift, List.map_cons,
    List.map_append, map_shift_lineBreaksIn]
  rfl

theorem allOccurrences_shift (p : Position) (gs : List Passage) :
    allOccurrences limit (p.shift bytes lines) gs =
      (allOccurrences limit p gs).map (Occurrence.shift bytes lines) := by
  induction gs generalizing p with
  | nil => rfl
  | cons g gs ih =>
    simp only [allOccurrences, occurrences_shift, Position.afterAll_shift, ih, List.map_append]

end Passage

/-- What is come across further on is what is come across, further on. -/
theorem Layout.body_shift (p : Position) (y : Layout) :
    y.body limit (p.shift bytes lines) =
      (y.body limit p).map (Occurrence.shift bytes lines) := by
  simp only [body, Position.afterAll_shift, Passage.allOccurrences_shift, List.map_append,
    Passage.map_shift_lineBreaksIn]

end Shift

end UsageScan
