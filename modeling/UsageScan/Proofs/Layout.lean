import UsageScan.Proofs.Passage
/-!
# Layouts

The layout of a text divides it completely: blanks at the start, then passages. The tokens and the
occurrences of a source are read off its layout from left to right.

## Main definitions

* `Layout`, `Layout.ofText` — the blanks at the start of a text and its passages
* `Layout.tokens`, `Layout.occurrences` — a layout as it is told
* `Pull.occurrencesFrom` — all that is come across by pulls that go on to the end

## Main results

* `Pull.occurrencesFrom_mk` — pulls that go on to the end come across what the layout tells
-/

set_option autoImplicit false

namespace UsageScan

open Text

namespace Passage

/-- The tokens of passages that begin at a position. -/
def tokens (limit : Option Nat) : Position → List Passage → List Token
  | _, [] => []
  | p, g :: gs => g.token limit p :: tokens limit (p.afterAll g.chars) gs

/-- All that is come across in passages that begin at a position. -/
def allOccurrences (limit : Option Nat) : Position → List Passage → List Occurrence
  | _, [] => []
  | p, g :: gs => g.occurrences limit p ++ allOccurrences limit (p.afterAll g.chars) gs

end Passage

/-- A text divided into the blanks at its start and its passages. -/
structure Layout where
  lead : List Char
  passages : List Passage
deriving DecidableEq, Repr

namespace Layout

/-- The layout of a text. -/
def ofText (cs : List Char) : Layout :=
  ⟨cs.takeWhile isBlank, Passage.all (cs.dropWhile isBlank)⟩

/-- What does not begin with a blank is laid out in passages alone. -/
theorem ofText_cons {c : Char} (hc : isBlank c = false) (cs : List Char) :
    ofText (c :: cs) = ⟨[], Passage.all (c :: cs)⟩ := by
  rw [ofText, List.takeWhile_cons, List.dropWhile_cons, if_neg (by simp [hc]),
    if_neg (by simp [hc])]

/-- The tokens of a layout that begins at a position. -/
def tokens (limit : Option Nat) (p : Position) (y : Layout) : List Token :=
  Passage.tokens limit (p.afterAll y.lead) y.passages

/-- All that is come across in a layout that begins at a position, up to the end. -/
def occurrences (limit : Option Nat) (p : Position) (y : Layout) : List Occurrence :=
  Passage.lineBreaksIn y.lead ++
    (Passage.allOccurrences limit (p.afterAll y.lead) y.passages ++ [.endOfText])

end Layout

/-! ### Pulls that go on to the end -/

namespace Pull

/-- All that is come across from a cursor on: what each pull comes across, the line breaks before
the first one, and the end. -/
def occurrencesFrom (limit : Option Nat) (c : Cursor) : List Occurrence :=
  lineBreaks c c.skipBlanks ++
    match _h : read? limit c.skipBlanks with
    | none => [.endOfText]
    | some p => p.occurrences ++ if p.stop.atEnd then [] else occurrencesFrom limit p.stop
termination_by c.rest.length
decreasing_by exact Nat.lt_of_lt_of_le (length_read?_lt _h) (Cursor.length_eatWhile_le _ _)

theorem occurrencesFrom_of_none {limit : Option Nat} {c : Cursor}
    (h : read? limit c.skipBlanks = none) :
    occurrencesFrom limit c = lineBreaks c c.skipBlanks ++ [.endOfText] := by
  rw [occurrencesFrom]
  split <;> simp_all

theorem occurrencesFrom_of_some {limit : Option Nat} {c : Cursor} {p : Pull}
    (h : read? limit c.skipBlanks = some p) : occurrencesFrom limit c =
      lineBreaks c c.skipBlanks ++
        (p.occurrences ++ if p.stop.atEnd then [] else occurrencesFrom limit p.stop) := by
  rw [occurrencesFrom]
  split <;> simp_all

/-- In front of anything but a blank, pulls come across the passages one after another. -/
theorem occurrencesFrom_of_head (limit : Option Nat) (p : Position) (cs : List Char)
    (hcs : ∀ c ∈ cs.head?, isBlank c = false) : occurrencesFrom limit ⟨cs, p⟩ =
      Passage.allOccurrences limit p (Passage.all cs) ++ [.endOfText] := by
  induction cs using Passage.all.induct generalizing p with
  | case1 =>
    rw [occurrencesFrom_of_none (read?_nil limit p), Passage.all_nil]
    simp [Passage.allOccurrences, Cursor.skipBlanks, Cursor.eatWhile_mk, lineBreaks_self]
  | case2 c cs ih =>
    have hskip := Cursor.skipBlanks_cons p cs (hcs c (by simp))
    have hrest : ∀ d ∈ (Passage.front c cs).2.head?, isBlank d = false :=
      fun d => Passage.isBlank_of_mem_head?_front c cs
    rw [occurrencesFrom_of_some (by rw [hskip, read?_cons]), hskip, lineBreaks_self, ih _ hrest,
      Passage.all_cons]
    -- The end is told with the last pull, or behind the pulls that are still to come.
    cases (Passage.front c cs).2 with
    | nil => simp [Passage.allOccurrences, Passage.all_nil, Cursor.atEnd]
    | cons d rest => simp [Passage.allOccurrences, Cursor.atEnd]

/-- Blanks in front of a cursor only add their line breaks. -/
theorem occurrencesFrom_skipBlanks (limit : Option Nat) (c : Cursor) : occurrencesFrom limit c =
    lineBreaks c c.skipBlanks ++ occurrencesFrom limit c.skipBlanks := by
  have hskip := c.skipBlanks_skipBlanks
  cases h : read? limit c.skipBlanks with
  | none =>
    rw [occurrencesFrom_of_none h, occurrencesFrom_of_none (by rw [hskip, h]), hskip,
      lineBreaks_self, List.nil_append]
  | some q =>
    have hagain : read? limit c.skipBlanks.skipBlanks = some q := by rw [hskip, h]
    rw [occurrencesFrom_of_some h, occurrencesFrom_of_some hagain, hskip, lineBreaks_self,
      List.nil_append]

/-- Pulls that go on to the end come across what the layout of the text tells. -/
theorem occurrencesFrom_mk (limit : Option Nat) (p : Position) (cs : List Char) :
    occurrencesFrom limit ⟨cs, p⟩ = (Layout.ofText cs).occurrences limit p := by
  have hhead : ∀ c ∈ (cs.dropWhile isBlank).head?, isBlank c = false :=
    fun _ => Passage.isBlank_of_mem_head?_dropWhile
  rw [occurrencesFrom_skipBlanks, Cursor.skipBlanks, Cursor.eatWhile_mk, lineBreaks_afterAll,
    occurrencesFrom_of_head limit _ _ hhead]
  rfl

end Pull

end UsageScan
