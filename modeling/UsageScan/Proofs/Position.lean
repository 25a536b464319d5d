import UsageScan.Position
import UsageScan.Text.Offset
import Mathlib.Data.List.DropRight
/-!
# Positions behind a text

A position is kept character by character. Here it is read off the text behind it at once: the bytes
of that text, its line breaks, and the characters of its last line.

## Main definitions

* `Text.lastLine` — the characters of a text behind its last line break

## Main results

* `Position.start_afterAll` — the position behind a text, counted in that text
-/

set_option autoImplicit false

namespace UsageScan

/-- The characters of a text behind its last line break, or all of them if it has none. -/
def Text.lastLine (cs : List Char) : List Char :=
  cs.rtakeWhile (· ≠ '\n')

/-- A text with a line break has a last one. -/
theorem Text.exists_last_break {cs : List Char} (h : '\n' ∈ cs) :
    ∃ as bs, cs = as ++ '\n' :: bs ∧ '\n' ∉ bs := by
  induction cs with
  | nil => cases h
  | cons c cs ih =>
    by_cases hcs : '\n' ∈ cs
    · obtain ⟨as, bs, rfl, hbs⟩ := ih hcs
      exact ⟨c :: as, bs, rfl, hbs⟩
    · obtain rfl | hmem := List.mem_cons.mp h
      · exact ⟨[], cs, rfl, hcs⟩
      · exact absurd hmem hcs

/-- A text has no more characters than bytes. -/
theorem Text.length_le_size (cs : List Char) : cs.length ≤ size cs := by
  induction cs with
  | nil => exact Nat.le_refl _
  | cons c cs ih =>
    have hpos := c.utf8Size_pos
    simp only [List.length_cons, size_cons]
    omega

namespace Position

@[simp] theorem offset_afterAll (p : Position) (cs : List Char) :
    (p.afterAll cs).offset = p.offset + Text.size cs := by
  induction cs generalizing p with
  | nil => rfl
  | cons c cs ih =>
    -- A line feed takes its bytes like any other character.
    have hone : (p.after c).offset = p.offset + c.utf8Size := by
      unfold after
      split <;> rfl
    rw [afterAll_cons, ih, hone, Text.size_cons, Nat.add_assoc]

@[simp] theorem newlines_afterAll (p : Position) (cs : List Char) :
    (p.afterAll cs).newlines = p.newlines + cs.count '\n' := by
  induction cs generalizing p with
  | nil => rfl
  | cons c cs ih =>
    rw [afterAll_cons, ih]
    by_cases hc : c = '\n'
    · rw [after, if_pos hc, hc, List.count_cons_self]
      exact Nat.add_right_comm ..
    · rw [after, if_neg hc, List.count_cons_of_ne hc]

theorem offset_start_afterAll (cs : List Char) : (start.afterAll cs).offset = Text.size cs := by
  rw [offset_afterAll]
  exact Nat.zero_add _

/-- The bytes and the line breaks behind a text, counted in that text. -/
theorem afterAll_eq (p : Position) (cs : List Char) : p.afterAll cs =
    ⟨p.offset + Text.size cs, p.newlines + cs.count '\n', (p.afterAll cs).column⟩ := by
  rw [← offset_afterAll, ← newlines_afterAll]

/-- Within a line the column counts the characters. -/
theorem column_afterAll_of_notMem (p : Position) {cs : List Char} (h : '\n' ∉ cs) :
    (p.afterAll cs).column = p.column + cs.length := by
  induction cs generalizing p with
  | nil => rfl
  | cons c cs ih =>
    obtain ⟨hc, hcs⟩ := not_or.mp (mt List.mem_cons.mpr h)
    rw [afterAll_cons, ih _ hcs, after, if_neg (Ne.symm hc), List.length_cons]
    exact Nat.add_right_comm ..

/-- Behind a line break the column counts anew. -/
theorem column_afterAll_append_cons (p : Position) (as : List Char) {bs : List Char}
    (h : '\n' ∉ bs) : (p.afterAll (as ++ '\n' :: bs)).column = bs.length := by
  rw [afterAll_append, afterAll_cons, column_afterAll_of_notMem _ h, after, if_pos rfl, Nat.zero_add]

/-- The column at the end of a text is the length of its last line. The induction adds characters at
the end, where the column is made. -/
theorem column_start_afterAll (cs : List Char) :
    (start.afterAll cs).column = (Text.lastLine cs).length := by
  induction cs using List.reverseRecOn with
  | nil => rfl
  | append_singleton cs c ih =>
    rw [afterAll_append, afterAll_cons, afterAll_nil, Text.lastLine]
    by_cases hc : c = '\n'
    · simp [after, hc]
    · rw [List.rtakeWhile_concat_pos _ _ _ (by simpa using hc), after, if_neg hc, ih]
      simp [Text.lastLine]

/-- The position behind a text, counted in that text. -/
theorem start_afterAll (cs : List Char) :
    start.afterAll cs = ⟨Text.size cs, cs.count '\n', (Text.lastLine cs).length⟩ := by
  have hnewlines : (start.afterAll cs).newlines = cs.count '\n' := by simp [start]
  rw [← offset_start_afterAll, ← hnewlines, ← column_start_afterAll]

/-- There are no more line breaks in a text than bytes. -/
theorem newlines_start_afterAll_le (cs : List Char) :
    (start.afterAll cs).newlines ≤ Text.size cs := by
  rw [start_afterAll]
  exact Nat.le_trans List.count_le_length (Text.length_le_size cs)

/-- There are no more characters in the last line of a text than bytes in the text. -/
theorem column_start_afterAll_le (cs : List Char) : (start.afterAll cs).column ≤ Text.size cs := by
  rw [column_start_afterAll, Text.lastLine]
  exact Nat.le_trans (List.rtakeWhile_suffix _ cs).length_le (Text.length_le_size cs)

end Position

end UsageScan
