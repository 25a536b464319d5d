import UsageScan.Cursor
import UsageScan.Proofs.Position
import UsageScan.Proofs.Text.Cut
/-!
# Cursors in front of a text

What the operations of a cursor do when the text in front of it is known to begin with some word:
they read the word, and the cursor then stands in front of the rest at the position behind the word.
So a cursor is never asked how it counts.

## Main results

* `Cursor.skip_mk` — reading a number of characters
* `Cursor.advanceTo?_append`, `Cursor.textTo?_append` — reading a word by the offset behind it, or as
  the text between two cursors
* `Cursor.find?_mk` — a search, by the part of the text before its first hit
-/

set_option autoImplicit false

namespace UsageScan.Cursor

open Text

variable (p : Position) (word rest : List Char)

/-- Reading a number of characters takes them off the front. At the end of the text both sides
stay. -/
theorem skip_mk (n : Nat) :
    (⟨rest, p⟩ : Cursor).skip n = ⟨rest.drop n, p.afterAll (rest.take n)⟩ := by
  induction n generalizing p rest with
  | zero => rfl
  | succ n ih =>
    cases rest with
    | nil => exact (ih p []).trans (by simp)
    | cons c rest => exact ih (p.after c) rest

theorem eatWhile_mk (f : Char → Bool) :
    (⟨rest, p⟩ : Cursor).eatWhile f = ⟨rest.dropWhile f, p.afterAll (rest.takeWhile f)⟩ :=
  rfl

/-- In front of anything but a blank there is nothing to skip. -/
theorem skipBlanks_cons {c : Char} (hc : isBlank c = false) :
    (⟨c :: rest, p⟩ : Cursor).skipBlanks = ⟨c :: rest, p⟩ := by
  simp [skipBlanks, eatWhile_mk, hc]

/-- Behind the blanks at the front of a text there is no further blank. -/
theorem takeWhile_isBlank_dropWhile (cs : List Char) :
    (cs.dropWhile isBlank).takeWhile isBlank = [] := by
  rw [List.takeWhile_eq_nil_iff]
  intro hpos
  simpa using List.dropWhile_get_zero_not isBlank cs hpos

/-- Behind skipped blanks there is nothing more to skip. -/
theorem skipBlanks_skipBlanks (c : Cursor) : c.skipBlanks.skipBlanks = c.skipBlanks := by
  simp [skipBlanks, eatWhile, takeWhile_isBlank_dropWhile, List.dropWhile_idempotent]

/-- Jumping to the offset behind a word leads behind the word. -/
theorem advanceTo?_append :
    (⟨word ++ rest, p⟩ : Cursor).advanceTo? (p.offset + size word) =
      some ⟨rest, p.afterAll word⟩ := by
  have hle : ¬ p.offset + size word < p.offset := by omega
  simp [advanceTo?, offset, hle, splitAt?_size_append]

/-- The text up to a cursor behind a word is the word. -/
theorem textTo?_append (rest' : List Char) :
    (⟨word ++ rest, p⟩ : Cursor).textTo? ⟨rest', p.afterAll word⟩ = some word := by
  have hle : ¬ p.offset + size word < p.offset := by omega
  simp [textTo?, offset, hle, splitAt?_size_append]

/-- The text up to the end of a run is the run. -/
theorem textTo?_eatWhile (f : Char → Bool) :
    (⟨rest, p⟩ : Cursor).textTo? ((⟨rest, p⟩ : Cursor).eatWhile f) =
      some (rest.takeWhile f) := by
  simpa only [List.takeWhile_append_dropWhile, eatWhile_mk] using
    textTo?_append p (rest.takeWhile f) (rest.dropWhile f) (rest.dropWhile f)

theorem endOffset_mk : (⟨rest, p⟩ : Cursor).endOffset = p.offset + size rest :=
  p.offset_afterAll rest

theorem lineEnd_mk : (⟨rest, p⟩ : Cursor).lineEnd =
    p.offset + size (rest.takeWhile fun c => !isLineBreak c) :=
  p.offset_afterAll _

theorem find?_mk (needle : String) : (⟨rest, p⟩ : Cursor).find? needle =
    (cut? needle.toList rest).map fun parts => p.offset + size parts.1 :=
  findFrom?_eq_map_cut? _ _ _

end UsageScan.Cursor
