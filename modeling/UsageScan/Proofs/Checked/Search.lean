import UsageScan.Proofs.Checked.Walk
/-!
# Searches on a walk

A search goes on from a place of a walk through the bytes of the text and gives back a byte offset,
for others to leap to or to cut the text at. Neither works inside a character. But the bytes of some
characters stand nowhere but where those characters stand, and so what is found begins where a
character begins and ends where another begins or the text ends.

The cursors look for characters and the readers for bytes; both find the first bytes.

## Main definitions

* `Text.IsBoundary` — an offset at which a character begins or the text ends
* `Walker.Lands` — an offset that can be leapt to and cut at
* `Walker.Searches`, `SearchesLand` — what searches on walks find, and where they land

## Main results

* `Text.exists_slice?_of_isBoundary` — a text can be cut between any two boundaries
* `Walker.Follows.searches` — whoever follows the rule lands on boundaries
* `searches_walk` — the cursors and the readers do
-/

set_option autoImplicit false

namespace UsageScan

open Text

/-! ### What searches find -/

/-- Whether a byte offset lies where a character of a text begins or where the text ends. -/
def Text.IsBoundary (text : List Char) (offset : Nat) : Prop :=
  ∃ before, before <+: text ∧ size before = offset

/-- Whether an offset can be used at the place that some moves lead to. -/
structure Walker.Lands {σ : Type} (w : Walker σ) (text : List Char) (start : σ) (ms : List Move)
    (offset : Nat) : Prop where
  boundary : IsBoundary text offset
  /-- A leap gets there. -/
  leap : ∃ t, w.run? ⟨start, []⟩ (ms ++ [.advanceTo offset]) = some t ∧
    (w.position t.here).offset = offset
  /-- The text can be cut from any boundary before it up to it. -/
  slice_to : ∀ first, IsBoundary text first → first ≤ offset →
    ∃ word, slice? text first offset = some word
  /-- The text can be cut from it up to any boundary behind it. -/
  slice_from : ∀ last, IsBoundary text last → offset ≤ last →
    ∃ word, slice? text offset last = some word

/-- What is found by searches on walks through a text. -/
structure Walker.Searches {σ : Type} (w : Walker σ) (text : List Char) (start : σ)
    (find? : String → σ → Option (Option Nat)) (lineEnd? : σ → Option Nat) : Prop where
  /-- A walk gets to boundaries only. -/
  place : ∀ ms t, w.run? ⟨start, []⟩ ms = some t → IsBoundary text (w.position t.here).offset
  /-- Found is the least offset from here on at which the bytes of the characters stand. -/
  find?_eq : ∀ ms t needle, w.run? ⟨start, []⟩ ms = some t → ∃ found,
    find? needle t.here = some found ∧
      (∀ offset, found = some offset ↔ IsLeast {i | (w.position t.here).offset ≤ i ∧
        Bytes.OccursAt (utf8 needle.toList) (utf8 text) i} offset) ∧
      (found = none ↔ ∀ i, (w.position t.here).offset ≤ i →
        ¬ Bytes.OccursAt (utf8 needle.toList) (utf8 text) i)
  /-- What is found begins and ends where it can be used, and is what was looked for. -/
  find?_lands : ∀ ms t needle offset, w.run? ⟨start, []⟩ ms = some t →
    find? needle t.here = some (some offset) →
      w.Lands text start ms offset ∧ w.Lands text start ms (offset + size needle.toList) ∧
        slice? text offset (offset + size needle.toList) = some needle.toList
  /-- The line ends at the least offset from here on that holds the byte of a line break, or else
  where the text ends. -/
  lineEnd?_eq : ∀ ms t, w.run? ⟨start, []⟩ ms = some t → ∃ stop, lineEnd? t.here = some stop ∧
    (∀ offset, IsLeast {i | (w.position t.here).offset ≤ i ∧ (utf8 text)[i]? = some (byte '\n')}
      offset → stop = offset) ∧
    ((∀ i, (w.position t.here).offset ≤ i → (utf8 text)[i]? ≠ some (byte '\n')) →
      stop = size text)
  lineEnd?_lands : ∀ ms t stop, w.run? ⟨start, []⟩ ms = some t → lineEnd? t.here = some stop →
    w.Lands text start ms stop

/-- The searches on walks through a text by the cursors, and, as long as the counts fit into 32
bits, by the reader that may fail. -/
structure SearchesLand (text : String) : Prop where
  cursor : Cursor.walker.Searches text.toList (.ofText text)
    (fun needle c => some (c.find? needle)) fun c => some c.lineEnd
  reader : size text.toList < UInt32.size - 1 →
    Checked.Reader.walker.Searches text.toList (.ofText text.toList)
      (fun needle r => r.find? needle.toList) Checked.Reader.lineEnd?

/-! ### Boundaries -/

namespace Text

theorem isBoundary_size_append (read rest : List Char) : IsBoundary (read ++ rest) (size read) :=
  ⟨read, List.prefix_append .., rfl⟩

/-- A text can be cut between any two boundaries that are in order. -/
theorem exists_slice?_of_isBoundary {cs : List Char} {start stop : Nat} (hstart : IsBoundary cs start)
    (hstop : IsBoundary cs stop) (hle : start ≤ stop) : ∃ word, slice? cs start stop = some word := by
  obtain ⟨before, hbefore, rfl⟩ := hstart
  obtain ⟨whole, ⟨behind, rfl⟩, rfl⟩ := hstop
  obtain ⟨word, rfl⟩ := prefix_of_size_le hbefore (List.prefix_append whole behind) hle
  exact ⟨word, slice?_eq_some_iff.mpr ⟨before, behind, rfl, rfl, (size_append ..).symm⟩⟩

section Ahead

variable (needle read rest : List Char)

/-- The least offset from the end of a first part on at which the bytes of some characters stand is
that of the cut of the rest. -/
theorem map_cut?_eq_some_iff {o : Nat} :
    ((cut? needle rest).map fun parts => size read + size parts.1) = some o ↔
      IsLeast {i | size read ≤ i ∧ Bytes.OccursAt (utf8 needle) (utf8 (read ++ rest)) i} o := by
  have hbytes := Bytes.find?_ahead_eq_some_iff (utf8 needle) (utf8 read) (utf8 rest) (i := o)
  rw [find?_utf8, Option.map_map, length_utf8, ← utf8_append] at hbytes
  exact hbytes

theorem map_cut?_eq_none_iff :
    ((cut? needle rest).map fun parts => size read + size parts.1) = none ↔
      ∀ i, size read ≤ i → ¬ Bytes.OccursAt (utf8 needle) (utf8 (read ++ rest)) i := by
  have hbytes := Bytes.find?_ahead_eq_none_iff (utf8 needle) (utf8 read) (utf8 rest)
  rw [find?_utf8, Option.map_map, length_utf8, ← utf8_append] at hbytes
  exact hbytes

/-- The line ahead ends where the text is cut at a line break, or else where it ends itself. -/
theorem size_line_ahead : size read + size (rest.takeWhile (!isLineBreak ·)) =
    ((cut? ['\n'] rest).map fun parts => size read + size parts.1).getD (size (read ++ rest)) := by
  rw [← Checked.Reader.getD_cut?_lineBreak, size_append]
  cases cut? ['\n'] rest <;> rfl

end Ahead

/-- The bytes of a line break are one byte. -/
theorem occursAt_lineBreak_iff {bs : List UInt8} {i : Nat} :
    Bytes.OccursAt (utf8 ['\n']) bs i ↔ bs[i]? = some (byte '\n') :=
  Bytes.occursAt_singleton_iff

end Text

/-! ### Searches by the rule -/

namespace Walker.Follows

variable {σ : Type} {w : Walker σ} {text : List Char} {stand : Split → σ}

/-- A walk gets to the end of a first part of the text. -/
theorem exists_division (h : w.Follows text stand) {ms : List Move} {t : Walk σ}
    (ht : w.run? ⟨stand ⟨[], text⟩, []⟩ ms = some t) :
    ∃ x, Split.walker.run? ⟨⟨[], text⟩, []⟩ ms = some x ∧ x.here.read ++ x.here.rest = text ∧
      t.here = stand x.here ∧ (w.position t.here).offset = size x.here.read := by
  obtain ⟨x, hx, hwithin, rfl⟩ := h.exists_of_run? ht
  exact ⟨x, hx, hwithin.here, rfl, congrArg Position.offset (h.position _ hwithin.here)⟩

/-- The end of whatever is read next can be used. -/
theorem lands (h : w.Follows text stand) {ms : List Move} {x : Walk Split}
    (hx : Split.walker.run? ⟨⟨[], text⟩, []⟩ ms = some x) {word behind : List Char}
    (hrest : x.here.rest = word ++ behind) :
    w.Lands text (stand ⟨[], text⟩) ms (size (x.here.read ++ word)) := by
  have hstart := Walk.within_start text
  have htext : x.here.read ++ word ++ behind = text := by
    rw [List.append_assoc, ← hrest]
    exact (hstart.run? hx).here
  have hboundary : IsBoundary text (size (x.here.read ++ word)) :=
    ⟨x.here.read ++ word, ⟨behind, htext⟩, rfl⟩
  have hleap : Split.walker.advanceTo? (size (x.here.read ++ word)) x.here =
      some ⟨x.here.read ++ word, behind⟩ :=
    Split.advanceTo?_eq_some_iff.mpr ⟨word, hrest, rfl, rfl⟩
  have hrun : Split.walker.run? ⟨⟨[], text⟩, []⟩
      (ms ++ [.advanceTo (size (x.here.read ++ word))]) =
        some ⟨⟨x.here.read ++ word, behind⟩, x.kept⟩ := by
    rw [run?_append, hx, Option.bind_some, Walker.run?, Walker.step?, hleap]
    rfl
  refine ⟨hboundary, ⟨_, (h.run? hstart _).trans (congrArg _ hrun), ?_⟩,
    fun first hfirst hle => exists_slice?_of_isBoundary hfirst hboundary hle,
    fun last hlast hle => exists_slice?_of_isBoundary hboundary hlast hle⟩
  exact congrArg Position.offset (h.position ⟨x.here.read ++ word, behind⟩ htext)

/-- Who follows the rule, and finds where the text in front is cut and where its line ends, lands on
boundaries. -/
theorem searches {find? : String → σ → Option (Option Nat)} {lineEnd? : σ → Option Nat}
    (h : w.Follows text stand)
    (hfind : ∀ x needle, x.text = text → find? needle (stand x) =
      some ((cut? needle.toList x.rest).map fun parts => size x.read + size parts.1))
    (hline : ∀ x, x.text = text → lineEnd? (stand x) =
      some (size x.read + size (x.rest.takeWhile (!isLineBreak ·)))) :
    w.Searches text (stand ⟨[], text⟩) find? lineEnd? := by
  constructor
  case place =>
    intro ms t ht
    obtain ⟨x, -, htext, -, hoffset⟩ := h.exists_division ht
    rw [hoffset, ← htext]
    exact isBoundary_size_append ..
  case find?_eq =>
    intro ms t needle ht
    obtain ⟨x, -, htext, hhere, hoffset⟩ := h.exists_division ht
    rw [hoffset, hhere, hfind _ needle htext, ← htext]
    exact ⟨_, rfl, fun _ => map_cut?_eq_some_iff .., map_cut?_eq_none_iff ..⟩
  case find?_lands =>
    intro ms t needle offset ht hfound
    obtain ⟨x, hx, htext, hhere, -⟩ := h.exists_division ht
    rw [hhere, hfind _ needle htext, Option.some_inj] at hfound
    obtain ⟨⟨before, behind⟩, hcut, rfl⟩ := Option.map_eq_some_iff.mp hfound
    -- What is in front is what comes before the characters, the characters, and what is behind.
    have hrest := append_of_cut? hcut
    have hbegin := h.lands hx (hrest.trans (List.append_assoc ..))
    have hend := h.lands hx hrest
    rw [← List.append_assoc, size_append, size_append] at hend
    rw [size_append] at hbegin
    refine ⟨hbegin, hend, slice?_eq_some_iff.mpr ⟨x.here.read ++ before, behind, ?_, ?_, rfl⟩⟩
    · rw [← htext, hrest]
      simp only [List.append_assoc]
    · exact size_append ..
  case lineEnd?_eq =>
    intro ms t ht
    obtain ⟨x, -, htext, hhere, hoffset⟩ := h.exists_division ht
    -- The end of the line is where a search for a line break ends, if there is one.
    have hsome {i : Nat} := map_cut?_eq_some_iff ['\n'] x.here.read x.here.rest (o := i)
    have hnone := map_cut?_eq_none_iff ['\n'] x.here.read x.here.rest
    simp only [occursAt_lineBreak_iff] at hsome hnone
    rw [hoffset, hhere, hline _ htext, ← htext, size_line_ahead]
    refine ⟨_, rfl, ?_, ?_⟩
    · intro offset hleast
      rw [hsome.mpr hleast, Option.getD_some]
    · intro hnever
      rw [hnone.mpr hnever, Option.getD_none]
  case lineEnd?_lands =>
    intro ms t stop ht hstop
    obtain ⟨x, hx, htext, hhere, -⟩ := h.exists_division ht
    rw [hhere, hline _ htext, Option.some_inj, ← size_append] at hstop
    rw [← hstop]
    exact h.lands hx (List.takeWhile_append_dropWhile).symm

end Walker.Follows

/-- Searches on all walks through a text find the first bytes and land on boundaries. -/
theorem searches_walk (text : String) : SearchesLand text where
  cursor := by
    refine (Cursor.follows_walker text.toList).searches ?_ ?_
    · intro x needle _
      rw [Cursor.find?_mk, Position.offset_start_afterAll]
    · intro x _
      rw [Cursor.lineEnd_mk, Position.offset_start_afterAll]
  reader h := by
    have hfits : Checked.Fits text.toList := Nat.add_lt_of_lt_sub h
    exact (Checked.Reader.follows_walker hfits).searches
      (fun x needle _ => Checked.Reader.find?_behind needle.toList)
      fun x _ => Checked.Reader.lineEnd?_behind

/-- Both characters end with the same byte, but a search for the second one passes over that of the
first. -/
example : (Cursor.ofText "é©").find? "©" = some 2 ∧
    (utf8 ['é']).getLast? = (utf8 ['©']).getLast? := by decide

end UsageScan
