import UsageScan.Proofs.Passage
import UsageScan.Proofs.Token.Operator
/-!
# The end of a line

Where a line has ended, what was read before does not depend on what comes next. Names, numbers,
line comments and operators never reach past a line break, and a string or a block comment that is
closed has ended by itself.

## Main definitions

* `Text.EndsLine` — a text behind which a line begins

## Main results

* `Form.front_append` — a form that is closed before the text goes on
-/

set_option autoImplicit false

namespace UsageScan

open Text

/-! ### Runs of characters -/

namespace Text

/-- A text that is empty or ends with a line break. -/
def EndsLine (cs : List Char) : Prop :=
  cs = [] ∨ cs.getLast? = some '\n'
deriving Decidable

variable {cs : List Char}

/-- What a text ends with ends a line if the text does. -/
theorem EndsLine.of_suffix {ds : List Char} (h : EndsLine cs) (hds : ds <:+ cs) : EndsLine ds := by
  obtain ⟨front, rfl⟩ := hds
  rcases h with hempty | hlast
  · exact Or.inl (List.append_eq_nil_iff.mp hempty).2
  · rw [List.getLast?_append] at hlast
    cases hds : ds.getLast? with
    | none => exact Or.inl (List.getLast?_eq_none_iff.mp hds)
    | some c =>
      rw [hds] at hlast
      exact Or.inr (hds.trans hlast)

/-- Behind anything but a blank, a text that ends a line has a line break. -/
theorem EndsLine.mem_of_cons {c : Char} (h : EndsLine (c :: cs)) (hc : isBlank c = false) :
    '\n' ∈ cs := by
  rcases h with hempty | hlast
  · contradiction
  · rcases List.mem_cons.mp (List.mem_of_getLast? hlast) with rfl | hmem
    · contradiction
    · exact hmem

/-- So it has one behind the blanks at its start, if it has anything else than blanks. -/
theorem EndsLine.mem_dropWhile (h : EndsLine cs) {c : Char} (hc : c ∈ cs)
    (hblank : isBlank c = false) : '\n' ∈ cs.dropWhile isBlank := by
  have hrest := h.of_suffix (List.dropWhile_suffix isBlank)
  have hhead := List.head?_dropWhile_not isBlank cs
  cases hdrop : cs.dropWhile isBlank with
  | nil =>
    rw [List.dropWhile_eq_nil_iff] at hdrop
    rw [hdrop c hc] at hblank
    contradiction
  | cons d ds =>
    rw [hdrop] at hrest hhead
    exact List.mem_cons_of_mem d (hrest.mem_of_cons (by simpa using hhead))

/-- A run stops within a text that has a character where it stops. -/
theorem takeWhile_append_of_mem {p : Char → Bool} {d : Char} (hd : d ∈ cs) (hp : p d = false)
    (more : List Char) : (cs ++ more).takeWhile p = cs.takeWhile p := by
  induction cs with
  | nil => contradiction
  | cons c cs ih =>
    rw [List.cons_append, List.takeWhile_cons, List.takeWhile_cons]
    by_cases hc : p c = true
    · have hne : d ≠ c := by
        rintro rfl
        rw [hp] at hc
        contradiction
      rw [if_pos hc, if_pos hc, ih ((List.mem_cons.mp hd).resolve_left hne)]
    · rw [if_neg hc, if_neg hc]

theorem dropWhile_append_of_mem {p : Char → Bool} {d : Char} (hd : d ∈ cs) (hp : p d = false)
    (more : List Char) : (cs ++ more).dropWhile p = cs.dropWhile p ++ more := by
  -- Both sides make up the same text behind the same run.
  have hsplit : (cs ++ more).takeWhile p ++ (cs ++ more).dropWhile p =
      cs.takeWhile p ++ (cs.dropWhile p ++ more) := by
    rw [List.takeWhile_append_dropWhile, ← List.append_assoc, List.takeWhile_append_dropWhile]
  rw [takeWhile_append_of_mem hd hp] at hsplit
  exact List.append_cancel_left hsplit

end Text

/-! ### Strings -/

namespace Lexeme

theorem stringLength_le (quote : Char) (read : Nat) (cs : List Char) :
    (stringLength quote read cs).1 ≤ read + cs.length := by
  fun_induction stringLength quote read cs with
  | case1 => exact Nat.le_refl _
  | case2 => exact Nat.le_refl _
  | case3 read c cs ih =>
    simp only [List.length_cons]
    omega
  | case4 read cs =>
    simp only [List.length_cons]
    omega
  | case5 read c cs hescape hquote ih =>
    simp only [List.length_cons]
    omega

/-- A string that is closed does not depend on what comes behind it. -/
theorem stringLength_append {quote : Char} {read : Nat} {cs : List Char}
    (h : (stringLength quote read cs).2 = true) (more : List Char) :
    stringLength quote read (cs ++ more) = stringLength quote read cs := by
  -- The two cases that see the end of the text are those of a string that is not closed.
  fun_induction stringLength quote read cs with
  | case1 => contradiction
  | case2 => contradiction
  | case3 read c cs ih => simpa [stringLength] using ih h
  | case4 read cs hescape =>
    rw [List.cons_append, stringLength.eq_def]
    simp [hescape]
  | case5 read c cs hescape hquote ih =>
    rw [List.cons_append, stringLength.eq_def]
    simpa [hescape, hquote] using ih h

end Lexeme

/-! ### Forms -/

namespace Form

variable {c : Char} {cs : List Char}

theorem run_append (kind : Token.Kind) (flags : Token.Flags) {p : Char → Bool} {d : Char}
    (h : d ∈ cs) (hp : p d = false) (more : List Char) : run kind flags p c (cs ++ more) =
      ((run kind flags p c cs).1, (run kind flags p c cs).2 ++ more) := by
  rw [run, takeWhile_append_of_mem h hp, dropWhile_append_of_mem h hp]
  rfl

theorem first_append (kind : Token.Kind) (flags : Token.Flags) {length : Nat}
    (h : length ≤ cs.length) (more : List Char) : first kind flags length (cs ++ more) =
      ((first kind flags length cs).1, (first kind flags length cs).2 ++ more) := by
  rw [first, List.take_append_of_le_length h, List.drop_append_of_le_length h]
  rfl

theorem string_append (h : (string c cs).1.flags.unterminated = false) (more : List Char) :
    string c (cs ++ more) = ((string c cs).1, (string c cs).2 ++ more) := by
  have hclosed : (Lexeme.stringLength c 0 cs).2 = true := by simpa [string, first] using h
  -- The count goes on from the quote and stays within the text.
  have hlength : (Lexeme.stringLength c 0 cs).1 + 1 ≤ (c :: cs).length := by
    have hle := Lexeme.stringLength_le c 0 cs
    simp only [List.length_cons]
    omega
  rw [string, Lexeme.stringLength_append hclosed, ← List.cons_append, first_append _ _ hlength]
  rfl

theorem block_append (h : (block cs).1.flags.unterminated = false) (more : List Char) :
    block (cs ++ more) = ((block cs).1, (block cs).2 ++ more) := by
  unfold block at h ⊢
  cases hcut : cut? ['*', '/'] cs with
  | none => simp [hcut] at h
  | some parts => rw [cut?_append more hcut]

theorem operator_append (h : '\n' ∈ cs) (more : List Char) :
    operator c (cs ++ more) = ((operator c cs).1, (operator c cs).2 ++ more) := by
  unfold operator
  rw [longestOperator?_take, longestOperator?_take, longestOperator?_append h]
  cases hfound : longestOperator? c cs with
  | none => rfl
  | some op =>
    have hle := (isLongest_of_longestOperator? hfound).2.1.length_le
    rw [String.length_toList] at hle
    exact first_append .operator .none hle more

/-- A form that is closed does not depend on what comes behind the end of its line. -/
theorem front_append (h : '\n' ∈ cs) (hclosed : (front c cs).1.flags.unterminated = false)
    (more : List Char) : front c (cs ++ more) = ((front c cs).1, (front c cs).2 ++ more) := by
  have hne : cs ≠ [] := List.ne_nil_of_mem h
  have hone {kind flags} : first kind flags 1 (c :: (cs ++ more)) =
      ((first kind flags 1 (c :: cs)).1, (first kind flags 1 (c :: cs)).2 ++ more) := rfl
  -- The choice of the class looks at two characters, and the second one is the same.
  unfold front at hclosed ⊢
  rw [List.head?_append_of_ne_nil cs hne, takeWhile_append_of_mem h (by decide),
    List.tail_append_of_ne_nil hne]
  split_ifs at hclosed ⊢ with hstart hdigit hdot hfraction hquote hline hblock hdelimiter
  · exact run_append _ _ h (by decide) more
  · exact run_append _ _ h (by decide) more
  · exact run_append _ _ h (by decide) more
  · exact hone
  · exact string_append hclosed more
  · exact run_append _ _ h (by decide) more
  · exact block_append hclosed more
  · exact hone
  · exact operator_append h more

end Form

end UsageScan
