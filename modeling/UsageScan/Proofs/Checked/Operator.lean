import UsageScan.Proofs.Checked.Lexeme
import UsageScan.Proofs.Checked.Walk
/-!
# Looking ahead for operators

The lookup of an operator starts from the three characters in front of a reader and drops one after
another at their end, until what is left is an operator or a single character. The reader has to
read the characters to look at them, over whatever line breaks there are among them, and then goes
back to where it was. From there it reads on as far as the operator goes, and so nothing is left of
its having looked ahead.

## Main definitions

* `shrinking?`, `matchOperator?` — the lookup, one candidate after another
* `Walker.LooksAhead` — reading an operator is reading its characters
* `OperatorsRead` — operators as they are looked up, and as they are read on walks

## Main results

* `shrinking?_eq_some_iff`, `matchOperator?_eq_none_iff` — the lookup finds the longest operator
* `longestOperator?_eq_matchOperator?` — and so does trying three candidates
* `Walker.Follows.looksAhead` — on any walk an operator is read and nothing else
* `operators_walk` — by the cursors as by the reader that may fail
-/

set_option autoImplicit false

namespace UsageScan

open Text

/-! ### The lookup -/

/-- The operator that a candidate is, or else what the candidate without its last character is. Of a
candidate that takes no more bytes than the first character, only that character is left. -/
def shrinking? (first : Char) (candidate : List Char) : Option String :=
  if first.utf8Size < size candidate then
    match longOperators.find? (· == .ofList candidate) with
    | some op => some op
    | none => shrinking? first candidate.dropLast
  else shortOperators.find? (· == .ofList candidate)
termination_by candidate.length
decreasing_by
  have hne : candidate ≠ [] := by
    rintro rfl
    contradiction
  rw [List.length_dropLast]
  exact Nat.sub_one_lt (List.length_eq_zero_iff.not.mpr hne)

/-- The operator that `first` and at most two of the characters ahead of it begin with. -/
def matchOperator? (first : Char) (ahead : List Char) : Option String :=
  shrinking? first (first :: ahead.take 2)

/-- Whether reading an operator on walks is reading its characters one by one. Here `scan` reads from
a place in front of a character, and `rest?` is the text in front of a place. -/
structure Walker.LooksAhead {σ : Type} (w : Walker σ) (start : σ)
    (scan : Char → σ → Option (Checked.Shown × σ)) (rest? : σ → Option (List Char)) : Prop where
  /-- An operator takes its characters. -/
  operator : ∀ ms t first ahead op, w.run? ⟨start, []⟩ ms = some t →
    rest? t.here = some (first :: ahead) → matchOperator? first ahead = some op →
      ∃ s, scan first t.here = some (⟨.operator, op.toList, .none⟩, s) ∧
        (w.run? ⟨start, []⟩ (ms ++ List.replicate op.length .bump)).map Walk.here = some s
  /-- A character that begins no operator takes itself. -/
  unknown : ∀ ms t first ahead, w.run? ⟨start, []⟩ ms = some t →
    rest? t.here = some (first :: ahead) → matchOperator? first ahead = none →
      ∃ s, scan first t.here = some (⟨.unknown, [first], .none⟩, s) ∧
        (w.run? ⟨start, []⟩ (ms ++ [.bump])).map Walk.here = some s

/-- How operators are looked up, and how they are read on walks through a text: by the cursors, and,
as long as the counts fit into 32 bits, by the reader that may fail. -/
structure OperatorsRead (text : String) : Prop where
  /-- Found is the longest operator that the first character makes with the next two. -/
  found_iff : ∀ first ahead op,
    matchOperator? first ahead = some op ↔ IsLongestOperator op (first :: ahead.take 2)
  none_iff : ∀ first ahead, matchOperator? first ahead = none ↔
    ∀ op ∈ operatorSpellings, ¬ op.toList <+: first :: ahead.take 2
  /-- Trying three candidates finds the same. -/
  candidates : ∀ first ahead, longestOperator? first ahead = matchOperator? first ahead
  cursor : Cursor.walker.LooksAhead (.ofText text)
    (fun first c => (Lexeme.operator? first c).map fun l => (⟨l.kind, l.text, l.flags⟩, l.stop))
    fun c => some c.rest
  reader : size text.toList < UInt32.size - 1 →
    Checked.Reader.walker.LooksAhead (.ofText text.toList) Checked.operator? Checked.Reader.rest?

section Lookup

variable {first : Char} {ahead candidate : List Char} {op : String}

/-- The operators of two or three characters are those that are no single character. -/
theorem mem_longOperators_iff :
    op ∈ longOperators ↔ op ∈ operatorSpellings ∧ 1 < op.length := by
  have hlong : ∀ op ∈ longOperators, 1 < op.length := by decide
  have hshort : ∀ op ∈ shortOperators, op.length = 1 := by decide
  rw [operatorSpellings, List.mem_append]
  constructor
  · intro h
    exact ⟨Or.inl h, hlong op h⟩
  · rintro ⟨h | h, hlength⟩
    · exact h
    · rw [hshort op h] at hlength
      contradiction

theorem mem_shortOperators_iff :
    op ∈ shortOperators ↔ op ∈ operatorSpellings ∧ op.length = 1 := by
  have hlong : ∀ op ∈ longOperators, 1 < op.length := by decide
  have hshort : ∀ op ∈ shortOperators, op.length = 1 := by decide
  rw [operatorSpellings, List.mem_append]
  constructor
  · intro h
    exact ⟨Or.inr h, hshort op h⟩
  · rintro ⟨h | h, hlength⟩
    · exact absurd hlength (Nat.ne_of_gt (hlong op h))
    · exact h

/-- An operator that is a whole text is the longest one that the text begins with. -/
theorem isLongestOperator_ofList (h : .ofList candidate ∈ operatorSpellings) :
    IsLongestOperator (.ofList candidate) candidate where
  mem := h
  begins := by simp
  longest op' _ hbegins := by
    rw [String.length_ofList, ← String.length_toList]
    exact hbegins.length_le

/-- What begins a text and is not the whole of it begins it without its last character. -/
theorem prefix_dropLast_iff {as bs : List Char} (h : as ≠ bs) :
    as <+: bs ↔ as <+: bs.dropLast := by
  constructor
  · intro hbegins
    rw [List.prefix_iff_eq_take.mp hbegins, List.dropLast_eq_take]
    apply List.take_prefix_take_left
    have := hbegins.length_le
    have hne : as.length ≠ bs.length := fun hlength => h (hbegins.eq_of_length hlength)
    omega
  · exact fun hbegins => hbegins.trans (List.dropLast_prefix bs)

/-- Going from one candidate to the next finds the longest operator that the first one begins
with. -/
theorem shrinking?_eq_some_iff {more : List Char} :
    shrinking? first (first :: more) = some op ↔ IsLongestOperator op (first :: more) := by
  generalize hcandidate : first :: more = candidate
  -- A candidate that is no operator begins with those that the next candidate begins with.
  fun_induction shrinking? first candidate generalizing more with
  | case1 candidate hlt found hfound =>
    obtain rfl : found = .ofList candidate := by simpa using List.find?_some hfound
    have hlongest : IsLongestOperator (.ofList candidate) candidate :=
      isLongestOperator_ofList (mem_longOperators_iff.mp (List.mem_of_find?_eq_some hfound)).1
    constructor
    · rintro h
      cases h
      exact hlongest
    · intro h
      rw [h.unique hlongest]
  | case2 candidate hlt hnone ih =>
    subst hcandidate
    obtain ⟨d, more, rfl⟩ : ∃ d more', more = d :: more' := by
      apply List.exists_cons_of_ne_nil
      rintro rfl
      simp at hlt
    rw [ih (List.dropLast_cons_cons ..).symm]
    apply isLongestOperator_congr
    intro op' hop'
    refine (prefix_dropLast_iff ?_).symm
    intro hwhole
    have hlong : op' ∈ longOperators := by
      refine mem_longOperators_iff.mpr ⟨hop', ?_⟩
      rw [← String.length_toList, hwhole]
      simp
    have := List.find?_eq_none.mp hnone op' hlong
    simp [← hwhole] at this
  | case3 candidate hle =>
    subst hcandidate
    obtain rfl : more = [] := by
      by_contra hne
      have := size_pos hne
      simp only [size_cons] at hle
      omega
    constructor
    · intro h
      obtain rfl : op = .ofList [first] := by simpa using List.find?_some h
      exact isLongestOperator_ofList (mem_shortOperators_iff.mp (List.mem_of_find?_eq_some h)).1
    · intro h
      have hpos := length_pos_of_mem_operatorSpellings h.mem
      have hle := h.begins.length_le
      rw [String.length_toList, List.length_singleton] at hle
      have hwhole : op = .ofList [first] := by
        rw [← h.begins.eq_of_length (by rw [String.length_toList, List.length_singleton]; omega),
          String.ofList_toList]
      have hshort : op ∈ shortOperators := mem_shortOperators_iff.mpr ⟨h.mem, by omega⟩
      cases hfound : shortOperators.find? (· == .ofList [first]) with
      | none => exact absurd hwhole (by simpa using List.find?_eq_none.mp hfound op hshort)
      | some found =>
        rw [hwhole]
        simpa using List.find?_some hfound

/-- Trying three candidates and going from one to the next find the same operator. -/
theorem longestOperator?_eq_matchOperator? (first : Char) (ahead : List Char) :
    longestOperator? first ahead = matchOperator? first ahead := by
  ext op
  rw [matchOperator?, shrinking?_eq_some_iff, ← longestOperator?_take,
    longestOperator?_eq_some_iff]

theorem matchOperator?_eq_none_iff : matchOperator? first ahead = none ↔
    ∀ op ∈ operatorSpellings, ¬ op.toList <+: first :: ahead.take 2 := by
  rw [← longestOperator?_eq_matchOperator?, ← longestOperator?_take]
  constructor
  · intro h op hop
    exact not_prefix_of_longestOperator? h hop
  · intro h
    cases hfound : longestOperator? first (ahead.take 2) with
    | none => rfl
    | some op =>
      have hop := longestOperator?_eq_some_iff.mp hfound
      exact absurd hop.begins (h op hop.mem)

end Lookup

/-! ### Reading on walks -/

/-- On any walk an operator is read and nothing else, by whoever reads the form of an operator at a
place of a text. -/
theorem Walker.Follows.looksAhead {σ : Type} {w : Walker σ} {text : List Char} {stand : Split → σ}
    {scan : Char → σ → Option (Checked.Shown × σ)} {rest? : σ → Option (List Char)}
    (h : w.Follows text stand) (hrest : ∀ x, x.text = text → rest? (stand x) = some x.rest)
    (hscan : ∀ x c cs, x.text = text → x.rest = c :: cs →
      scan c (stand x) = some (⟨(Form.operator c cs).1.kind, (Form.operator c cs).1.shown,
        (Form.operator c cs).1.flags⟩,
          stand ⟨x.read ++ (Form.operator c cs).1.word, (Form.operator c cs).2⟩)) :
    w.LooksAhead (stand ⟨[], text⟩) scan rest? := by
  -- A form that takes so many characters leads where so many single characters lead.
  have hreads {ms : List Move} {t : Walk σ} {first : Char} {ahead : List Char}
      {kind : Token.Kind} {n : Nat} (ht : w.run? ⟨stand ⟨[], text⟩, []⟩ ms = some t)
      (hfront : rest? t.here = some (first :: ahead))
      (hform : Form.operator first ahead = Form.first kind .none n (first :: ahead)) :
      ∃ s, scan first t.here = some (⟨kind, (first :: ahead).take n, .none⟩, s) ∧
        (w.run? ⟨stand ⟨[], text⟩, []⟩ (ms ++ List.replicate n .bump)).map Walk.here = some s := by
    obtain ⟨x, hx, hwithin, rfl⟩ := h.exists_of_run? ht
    have hahead : x.here.rest = first :: ahead :=
      Option.some.inj ((hrest _ hwithin.here).symm.trans hfront)
    have hscanned := hscan x.here first ahead hwithin.here hahead
    have hbumps := h.run? (Walk.within_start text) (ms ++ List.replicate n .bump)
    rw [run?_append_replicate_bump hx, hahead] at hbumps
    rw [hform] at hscanned
    exact ⟨_, hscanned, congrArg (Option.map Walk.here) hbumps⟩
  constructor
  case operator =>
    intro ms t first ahead op ht hfront hop
    rw [← longestOperator?_eq_matchOperator?] at hop
    have hword : (first :: ahead).take op.length = op.toList := by
      rw [← String.length_toList]
      exact (List.prefix_iff_eq_take.mp (longestOperator?_eq_some_iff.mp hop).begins).symm
    have hform : Form.operator first ahead =
        Form.first .operator .none op.length (first :: ahead) := by
      simp only [Form.operator, longestOperator?_take, hop]
    rw [← hword]
    exact hreads ht hfront hform
  case unknown =>
    intro ms t first ahead ht hfront hop
    rw [← longestOperator?_eq_matchOperator?] at hop
    have hform : Form.operator first ahead = Form.first .unknown .none 1 (first :: ahead) := by
      simp only [Form.operator, longestOperator?_take, hop]
    exact hreads ht hfront hform

/-- Operators are looked up and read as far as they go, and looking ahead for them leaves nothing
behind. -/
theorem operators_walk (text : String) : OperatorsRead text where
  found_iff first ahead op := shrinking?_eq_some_iff
  none_iff first ahead := matchOperator?_eq_none_iff
  candidates := longestOperator?_eq_matchOperator?
  cursor := by
    refine (Cursor.follows_walker text.toList).looksAhead (fun _ _ => rfl) ?_
    intro x c cs _ hx
    simp only [hx, Lexeme.operator?_cons, Option.map_some, Position.afterAll_append]
    rfl
  reader h := by
    have hfits : Checked.Fits text.toList := Nat.add_lt_of_lt_sub h
    refine (Checked.Reader.follows_walker hfits).looksAhead
      (fun _ _ => Checked.Reader.rest?_behind) ?_
    intro x c cs htext hx
    rw [← htext, Split.text, hx] at hfits
    simp only [hx]
    exact Checked.operator?_behind hfits

/-- An operator before a line break and a character of two bytes: both are looked at, and neither is
read. -/
theorem operators_walk_lines : size "=\né".toList < UInt32.size - 1 ∧ OperatorsRead "=\né" ∧
    matchOperator? '=' ['\n', 'é'] = some "=" ∧
      ((Lexeme.operator? '=' (.ofText "=\né")).map fun l => l.stop.position) = some ⟨1, 0, 1⟩ ∧
      ((Checked.operator? '=' (.ofText "=\né".toList)).map fun p => p.2.position) =
        some ⟨1, 0, 1⟩ := by
  have hread := operators_walk "=\né"
  refine ⟨by decide, hread, ?_, by decide, by decide⟩
  rw [← hread.candidates]
  decide

end UsageScan
