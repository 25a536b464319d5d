import UsageScan.Token.Operator
import Mathlib.Data.List.Basic
/-!
# The longest operator

The lookup of an operator tries a few texts only. It finds the longest spelling that the text begins
with all the same, because no spelling is longer than three characters.

## Main definitions

* `IsLongestOperator` — the longest spelling that a text begins with

## Main results

* `mem_operatorCandidates_iff` — a spelling is tried exactly if the text begins with it
* `longestOperator?_eq_some_iff`, `not_prefix_of_longestOperator?` — the lookup finds the longest
  spelling, or there is none
* `longestOperator?_append` — the lookup does not see past the end of a line
-/

set_option autoImplicit false

namespace UsageScan

/-- An operator is the longest one that a text begins with. -/
structure IsLongestOperator (op : String) (text : List Char) : Prop where
  mem : op ∈ operatorSpellings
  begins : op.toList <+: text
  longest : ∀ op' ∈ operatorSpellings, op'.toList <+: text → op'.length ≤ op.length

variable {c : Char} {cs : List Char} {op : String}

/-- Only two characters ahead count. -/
theorem longestOperator?_take (c : Char) (cs : List Char) :
    longestOperator? c (cs.take 2) = longestOperator? c cs := by
  simp [longestOperator?, operatorCandidates, List.take_take]

theorem length_le_of_mem_operatorSpellings (h : op ∈ operatorSpellings) : op.length ≤ 3 := by
  have hall : ∀ op ∈ operatorSpellings, op.length ≤ 3 := by decide
  exact hall op h

/-- The text begins with whatever is tried. -/
theorem prefix_of_mem_operatorCandidates (h : op ∈ operatorCandidates c cs) :
    op.toList <+: c :: cs := by
  simp only [operatorCandidates, List.mem_cons, List.not_mem_nil, or_false] at h
  rcases h with rfl | rfl | rfl
  · simpa using List.take_prefix 2 cs
  · simpa using List.take_prefix 1 cs
  · simp

/-- A spelling is tried exactly if the text begins with it. -/
theorem mem_operatorCandidates_iff (h : op ∈ operatorSpellings) :
    op ∈ operatorCandidates c cs ↔ op.toList <+: c :: cs := by
  constructor
  · exact prefix_of_mem_operatorCandidates
  intro hbegins
  have hpos := length_pos_of_mem_operatorSpellings h
  have hle := length_le_of_mem_operatorSpellings h
  have hop : op = .ofList ((c :: cs).take op.length) := by
    rw [← String.length_toList, ← List.prefix_iff_eq_take.mp hbegins, String.ofList_toList]
  -- A spelling of one, two or three characters is the candidate of that length.
  have hlength : op.length = 1 ∨ op.length = 2 ∨ op.length = 3 := by omega
  rcases hlength with hlength | hlength | hlength
  all_goals
    rw [hlength] at hop
    rw [hop]
    simp [operatorCandidates]

/-- What is tried later is not longer. -/
theorem pairwise_operatorCandidates (c : Char) (cs : List Char) :
    (operatorCandidates c cs).Pairwise fun a b => b.length ≤ a.length := by
  have hlengths : ((operatorCandidates c cs).map String.length).Pairwise fun m n => n ≤ m := by
    simp only [operatorCandidates, List.map_cons, List.map_nil, String.length_ofList,
      List.length_cons, List.length_take, List.length_nil]
    simp only [List.pairwise_cons, List.mem_cons, List.not_mem_nil, or_false, forall_eq_or_imp,
      forall_eq, List.Pairwise.nil, and_true, IsEmpty.forall_iff, implies_true]
    omega
  exact List.pairwise_map.mp hlengths

/-- The lookup finds the longest spelling that the text begins with. -/
theorem isLongest_of_longestOperator? (h : longestOperator? c cs = some op) :
    op ∈ operatorSpellings ∧ op.toList <+: c :: cs ∧
      ∀ op' ∈ operatorSpellings, op'.toList <+: c :: cs → op'.length ≤ op.length := by
  obtain ⟨hop, tried, untried, hcandidates, htried⟩ := List.find?_eq_some_iff_append.mp h
  have hmem : op ∈ operatorCandidates c cs := by simp [hcandidates]
  refine ⟨by simpa using hop, prefix_of_mem_operatorCandidates hmem, ?_⟩
  intro op' hop' hbegins
  have hmem' := (mem_operatorCandidates_iff hop').mpr hbegins
  have hsorted := pairwise_operatorCandidates c cs
  rw [hcandidates] at hmem' hsorted
  -- What was tried before is no spelling, and what was left untried is not longer.
  rcases List.mem_append.mp hmem' with htried' | hlater
  · have hnot := htried op' htried'
    simp [hop'] at hnot
  · rcases List.mem_cons.mp hlater with rfl | huntried
    · exact Nat.le_refl _
    · exact (List.pairwise_cons.mp (List.pairwise_append.mp hsorted).2.1).1 op' huntried

/-- If the lookup finds nothing, the text begins with no spelling. -/
theorem not_prefix_of_longestOperator? (h : longestOperator? c cs = none)
    (hop : op ∈ operatorSpellings) : ¬ op.toList <+: c :: cs := by
  intro hbegins
  have hnot := List.find?_eq_none.mp h op ((mem_operatorCandidates_iff hop).mpr hbegins)
  simp [hop] at hnot

/-- Of two operators that are the longest one, each is at most as long as the other, and both begin
the same text. -/
theorem IsLongestOperator.unique {text : List Char} {op' : String} (h : IsLongestOperator op text)
    (h' : IsLongestOperator op' text) : op = op' := by
  have hlength : op.toList.length = op'.toList.length := by
    rw [String.length_toList, String.length_toList]
    exact Nat.le_antisymm (h'.longest op h.mem h.begins) (h.longest op' h'.mem h'.begins)
  have hfront := List.prefix_of_prefix_length_le h.begins h'.begins (Nat.le_of_eq hlength)
  exact String.toList_injective (hfront.eq_of_length hlength)

/-- The lookup finds the longest spelling that the text begins with, and nothing else. -/
theorem longestOperator?_eq_some_iff :
    longestOperator? c cs = some op ↔ IsLongestOperator op (c :: cs) := by
  constructor
  · intro h
    obtain ⟨hmem, hbegins, hlongest⟩ := isLongest_of_longestOperator? h
    exact ⟨hmem, hbegins, hlongest⟩
  · intro h
    cases hfound : longestOperator? c cs with
    | none => exact (not_prefix_of_longestOperator? hfound h.mem h.begins).elim
    | some found =>
      obtain ⟨hmem, hbegins, hlongest⟩ := isLongest_of_longestOperator? hfound
      rw [h.unique ⟨hmem, hbegins, hlongest⟩]

/-- Two texts that begin with the same spellings have the same longest one. -/
theorem isLongestOperator_congr {text text' : List Char}
    (h : ∀ op ∈ operatorSpellings, op.toList <+: text ↔ op.toList <+: text') :
    IsLongestOperator op text ↔ IsLongestOperator op text' := by
  constructor
  · intro hop
    exact ⟨hop.mem, (h op hop.mem).mp hop.begins, fun op' hop' hbegins =>
      hop.longest op' hop' ((h op' hop').mpr hbegins)⟩
  · intro hop
    exact ⟨hop.mem, (h op hop.mem).mpr hop.begins, fun op' hop' hbegins =>
      hop.longest op' hop' ((h op' hop').mp hbegins)⟩

theorem longestOperator?_congr {ds : List Char}
    (h : ∀ op ∈ operatorSpellings, op.toList <+: c :: cs ↔ op.toList <+: c :: ds) :
    longestOperator? c cs = longestOperator? c ds := by
  ext op
  rw [longestOperator?_eq_some_iff, longestOperator?_eq_some_iff, isLongestOperator_congr h]

/-- The lookup does not see past the end of a line, because no spelling has a line break. -/
theorem longestOperator?_append (h : '\n' ∈ cs) (more : List Char) :
    longestOperator? c (cs ++ more) = longestOperator? c cs := by
  have hbreak : ∀ op ∈ operatorSpellings, '\n' ∉ op.toList := by decide
  apply longestOperator?_congr
  intro op hop
  constructor
  · intro hbegins
    rcases List.prefix_or_prefix_of_prefix hbegins (List.prefix_append (c :: cs) more) with
      hshort | hlong
    · exact hshort
    · exact (hbreak op hop (hlong.subset (List.mem_cons_of_mem c h))).elim
  · intro hbegins
    exact hbegins.trans (List.prefix_append (c :: cs) more)

end UsageScan
