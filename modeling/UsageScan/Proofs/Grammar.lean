import UsageScan.Proofs.Lossless
import UsageScan.Proofs.Token.Operator
/-!
# The lexical grammar

What a token is can be read off the source where it begins, by rules that do not depend on each
other: each rule says how the text has to begin and what is taken of it then. The scanner, which
tries one class after another, follows all rules at every place of every source.

## Main definitions

* `StartsNumber`, `StartsOperator` — how the text of a number and of an operator begins
* `Munch` — what the rules say of the token at the front of a text
* `Grammar` — what the rules say of the tokens of a scan

## Main results

* `Form.munch_front` — the form at the front of a text follows the rules
* `grammar_scan` — so do all tokens of any scan, and they leave out blanks and declared names only
-/

set_option autoImplicit false

namespace UsageScan

open Text

/-- The spellings of all operators, the dot included. -/
def allOperators : List String :=
  "." :: operatorSpellings

/-- Whether the text `c :: cs` begins like a number. -/
def StartsNumber (c : Char) (cs : List Char) : Prop :=
  c.isDigit = true ∨ (c = '.' ∧ cs.head?.any Char.isDigit = true)

/-- Whether the text `c :: cs` begins like no name, number, string, comment or delimiter. -/
structure StartsOperator (c : Char) (cs : List Char) : Prop where
  name : isIdentifierStart c = false
  number : ¬ StartsNumber c cs
  quote : Lexeme.isQuote c = false
  lineComment : ¬ ['/', '/'] <+: c :: cs
  blockComment : ¬ ['/', '*'] <+: c :: cs
  delimiter : c ∉ Lexeme.delimiters

/-- What the rules say of the token at the front of the text `c :: cs`: its class, whether it is a
block comment, and its characters. -/
structure Munch (c : Char) (cs : List Char) (kind : Token.Kind) (block : Bool)
    (word : List Char) : Prop where
  name : isIdentifierStart c = true → word = (c :: cs).takeWhile isIdentifierPart ∧
    kind = if String.ofList word ∈ keywords then .keyword else .identifier
  number : StartsNumber c cs → kind = .number ∧ word = (c :: cs).takeWhile Lexeme.isNumberPart
  string : Lexeme.isQuote c = true → kind = .string
  lineComment : ['/', '/'] <+: c :: cs →
    kind = .comment ∧ block = false ∧ word = (c :: cs).takeWhile (· ≠ '\n')
  blockComment : ['/', '*'] <+: c :: cs → kind = .comment ∧ block = true
  delimiter : c ∈ Lexeme.delimiters → kind = .delimiter ∧ word = [c]
  /-- Of the operators that the text begins with, the longest one is taken. -/
  operator : StartsOperator c cs → ∀ op ∈ allOperators, op.toList <+: c :: cs →
    kind = .operator ∧ String.ofList word ∈ allOperators ∧ op.length ≤ word.length
  unknown : StartsOperator c cs → (∀ op ∈ allOperators, ¬ op.toList <+: c :: cs) →
    kind = .unknown ∧ word = [c]

/-- What the rules say of the tokens of a scan. -/
structure Grammar (source : String) (options : Options) : Prop where
  /-- Each token is what the rules say at its place. -/
  munch : ∀ t ∈ (Scanner.ofSource source options).tokens, ∃ before c cs word,
    source.toList = before ++ c :: cs ∧ word <+: c :: cs ∧
      t.span = ⟨size before, size (before ++ word)⟩ ∧ Munch c cs t.kind t.flags.blockComment word
  /-- A character that is neither blank nor a part of a declared name is a part of one token. -/
  covered : ∀ before c behind, source.toList = before ++ c :: behind → isBlank c = false →
    (∀ d ∈ declaredIn source options, d.span.contains (size before) = false) →
    ∃ t, (Scanner.ofSource source options).tokens.filter (·.span.contains (size before)) = [t]

/-! ### The classes do not overlap -/

/-- A digit does not start a name: letters come later in the table of characters. -/
theorem isIdentifierStart_of_isDigit {c : Char} (h : c.isDigit = true) :
    isIdentifierStart c = false := by
  have hle : c.toNat ≤ 57 := (Char.isDigit_iff_toNat.mp h).2
  have hunderscore : c ≠ '_' := by
    rintro rfl
    contradiction
  have halpha : c.isAlpha = false := by
    by_contra hletter
    rcases Bool.or_eq_true_iff.mp (eq_true_of_ne_false hletter) with hupper | hlower
    · have hlow : 65 ≤ c.toNat := UInt32.le_iff_toNat_le.mp (of_decide_eq_true hupper).1
      omega
    · have hlow : 97 ≤ c.toNat :=
        UInt32.le_iff_toNat_le.mp (of_decide_eq_true (Bool.and_eq_true_iff.mp hlower).1)
      omega
  have hascii : ¬ 0x7F < c.toNat := by omega
  simp [isIdentifierStart, hunderscore, halpha, hascii]

theorem slash_prefix_iff {c d : Char} {cs : List Char} :
    ['/', d] <+: c :: cs ↔ c = '/' ∧ cs.head? = some d := by
  cases cs with
  | nil => simp
  | cons e cs => simp [List.cons_prefix_cons, eq_comm]

namespace Form

variable {c : Char} {cs : List Char}

theorem front_of_name (h : isIdentifierStart c = true) : (front c cs).1 =
    ⟨wordKind ((c :: cs).takeWhile isIdentifierPart), .none,
      (c :: cs).takeWhile isIdentifierPart⟩ := by
  rw [front, if_pos h, List.takeWhile_cons, if_pos (isIdentifierPart_of_isIdentifierStart h)]
  rfl

theorem front_of_number (h : StartsNumber c cs) : ∃ flags, (front c cs).1 =
    ⟨.number, flags, (c :: cs).takeWhile Lexeme.isNumberPart⟩ := by
  rcases h with h | ⟨rfl, h⟩
  · refine ⟨.none, ?_⟩
    simp [front, isIdentifierStart_of_isDigit h, h, run, Lexeme.isNumberPart]
  · refine ⟨{ implicitLeadingZero := true }, ?_⟩
    rw [front, if_neg (by decide), if_neg (by decide), if_pos rfl, if_pos h]
    rfl

theorem front_of_quote (h : Lexeme.isQuote c = true) : (front c cs).1.kind = .string := by
  have hc : c = '"' ∨ c = '\'' := by simpa [Lexeme.isQuote] using h
  rcases hc with rfl | rfl
  · rfl
  · rfl

/-- In front of a slash, no class that is tried before comments comes into question. -/
theorem front_slash (cs : List Char) : front '/' cs =
    if cs.head? = some '/' then run .comment .none (fun d => !isLineBreak d) '/' cs
    else if cs.head? = some '*' then block cs.tail
    else operator '/' cs := by
  have hclasses : isIdentifierStart '/' = false ∧ '/'.isDigit = false ∧
      Lexeme.isQuote '/' = false ∧ '/' ∉ Lexeme.delimiters := by decide
  simp [front, hclasses]

theorem front_of_lineComment (h : ['/', '/'] <+: c :: cs) :
    (front c cs).1 = ⟨.comment, .none, (c :: cs).takeWhile (· ≠ '\n')⟩ := by
  obtain ⟨rfl, hsecond⟩ := slash_prefix_iff.mp h
  have hline : (fun d => !isLineBreak d) = fun d => decide (d ≠ '\n') := by
    funext d
    simp [isLineBreak, beq_eq_decide]
  rw [front_slash, if_pos hsecond, run, List.takeWhile_cons, if_pos (by decide), hline]

theorem front_of_blockComment (h : ['/', '*'] <+: c :: cs) :
    (front c cs).1.kind = .comment ∧ (front c cs).1.flags.blockComment = true := by
  obtain ⟨rfl, hsecond⟩ := slash_prefix_iff.mp h
  have hnot : cs.head? ≠ some '/' := by simp [hsecond]
  rw [front_slash, if_neg hnot, if_pos hsecond, block]
  split <;> exact ⟨rfl, rfl⟩

theorem front_of_delimiter (h : c ∈ Lexeme.delimiters) :
    (front c cs).1 = ⟨.delimiter, .none, [c]⟩ := by
  simp only [Lexeme.delimiters, List.mem_cons, List.not_mem_nil, or_false] at h
  rcases h with rfl | rfl | rfl | rfl | rfl | rfl | rfl | rfl <;> rfl

/-- What begins like nothing else is an operator or an unknown character. -/
theorem front_of_operator (h : StartsOperator c cs) :
    front c cs = if c = '.' then first .operator .none 1 (c :: cs) else operator c cs := by
  have hdigit : c.isDigit = false := by
    by_contra hc
    exact h.number (Or.inl (eq_true_of_ne_false hc))
  have hline : ¬ (c = '/' ∧ cs.head? = some '/') := by
    rw [← slash_prefix_iff]
    exact h.lineComment
  have hblock : ¬ (c = '/' ∧ cs.head? = some '*') := by
    rw [← slash_prefix_iff]
    exact h.blockComment
  have hdelimiter : ¬ Lexeme.delimiters.contains c = true := by simpa using h.delimiter
  rw [front, if_neg (by simp [h.name]), if_neg (by simp [hdigit])]
  by_cases hdot : c = '.'
  · have hfraction : ¬ cs.head?.any Char.isDigit = true := by
      intro hc
      exact h.number (Or.inr ⟨hdot, hc⟩)
    rw [if_pos hdot, if_neg hfraction, if_pos hdot]
  · rw [if_neg hdot, if_neg (by simp [h.quote]), if_neg hline, if_neg hblock, if_neg hdelimiter,
      if_neg hdot]

end Form

/-! ### The form at the front follows the rules -/

theorem not_dot_begins {op : String} (h : op ∈ operatorSpellings) (cs : List Char) :
    ¬ op.toList <+: '.' :: cs := by
  have hall : ∀ op ∈ operatorSpellings, op.toList ≠ [] ∧ op.toList.head? ≠ some '.' := by decide
  intro hbegins
  obtain ⟨d, ds, hop⟩ := List.exists_cons_of_ne_nil (hall op h).1
  rw [hop, List.cons_prefix_cons] at hbegins
  exact (hall op h).2 (by rw [hop, hbegins.1, List.head?_cons])

/-- A text that begins with a dot but is no number begins with no other operator. -/
theorem Form.munch_dot {cs : List Char} (h : StartsOperator '.' cs) {op : String}
    (hop : op ∈ allOperators) (hbegins : op.toList <+: '.' :: cs) :
    (front '.' cs).1.kind = .operator ∧ String.ofList (front '.' cs).1.word ∈ allOperators ∧
      op.length ≤ (front '.' cs).1.word.length := by
  rw [front_of_operator h, if_pos rfl]
  rcases List.mem_cons.mp hop with rfl | hop
  · have hdot : String.ofList ['.'] ∈ allOperators := by decide
    exact ⟨rfl, hdot, Nat.le_refl _⟩
  · exact (not_dot_begins hop cs hbegins).elim

/-- What the lookup finds is taken whole. -/
theorem Form.operator_of_longestOperator? {c : Char} {cs : List Char} {op : String}
    (h : longestOperator? c cs = some op) :
    (operator c cs).1 = ⟨.operator, .none, op.toList⟩ := by
  have hfront := (isLongest_of_longestOperator? h).2.1
  simp only [operator, longestOperator?_take, h, first]
  rw [← String.length_toList, ← List.prefix_iff_eq_take.mp hfront]

/-- The rule for operators holds of what the lookup finds. -/
theorem Form.munch_operator {c : Char} {cs : List Char} (h : StartsOperator c cs) {op : String}
    (hop : op ∈ allOperators) (hbegins : op.toList <+: c :: cs) :
    (front c cs).1.kind = .operator ∧ String.ofList (front c cs).1.word ∈ allOperators ∧
      op.length ≤ (front c cs).1.word.length := by
  -- The dot has a branch of its own, which comes before the lookup.
  by_cases hdot : c = '.'
  · subst hdot
    exact munch_dot h hop hbegins
  have hspelling : op ∈ operatorSpellings := by
    rcases List.mem_cons.mp hop with rfl | hop
    · exact (hdot (List.cons_prefix_cons.mp hbegins).1.symm).elim
    · exact hop
  rw [front_of_operator h, if_neg hdot]
  cases hfound : longestOperator? c cs with
  | none => exact (not_prefix_of_longestOperator? hfound hspelling hbegins).elim
  | some found =>
    obtain ⟨hmem, -, hlongest⟩ := isLongest_of_longestOperator? hfound
    rw [operator_of_longestOperator? hfound, String.ofList_toList, String.length_toList]
    exact ⟨rfl, List.mem_cons_of_mem _ hmem, hlongest op hspelling hbegins⟩

/-- Where no operator begins, the lookup finds none. -/
theorem Form.munch_unknown {c : Char} {cs : List Char} (h : StartsOperator c cs)
    (hnone : ∀ op ∈ allOperators, ¬ op.toList <+: c :: cs) :
    (front c cs).1.kind = .unknown ∧ (front c cs).1.word = [c] := by
  have hdot : c ≠ '.' := by
    rintro rfl
    exact hnone "." List.mem_cons_self (List.prefix_append ['.'] cs)
  rw [front_of_operator h, if_neg hdot, operator, longestOperator?_take]
  cases hfound : longestOperator? c cs with
  | none => exact ⟨rfl, rfl⟩
  | some found =>
    obtain ⟨hmem, hfront, -⟩ := isLongest_of_longestOperator? hfound
    exact (hnone found (List.mem_cons_of_mem _ hmem) hfront).elim

/-- The form at the front of a text follows the rules. -/
theorem Form.munch_front (c : Char) (cs : List Char) :
    Munch c cs (front c cs).1.kind (front c cs).1.flags.blockComment (front c cs).1.word where
  name h := by
    rw [front_of_name h]
    simp [wordKind, isKeyword]
  number h := by
    obtain ⟨flags, hfront⟩ := front_of_number h
    rw [hfront]
    exact ⟨rfl, rfl⟩
  string := front_of_quote
  lineComment h := by
    rw [front_of_lineComment h]
    exact ⟨rfl, rfl, rfl⟩
  blockComment := front_of_blockComment
  delimiter h := by
    rw [front_of_delimiter h]
    exact ⟨rfl, rfl⟩
  operator h op := munch_operator h
  unknown := munch_unknown

/-! ### The tokens of a scan follow the rules -/

/-- Of spans that lie one behind the other, only one covers a byte. -/
theorem exists_filter_contains {tokens : List Token} {offset : Nat}
    (hapart : tokens.Pairwise fun t u => t.span.stop ≤ u.span.start) {t : Token} (ht : t ∈ tokens)
    (hcontains : t.span.contains offset = true) :
    ∃ t, tokens.filter (·.span.contains offset) = [t] := by
  have hmem : t ∈ tokens.filter (·.span.contains offset) := List.mem_filter.mpr ⟨ht, hcontains⟩
  have hapart' := hapart.filter (·.span.contains offset)
  have hall : ∀ u ∈ tokens.filter (·.span.contains offset), u.span.contains offset = true :=
    fun u hu => (List.mem_filter.mp hu).2
  cases hfilter : tokens.filter (·.span.contains offset) with
  | nil => simp [hfilter] at hmem
  | cons u more =>
    cases more with
    | nil => exact ⟨u, rfl⟩
    | cons v more =>
      -- Two of them would both cover the byte, although one ends before the other begins.
      rw [hfilter] at hapart' hall
      have huv : u.span.stop ≤ v.span.start :=
        (List.pairwise_cons.mp hapart').1 v List.mem_cons_self
      have hu := hall u List.mem_cons_self
      have hv := hall v (List.mem_cons_of_mem _ List.mem_cons_self)
      simp only [Span.contains, Bool.and_eq_true, decide_eq_true_eq] at hu hv
      omega

/-- All tokens of any scan follow the rules, and they leave out blanks and declared names only. -/
theorem grammar_scan (source : String) (options : Options) : Grammar source options where
  munch t ht := by
    rw [Scanner.tokens_eq_map_all, List.mem_map] at ht
    obtain ⟨s, -, rfl⟩ := ht
    refine ⟨s.before, s.first, s.behind, s.word, s.source_eq, ?_, s.span_token _, ?_⟩
    · exact ⟨_, by rw [← s.chars_append_rest, Passage.chars, List.append_assoc]; rfl⟩
    · have hblock : (s.token options.maxTokenLength).flags.blockComment =
          s.passage.form.flags.blockComment := Bool.or_false _
      rw [hblock, Site.word, s.form_passage, Site.kind_token]
      exact Form.munch_front s.first s.behind
  covered before c behind hsource hc hnames := by
    have hcovers := Site.covers_all source.toList
    rw [← Site.occupied_eq_flatMap_spans options.maxTokenLength, ← Scanner.tokens_eq_map_all]
      at hcovers
    have hapart := (List.pairwise_flatMap.mp hcovers.pairwise).2.imp
      fun {t u} h => h t.span List.mem_cons_self u.span List.mem_cons_self
    -- Some span covers the character, and it is not that of a declared name.
    obtain ⟨t, ht, hcontains⟩ : ∃ t ∈ (Scanner.ofSource source options).tokens,
        t.span.contains (size before) = true := by
      by_contra hnone
      have hfree : ∀ x ∈ occupied source.toList (Scanner.ofSource source options).tokens,
          x.contains (size before) = false := by
        intro x hx
        obtain ⟨t, ht, hx⟩ := List.mem_flatMap.mp hx
        rcases List.mem_cons.mp hx with rfl | hx
        · by_contra hcontains
          exact hnone ⟨t, ht, eq_true_of_ne_false hcontains⟩
        · obtain ⟨d, hd, rfl⟩ := List.mem_map.mp hx
          exact hnames d (List.mem_filterMap.mpr ⟨t, ht, Option.mem_toList.mp hd⟩)
      have hblank := hcovers.blank before c behind hsource hfree
      rw [hc] at hblank
      contradiction
    exact exists_filter_contains hapart ht hcontains

end UsageScan
