import UsageScan.Proofs.Grammar
import UsageScan.Proofs.Item
import UsageScan.Proofs.Usage
/-!
# Keywords in the place of names

A word of a source is handed out as a token unless it stands where a name is declared: behind a
declaration keyword and nothing but blanks. There it is taken for the name without being looked up,
whatever it is. So a keyword in that place is lost as a token and becomes a symbol, and everywhere
else it is a keyword.

## Main definitions

* `WordAt` — a word of a source outside strings and comments
* `KeywordsKept` — no keyword is declared, and each one is handed out as a keyword
* `KeywordWords` — what becomes of the keywords of a source

## Main results

* `Form.word_cases` — only names, strings and comments have a character in them that starts a name
* `Site.exists_of_wordAt` — a word is that of a site, or its declared name
* `keyword_words` — what becomes of the keywords of any source
-/

set_option autoImplicit false

namespace UsageScan

open Text

/-- A word of a source with the text before it and the text behind it: a run of characters that
starts like a name and goes on as far as it can. Where it starts, nothing else goes on. -/
structure WordAt (source : List Char) (tokens : List Token) (before word behind : List Char) :
    Prop where
  source_eq : source = before ++ word ++ behind
  start : word.head?.any isIdentifierStart = true
  parts : ∀ c ∈ word, isIdentifierPart c = true
  ends : ∀ c ∈ behind.head?, isIdentifierPart c = false
  /-- The character before it goes on no word, or it is the last one of a token. -/
  apart : ∀ c ∈ before.getLast?,
    isIdentifierPart c = false ∨ ∃ t ∈ tokens, t.span.stop = size before
  /-- It starts outside strings and comments. -/
  outside : ∀ t ∈ tokens, t.kind = .string ∨ t.kind = .comment →
    t.span.contains (size before) = false

/-- No keyword is declared, and each one is handed out as a keyword. -/
structure KeywordsKept (source : String) (options : Options) : Prop where
  table : ∀ s ∈ (Scanner.ofSource source options).finish.table.symbols, s.name ∉ keywords
  token : ∀ before word behind,
    WordAt source.toList (Scanner.ofSource source options).tokens before word behind →
    String.ofList word ∈ keywords → ∃ t ∈ (Scanner.ofSource source options).tokens,
      t.kind = .keyword ∧ t.span = ⟨size before, size (before ++ word)⟩

/-- What becomes of the keywords of a source. -/
structure KeywordWords (source : String) (options : Options) : Prop where
  /-- A keyword is a symbol in the end exactly if it stands in the place of a declared name. -/
  table : ∀ w ∈ keywords,
    (∃ s ∈ (Scanner.ofSource source options).finish.table.symbols, s.name = w) ↔
      ∃ d ∈ declaredIn source options, String.ofList d.name = w
  /-- It is handed out as a keyword exactly if it does not. -/
  token : ∀ before word behind,
    WordAt source.toList (Scanner.ofSource source options).tokens before word behind →
    String.ofList word ∈ keywords → ((∃ t ∈ (Scanner.ofSource source options).tokens,
      t.kind = .keyword ∧ t.span = ⟨size before, size (before ++ word)⟩) ↔
        ⟨before, word⟩ ∉ declaredIn source options)
  /-- So all keywords are kept exactly if none stands in the place of a declared name. -/
  kept_iff : KeywordsKept source options ↔
    ∀ d ∈ declaredIn source options, String.ofList d.name ∉ keywords

/-! ### Characters that start a name -/

namespace Text

/-- A blank starts no name. -/
theorem isIdentifierStart_of_isBlank {c : Char} (h : isBlank c = true) :
    isIdentifierStart c = false := by
  rcases Bool.or_eq_true_iff.mp h with hbreak | hinline
  · obtain rfl : c = '\n' := by simpa [isLineBreak] using hbreak
    decide
  · unfold isInlineBlank at hinline
    split at hinline
    -- The last case is a range of spaces, and all others are a character each.
    case h_14 =>
      have hspaces : ∀ k < 11, isIdentifierStart (.ofNat (0x2000 + k)) = false := by decide +kernel
      rw [Bool.and_eq_true, decide_eq_true_iff, decide_eq_true_iff, Char.le_def, Char.le_def,
        UInt32.le_iff_toNat_le, UInt32.le_iff_toNat_le] at hinline
      have hlow : 0x2000 ≤ c.toNat := hinline.1
      have hhigh : c.toNat ≤ 0x200a := hinline.2
      have hc := hspaces (c.toNat - 0x2000) (by omega)
      rwa [Nat.add_sub_cancel' hlow, Char.ofNat_toNat] at hc
    all_goals decide +kernel

end Text

namespace Form

variable {c d : Char} {cs : List Char}

/-- What an operator is spelled with starts no name. -/
theorem isIdentifierStart_of_mem_operator {op : String} (h : op ∈ allOperators)
    (hc : c ∈ op.toList) : isIdentifierStart c = false := by
  have hall : ∀ op ∈ allOperators, op.toList.any isIdentifierStart = false := by decide
  exact Bool.not_eq_true _ ▸ List.any_eq_false.mp (hall op h) c hc

theorem isIdentifierStart_of_isNumberPart (h : Lexeme.isNumberPart c = true) :
    isIdentifierStart c = false := by
  rcases Bool.or_eq_true_iff.mp h with hdigit | hdot
  · exact isIdentifierStart_of_isDigit hdigit
  · rw [beq_iff_eq] at hdot
    rw [hdot]
    decide

/-- Only names, strings and comments have a character in them that starts a name. -/
theorem word_cases (c : Char) (cs : List Char) :
    isIdentifierStart c = true ∨ (front c cs).1.kind = .string ∨ (front c cs).1.kind = .comment ∨
      ∀ d ∈ (front c cs).1.word, isIdentifierStart d = false := by
  have hmunch := munch_front c cs
  by_cases hname : isIdentifierStart c = true
  · exact Or.inl hname
  right
  by_cases hquote : Lexeme.isQuote c = true
  · exact Or.inl (hmunch.string hquote)
  right
  by_cases hline : ['/', '/'] <+: c :: cs
  · exact Or.inl (hmunch.lineComment hline).1
  by_cases hblock : ['/', '*'] <+: c :: cs
  · exact Or.inl (hmunch.blockComment hblock).1
  right
  rw [Bool.not_eq_true] at hname hquote
  by_cases hnumber : StartsNumber c cs
  · intro d hd
    rw [(hmunch.number hnumber).2] at hd
    exact isIdentifierStart_of_isNumberPart (List.mem_takeWhile_imp hd)
  have halone {word : List Char} (hword : word = [c]) :
      ∀ d ∈ word, isIdentifierStart d = false := by
    rw [hword]
    intro d hd
    rw [List.mem_singleton.mp hd, hname]
  by_cases hdelimiter : c ∈ Lexeme.delimiters
  · exact halone (hmunch.delimiter hdelimiter).2
  have hstarts : StartsOperator c cs := ⟨hname, hnumber, hquote, hline, hblock, hdelimiter⟩
  by_cases hoperator : ∃ op ∈ allOperators, op.toList <+: c :: cs
  · obtain ⟨op, hop, hbegins⟩ := hoperator
    have hspelled := (hmunch.operator hstarts op hop hbegins).2.1
    intro d hd
    refine isIdentifierStart_of_mem_operator hspelled ?_
    rwa [String.toList_ofList]
  · refine halone (hmunch.unknown hstarts ?_).2
    intro op hop hbegins
    exact hoperator ⟨op, hop, hbegins⟩

end Form

/-! ### Where a word is -/

/-- From where a word starts, it is all that goes on like a name. -/
theorem WordAt.takeWhile_append {source : List Char} {tokens : List Token}
    {before word behind : List Char} (h : WordAt source tokens before word behind) :
    (word ++ behind).takeWhile isIdentifierPart = word := by
  have hbehind : behind.takeWhile isIdentifierPart = [] := by
    rw [List.takeWhile_eq_nil_iff]
    intro hpos
    have hends := h.ends behind[0] (by
      rw [List.head?_eq_getElem?, List.getElem?_eq_getElem hpos]
      rfl)
    simpa using hends
  rw [List.takeWhile_append_of_pos h.parts, hbehind, List.append_nil]

namespace Site

variable {source : List Char} (limit : Option Nat)

/-- No token ends within a passage but the one that the passage begins with. -/
theorem stop_token_ne {s : Site source} (hs : s ∈ all source) {as : List Char}
    (hstart : size s.before < size as) (hword : size as ≠ size (s.before ++ s.word))
    (hstop : size as < size (s.before ++ s.passage.chars)) :
    ∀ t ∈ (all source).map (token limit), t.span.stop ≠ size as := by
  intro token htoken h
  obtain ⟨t, ht, rfl⟩ := List.mem_map.mp htoken
  rw [span_token] at h
  change size (t.before ++ t.word) = size as at h
  rcases eq_or_prefix_of_mem_all hs ht with rfl | hst | hts
  · exact hword h.symm
  · have hle := size_mono (hst.trans (List.prefix_append t.before t.word))
    omega
  · have hfront : t.before ++ t.word <+: t.before ++ t.passage.chars :=
      (List.prefix_append_right_inj _).mpr (List.prefix_append ..)
    have hle := size_mono (hfront.trans hts)
    omega

/-- A declared name is the word that the source has in its place. -/
theorem exists_name_eq_takeWhile {s : Site source} (h : s.passage.name ≠ []) :
    ∃ rest, source = s.beforeName ++ rest ∧ s.passage.name = rest.takeWhile isIdentifierPart := by
  have hpassage : s.passage = (Passage.ofForm (Form.front s.first s.behind).1
    (Form.front s.first s.behind).2).1 := rfl
  have hsource : source = s.before ++ s.word ++ (Form.front s.first s.behind).2 := by
    rw [word, form_passage, List.append_assoc, Form.append_front]
    exact s.source_eq
  rw [beforeName]
  generalize s.word = word at hsource ⊢
  generalize (Form.front s.first s.behind).2 = ds at hpassage hsource
  generalize (Form.front s.first s.behind).1 = f at hpassage
  rw [hpassage] at h ⊢
  unfold Passage.ofForm Passage.splitName at h ⊢
  by_cases hdeclares : f.declares = true
  · by_cases hstart : (ds.dropWhile isBlank).head?.any isIdentifierStart = true
    · simp only [if_pos hdeclares, if_pos hstart]
      refine ⟨ds.dropWhile isBlank, ?_, rfl⟩
      rw [List.append_assoc, List.takeWhile_append_dropWhile]
      exact hsource
    · simp [hdeclares, hstart] at h
  · simp [hdeclares] at h

/-- A word does not start behind further characters of a name, unless a token ends before it. -/
theorem eq_nil_of_apart {tokens : List Token} {as inner : List Char}
    (hparts : ∀ c ∈ inner, isIdentifierPart c = true)
    (hapart : ∀ c ∈ (as ++ inner).getLast?, isIdentifierPart c = false ∨
      ∃ t ∈ tokens, t.span.stop = size (as ++ inner))
    (hstop : inner ≠ [] → ∀ t ∈ tokens, t.span.stop ≠ size (as ++ inner)) : inner = [] := by
  by_contra hne
  have hlast : (as ++ inner).getLast? = some (inner.getLast hne) := by
    rw [List.getLast?_append_of_ne_nil _ hne, List.getLast?_eq_some_getLast hne]
  rcases hapart _ hlast with hnot | ⟨t, ht, hends⟩
  · rw [hparts _ (List.getLast_mem hne)] at hnot
    contradiction
  · exact hstop hne t ht hends

/-- A run of characters of a name in which a word starts is the word, unless a token ends within the
run before that. -/
theorem run_eq_of_wordAt {tokens : List Token} {as inner rest run word behind more : List Char}
    (h : WordAt source tokens (as ++ inner) word behind) (hrest : source = as ++ rest)
    (hrun : run = rest.takeWhile isIdentifierPart) (hinner : run = inner ++ more)
    (hstop : inner ≠ [] → ∀ t ∈ tokens, t.span.stop ≠ size (as ++ inner)) :
    inner = [] ∧ run = word := by
  have hparts : ∀ d ∈ inner, isIdentifierPart d = true := by
    intro d hd
    have hmem : d ∈ run := hinner ▸ List.mem_append_left _ hd
    rw [hrun] at hmem
    exact List.mem_takeWhile_imp hmem
  obtain rfl := eq_nil_of_apart hparts h.apart hstop
  have hsource := hrest.symm.trans h.source_eq
  rw [List.append_nil, List.append_assoc] at hsource
  rw [hrun, List.append_cancel_left hsource]
  exact ⟨rfl, h.takeWhile_append⟩

/-- If a name could start within the word of a site, outside strings and comments, then the site
itself starts a name. -/
theorem isIdentifierStart_first {s : Site source} (hs : s ∈ all source) {inner more : List Char}
    {c : Char} (hinner : s.word = inner ++ c :: more) (hstart : isIdentifierStart c = true)
    (houtside : ∀ t ∈ (all source).map (token limit), t.kind = .string ∨ t.kind = .comment →
      t.span.contains (size (s.before ++ inner)) = false) : isIdentifierStart s.first = true := by
  have hcontains : (s.token limit).span.contains (size (s.before ++ inner)) = true := by
    rw [span_token, hinner, contains_of_append]
  have hkind : ¬ ((s.token limit).kind = .string ∨ (s.token limit).kind = .comment) := by
    intro hkind
    rw [houtside _ (List.mem_map_of_mem hs) hkind] at hcontains
    contradiction
  rw [kind_token] at hkind
  rcases Form.word_cases s.first s.behind with hname | hstring | hcomment | hnone
  · exact hname
  · exact absurd (Or.inl hstring) hkind
  · exact absurd (Or.inr hcomment) hkind
  · have hc : c ∈ s.word := by simp [hinner]
    rw [word, form_passage] at hc
    rw [hnone c hc] at hstart
    contradiction

/-- A word of a source is the word of a site, or its declared name. -/
theorem exists_of_wordAt {before word behind : List Char}
    (h : WordAt source ((all source).map (token limit)) before word behind) :
    ∃ s ∈ all source, (s.before = before ∧ s.word = word ∧ isIdentifierStart s.first = true) ∨
      (s.beforeName = before ∧ s.passage.name = word) := by
  obtain ⟨c, ws, rfl⟩ : ∃ c ws, word = c :: ws := by
    apply List.exists_cons_of_ne_nil
    rintro rfl
    exact absurd h.start Bool.false_ne_true
  have hstart : isIdentifierStart c = true := h.start
  have hsource : source = before ++ c :: (ws ++ behind) := by
    rw [h.source_eq, List.append_assoc]
    rfl
  have hblank : isBlank c = false := by
    by_contra hblank
    rw [isIdentifierStart_of_isBlank (eq_true_of_ne_false hblank)] at hstart
    contradiction
  obtain ⟨s, hs, ⟨inner, more, rfl, hinner⟩ | ⟨inner, more, rfl, hinner⟩⟩ :=
    exists_of_append hsource hblank
  · -- The word lies in that of the site, which is a name and so does not begin before it.
    have hname := isIdentifierStart_first limit hs hinner hstart h.outside
    have hrun : s.word = (s.first :: s.behind).takeWhile isIdentifierPart := by
      rw [word, form_passage, Form.front_of_name hname]
    obtain ⟨rfl, hword⟩ := run_eq_of_wordAt h s.source_eq hrun hinner (by
      intro hne
      have hpos := size_pos hne
      have hlater := c.utf8Size_pos
      apply stop_token_ne limit hs <;>
        simp only [Passage.chars, show s.passage.form.word = s.word from rfl, hinner, size_append,
          size_cons] <;> omega)
    exact ⟨s, hs, Or.inl ⟨(List.append_nil _).symm, hword, hname⟩⟩
  · -- The word lies in the declared name, which does not begin before it either.
    have hne : s.passage.name ≠ [] := by simp [hinner]
    obtain ⟨rest, hrest, hrun⟩ := exists_name_eq_takeWhile hne
    obtain ⟨rfl, hword⟩ := run_eq_of_wordAt h hrest hrun hinner (by
      intro hne'
      have hpos := size_pos hne'
      have hlater := c.utf8Size_pos
      apply stop_token_ne limit hs <;>
        simp only [Passage.chars, beforeName, show s.passage.form.word = s.word from rfl, hinner,
          size_append, size_cons] <;> omega)
    exact ⟨s, hs, Or.inr ⟨(List.append_nil _).symm, hword⟩⟩

/-- A declared name begins where no token begins. -/
theorem start_token_ne {s : Site source} (hs : s ∈ all source) (hname : s.passage.name ≠ []) :
    ∀ t ∈ (all source).map (token limit), t.span.start ≠ size s.beforeName := by
  intro token htoken h
  obtain ⟨t, ht, rfl⟩ := List.mem_map.mp htoken
  rw [span_token] at h
  change size t.before = size s.beforeName at h
  have hword := size_pos s.word_ne_nil
  have hpos := size_pos hname
  rcases eq_or_prefix_of_mem_all hs ht with rfl | hst | hts
  · simp only [beforeName, size_append] at h
    omega
  · have hle := size_mono hst
    rw [chars_eq_append_blanks, size_append, size_append] at hle
    omega
  · have hle := size_mono ((List.prefix_append t.before t.passage.chars).trans hts)
    simp only [beforeName, size_append] at h
    omega

end Site

/-! ### The keywords of a source -/

section Keywords

variable {source : String} {options : Options}

/-- Without a length limit, the symbols in the end are named like the declared names. -/
theorem exists_symbol_iff (h : options.maxTokenLength = none) (w : String) :
    (∃ s ∈ (Scanner.ofSource source options).finish.table.symbols, s.name = w) ↔
      ∃ d ∈ declaredIn source options, String.ofList d.name = w := by
  have hshown : DeclaredName.shown options.maxTokenLength = fun d => String.ofList d.name := by
    rw [h]
    rfl
  have hnames : (Scanner.ofSource source options).finish.table.symbols.map Symbol.name =
      ((declaredIn source options).map fun d => String.ofList d.name).eraseDups := by
    rw [symbols_finish_ofSource, List.map_map, ← hshown, ← map_firstsBy]
    rfl
  rw [← List.mem_map, hnames, List.mem_eraseDups, List.mem_map]

theorem mem_declaredIn_iff {before word : List Char} (hword : word ≠ []) :
    ⟨before, word⟩ ∈ declaredIn source options ↔
      ∃ s ∈ Site.all source.toList, s.beforeName = before ∧ s.passage.name = word := by
  rw [declaredIn_eq, Site.declaredNames, List.mem_filterMap]
  apply exists_congr
  intro s
  apply and_congr_right
  intro _
  rw [Site.declaredName?_eq_some_iff, DeclaredName.mk.injEq]
  constructor
  · exact fun h => h.2
  · rintro ⟨rfl, rfl⟩
    exact ⟨hword, rfl, rfl⟩

/-- A keyword is handed out as one exactly if it does not stand in the place of a declared name. -/
theorem exists_keyword_token_iff {before word behind : List Char}
    (h : WordAt source.toList (Scanner.ofSource source options).tokens before word behind)
    (hkeyword : String.ofList word ∈ keywords) :
    (∃ t ∈ (Scanner.ofSource source options).tokens,
      t.kind = .keyword ∧ t.span = ⟨size before, size (before ++ word)⟩) ↔
        ⟨before, word⟩ ∉ declaredIn source options := by
  have hne : word ≠ [] := by
    rintro rfl
    exact absurd h.start Bool.false_ne_true
  rw [mem_declaredIn_iff hne]
  rw [Scanner.tokens_eq_map_all] at h ⊢
  constructor
  · rintro ⟨t, ht, -, hspan⟩ ⟨s, hs, rfl, rfl⟩
    exact Site.start_token_ne _ hs hne t ht (by rw [hspan])
  · intro hnot
    obtain ⟨s, hs, ⟨rfl, rfl, hname⟩ | hdeclared⟩ := Site.exists_of_wordAt _ h
    · refine ⟨_, List.mem_map_of_mem hs, ?_, Site.span_token ..⟩
      have hfront : (Form.front s.first s.behind).1 = _ := Form.front_of_name hname
      rw [Site.word, Site.form_passage, hfront] at hkeyword
      rw [Site.kind_token, hfront]
      exact if_pos (List.contains_iff_mem.mpr hkeyword)
    · exact (hnot ⟨s, hs, hdeclared⟩).elim

end Keywords

/-- Without a length limit, keywords are lost exactly in the place of declared names. -/
theorem keyword_words (source : String) {options : Options}
    (h : options.maxTokenLength = none) : KeywordWords source options where
  table w _ := exists_symbol_iff h w
  token _ _ _ hword hkeyword := exists_keyword_token_iff hword hkeyword
  kept_iff := by
    constructor
    · intro hkept d hd hkeyword
      obtain ⟨s, hs, hname⟩ := (exists_symbol_iff h _).mpr ⟨d, hd, rfl⟩
      exact hkept.table s hs (hname ▸ hkeyword)
    · intro hnone
      constructor
      · intro s hs hkeyword
        obtain ⟨d, hd, hname⟩ := (exists_symbol_iff h _).mp ⟨s, hs, rfl⟩
        exact hnone d hd (hname ▸ hkeyword)
      · intro before word behind hword hkeyword
        rw [exists_keyword_token_iff hword hkeyword]
        intro hd
        exact hnone _ hd hkeyword

/-- Behind `var`, the keyword `if` is declared. -/
theorem not_keywordsKept_var : ¬ KeywordsKept "var if" .default := by
  intro h
  have hdeclared : ⟨"if", 1, 4, false⟩ ∈
      (Scanner.ofSource "var if" .default).finish.table.symbols := by decide +kernel
  exact h.table _ hdeclared (by decide)

/-- In a chain of keywords, every second one is taken for a name. -/
theorem keyword_words_chain : Options.default.maxTokenLength = none ∧
    KeywordWords "var let const x; return /* let */ if" .default ∧
    (Scanner.ofSource "var let const x; return /* let */ if" .default).tokens.map
        (fun t => (t.kind, t.text)) =
      [(.keyword, "var"), (.keyword, "const"), (.delimiter, ";"), (.keyword, "return"),
        (.comment, "/* let */"), (.keyword, "if")] ∧
    (Scanner.ofSource "var let const x; return /* let */ if" .default).finish.table.symbols.map
        Symbol.name = ["let", "x"] := by
  refine ⟨rfl, keyword_words _ rfl, ?_, ?_⟩
  · decide +kernel
  · decide +kernel

end UsageScan
