import UsageScan.Proofs.DeclaredName
import UsageScan.Proofs.Scan
/-!
# Nothing is lost

The tokens of a source and the names they declare take up the source without overlap and leave only
blanks between them. So a token stands for its slice of the source, and a text that is shown
differently differs in the way its flags tell.

## Main definitions

* `declaredIn` — the names that the tokens of a scan declare
* `occupied` — the spans of tokens and of the names they declare
* `Covers` — spans that take up a source without overlap, but for blanks
* `Lossless` — what the tokens of a scan keep of its source

## Main results

* `Site.covers_all` — the sites of a source cover it
* `Scanner.tokens_eq_map_all`, `Scanner.tokens_eq_filterMap` — the tokens of a scan, by sites and
  among all that is come across
* `lossless_scan` — no scan loses anything of its source
-/

set_option autoImplicit false

namespace UsageScan

open Text

/-- The names that the tokens of a scan declare, in order. -/
def declaredIn (source : String) (options : Options) : List DeclaredName :=
  (Scanner.ofSource source options).tokens.filterMap (Token.declaredName? source.toList)

/-- The spans of tokens and of the names they declare in a source, in order. -/
def occupied (source : List Char) (tokens : List Token) : List Span :=
  tokens.flatMap fun t => t.span :: (t.declaredName? source).toList.map DeclaredName.span

/-- Spans that take up a source without overlap, but for blanks. -/
structure Covers (source : List Char) (spans : List Span) : Prop where
  /-- Each span is a slice of the source that is not empty. -/
  slice : ∀ s ∈ spans, ∃ word, slice? source s.start s.stop = some word ∧ word ≠ []
  /-- Each span begins behind the ones before it. -/
  pairwise : spans.Pairwise fun s t => s.stop ≤ t.start
  /-- A character outside of all spans is a blank. -/
  blank : ∀ before c behind, source = before ++ c :: behind →
    (∀ s ∈ spans, s.contains (size before) = false) → isBlank c = true

/-- What the tokens of a scan keep of its source. -/
structure Lossless (source : String) (options : Options) : Prop where
  /-- The tokens and the names they declare take up the source. -/
  covers : Covers source.toList
    (occupied source.toList (Scanner.ofSource source options).tokens)
  /-- The names they declare are the ones that are come across. -/
  declared : (Pull.occurrencesFrom options.maxTokenLength (.ofText source)).filterMap
      Occurrence.declared? =
    (declaredIn source options).map (DeclaredName.entry options.maxTokenLength)
  /-- Nothing else than what is come across is made use of. -/
  findings : (Scanner.ofSource source options).drain.2.findings =
    (Findings.start options.checkSemicolons).observeAll
      (Pull.occurrencesFrom options.maxTokenLength (.ofText source))
  /-- Without a length limit, a text tells its slice of the source. -/
  text : options.maxTokenLength = none → ∀ t ∈ (Scanner.ofSource source options).tokens,
    ∃ word, slice? source.toList t.span.start t.span.stop = some word ∧
      t.text = .ofList (Form.shownText t.flags word)

/-! ### The sites of a source -/

namespace Site

variable {source : List Char} (limit : Option Nat)

/-- The spans of the token at a site and of its declared name. -/
def spans (s : Site source) : List Span :=
  ⟨size s.before, size (s.before ++ s.word)⟩ :: s.declaredName?.toList.map DeclaredName.span

theorem spans_eq (s : Site source) : s.spans =
    (s.token limit).span ::
      ((s.token limit).declaredName? source).toList.map DeclaredName.span := by
  rw [spans, span_token, declaredName?_token]

/-- A span at a site is that of a part of its passage. -/
theorem exists_of_mem_spans {s : Site source} {x : Span} (h : x ∈ s.spans) :
    ∃ before word behind, source = before ++ word ++ behind ∧ word ≠ [] ∧
      x = ⟨size before, size (before ++ word)⟩ ∧ s.before <+: before ∧
      before ++ word <+: s.before ++ s.passage.chars := by
  rw [spans, List.mem_cons, List.mem_map] at h
  rcases h with rfl | ⟨d, hd, rfl⟩
  · refine ⟨s.before, s.word, _, s.source_eq_append_word, s.word_ne_nil, rfl, List.prefix_rfl, ?_⟩
    exact (List.prefix_append_right_inj _).mpr (List.prefix_append ..)
  · rw [Option.mem_toList, declaredName?_eq_some_iff] at hd
    obtain ⟨hname, rfl⟩ := hd
    refine ⟨s.beforeName, s.passage.name, _, s.source_eq_append_name, hname, ?_, ?_, ?_⟩
    · rw [DeclaredName.span, size_append]
      rfl
    · rw [beforeName, List.append_assoc]
      exact List.prefix_append ..
    · rw [beforeName, List.append_assoc, List.append_assoc, List.prefix_append_right_inj,
        Passage.chars, ← List.append_assoc s.passage.gap, word]
      simp

theorem pairwise_spans (s : Site source) : s.spans.Pairwise fun x y => x.stop ≤ y.start := by
  have hle : size (s.before ++ s.word) ≤ size s.beforeName := by
    rw [beforeName, size_append _ s.passage.gap]
    exact Nat.le_add_right ..
  rw [spans, declaredName?]
  split
  · simp
  · simpa [DeclaredName.span, DeclaredName.offset] using hle

/-- A span covers every character of its slice. -/
theorem contains_of_append (before inner more : List Char) (c : Char) :
    (⟨size before, size (before ++ (inner ++ c :: more))⟩ : Span).contains
      (size (before ++ inner)) = true := by
  have hpos := c.utf8Size_pos
  simp only [Span.contains, size_append, size_cons, Bool.and_eq_true, decide_eq_true_eq]
  omega

/-- The sites of a source cover it. -/
theorem covers_all (source : List Char) : Covers source ((all source).flatMap spans) where
  slice x hx := by
    obtain ⟨s, -, hx⟩ := List.mem_flatMap.mp hx
    obtain ⟨before, word, behind, hsource, hword, rfl, -⟩ := exists_of_mem_spans hx
    refine ⟨word, ?_, hword⟩
    rw [slice?_eq_some_iff]
    exact ⟨before, behind, hsource, rfl, (size_append ..).symm⟩
  pairwise := by
    rw [List.pairwise_flatMap]
    refine ⟨fun s _ => s.pairwise_spans, pairwise_all.imp ?_⟩
    intro s t hst x hx y hy
    -- One span ends within its passage, and the other begins behind that passage.
    obtain ⟨before, word, -, -, -, rfl, -, hstop⟩ := exists_of_mem_spans hx
    obtain ⟨before', word', -, -, -, rfl, hstart, -⟩ := exists_of_mem_spans hy
    exact size_mono (hstop.trans (hst.trans hstart))
  blank before c behind hsource hfree := by
    -- A character that is no blank would lie in a word or in a name, and so in its span.
    by_contra hc
    obtain ⟨s, hs, ⟨inner, more, rfl, hword⟩ | ⟨inner, more, rfl, hname⟩⟩ :=
      exists_of_append hsource (by simpa using hc)
    · have hmem : ⟨size s.before, size (s.before ++ s.word)⟩ ∈ s.spans := List.mem_cons_self
      have hspan := hfree _ (List.mem_flatMap.mpr ⟨s, hs, hmem⟩)
      rw [hword, contains_of_append] at hspan
      contradiction
    · have hne : s.passage.name ≠ [] := by simp [hname]
      have hmem : DeclaredName.span ⟨s.beforeName, s.passage.name⟩ ∈ s.spans := by
        simp [spans, declaredName?, hne]
      have hspan := hfree _ (List.mem_flatMap.mpr ⟨s, hs, hmem⟩)
      rw [hname, DeclaredName.span, DeclaredName.offset, ← size_append, contains_of_append] at hspan
      contradiction

end Site

/-! ### The tokens of a scan -/

/-- The tokens of a source are those of its sites. -/
theorem Scanner.tokens_eq_map_all (source : String) (options : Options) :
    (ofSource source options).tokens =
      (Site.all source.toList).map (Site.token options.maxTokenLength) := by
  rw [tokens_ofSource, Site.map_token_all]

theorem Scanner.exists_site_of_mem_tokens {source : String} {options : Options} {t : Token}
    (ht : t ∈ (ofSource source options).tokens) :
    ∃ s : Site source.toList, s.token options.maxTokenLength = t := by
  rw [tokens_eq_map_all, List.mem_map] at ht
  obtain ⟨s, -, hst⟩ := ht
  exact ⟨s, hst⟩

/-- A token among all that is come across. -/
def Occurrence.token? : Occurrence → Option Token
  | token t _ => some t
  | _ => none

/-- The tokens of a scan are those that are come across. -/
theorem Scanner.tokens_eq_filterMap (source : String) (options : Options) :
    (ofSource source options).tokens =
      (Pull.occurrencesFrom options.maxTokenLength (.ofText source)).filterMap
        Occurrence.token? := by
  have hsite (s : Site source.toList) : (s.occurrences options.maxTokenLength).filterMap
      Occurrence.token? = [s.token options.maxTokenLength] := by
    rw [Site.filterMap_occurrences _ _ rfl]
    cases s.declaredName? <;> rfl
  rw [tokens_eq_map_all, Cursor.ofText, Pull.occurrencesFrom_mk,
    Site.filterMap_occurrences_ofText _ _ rfl rfl, funext hsite, List.map_eq_flatMap]

theorem declaredIn_eq (source : String) (options : Options) :
    declaredIn source options = Site.declaredNames source.toList := by
  rw [declaredIn, Scanner.tokens_eq_map_all, Site.filterMap_declaredName?_map_token]

theorem Site.occupied_eq_flatMap_spans (limit : Option Nat) (source : List Char) :
    occupied source ((all source).map (token limit)) = (all source).flatMap spans := by
  rw [occupied, List.flatMap_map, funext (spans_eq limit)]

/-- No scan loses anything of its source. -/
theorem lossless_scan (source : String) (options : Options) : Lossless source options where
  covers := by
    rw [Scanner.tokens_eq_map_all, Site.occupied_eq_flatMap_spans]
    exact Site.covers_all _
  declared := by
    rw [Cursor.ofText, Pull.occurrencesFrom_mk, Site.filterMap_declared?_occurrences_ofText,
      declaredIn_eq]
  findings := Scanner.findings_drain_ofSource source options
  text hlimit t ht := by
    rw [Scanner.tokens_eq_map_all, List.mem_map] at ht
    obtain ⟨s, -, rfl⟩ := ht
    refine ⟨s.word, s.slice?_token _, ?_⟩
    rw [hlimit, Site.token, Passage.token, Form.shownText_union]
    rfl

end UsageScan
