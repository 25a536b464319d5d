import UsageScan.Proofs.Reached
import UsageScan.Proofs.SourceHistory
/-!
# Places

Every place that a scan tells can be counted in the source: the line and the column of a token in
the text before it, the lines read in the text read, the place of a symbol in the text before the
first declaration of its name, and the number of all lines in the whole text.

## Main definitions

* `Symbol.IsAt` — a symbol at a declared name of a source
* `Places` — what the places told by a scan are

## Main results

* `Binder.find?_of_mem_symbolsOf` — a symbol stands where its name was declared first
* `Scanner.exists_isAt_of_mem` — so do the symbols of a scanner, at any time
* `places_scan` — the places told by any scan
-/

set_option autoImplicit false

namespace UsageScan

open Text

/-- A symbol at a declared name of a source, whose name may have been clipped. -/
structure Symbol.IsAt (source : List Char) (s : Symbol) (d : DeclaredName) : Prop where
  line : s.line = d.before.count '\n' + 1
  offset : s.offset = size d.before
  /-- At that offset the source goes on with the name. -/
  name : ∃ behind, splitAt? s.offset source = some (d.before, behind) ∧ s.name.toList <+: behind

/-- What the places told by a scan are. -/
structure Places (source : String) (options : Options) : Prop where
  /-- A token stands behind the lines before it and behind the characters of its own line. -/
  token : ∀ t ∈ (Scanner.ofSource source options).tokens, ∃ before behind,
    splitAt? t.span.start source.toList = some (before, behind) ∧
      t.location = ⟨before.count '\n' + 1, (lastLine before).length + 1⟩
  /-- After any number of tokens, the lines read are those of the text read. -/
  lines : ∀ s, Scanner.Reached source options s → ∃ read, source.toList = read ++ s.cursor.rest ∧
    s.cursor.offset = size read ∧ s.lines = read.count '\n'
  /-- At any time and in the end, a symbol stands at the first declaration of its name. -/
  symbol : ∀ s, Scanner.Reached source options s →
    ∀ sym, sym ∈ s.result.table.symbols ∨ sym ∈ s.finish.table.symbols →
      ∃ d, (declaredIn source options).find? (·.shown options.maxTokenLength = sym.name) = some d ∧
        sym.IsAt source.toList d
  /-- In the end, the lines read are those of the source. -/
  totalLines : ∀ s, Scanner.Reached source options s →
    s.finish.totalLines = source.toList.count '\n'

/-- A symbol of a history stands where its name is declared first, whatever comes later. -/
theorem Binder.find?_of_mem_symbolsOf {h : List Timed} {s : Symbol} (hs : s ∈ symbolsOf h)
    (later : List Timed) : ∃ d, (declarations (h ++ later)).find? (·.name = s.name) = some d ∧
      s.line = d.line ∧ s.offset = d.offset := by
  obtain ⟨d, hd, rfl⟩ := List.mem_map.mp hs
  have hfirst := (mem_firstsBy_iff Declaration.name).mp hd
  -- What is found among the declarations so far is found before all that come later.
  refine ⟨d, ?_, rfl, rfl⟩
  rw [declarations, List.filterMap_append, List.find?_append, Option.or_eq_some_iff]
  exact Or.inl hfirst

/-- A symbol that stands where its name is declared first in a source stands at that name. -/
theorem Site.isAt_of_find? {limit : Option Nat} {source : List Char} {s : Symbol}
    {d : Binder.Declaration}
    (hd : (Binder.declarations (history limit source)).find? (·.name = s.name) = some d)
    (hline : s.line = d.line) (hoffset : s.offset = d.offset) :
    ∃ d, (declaredNames source).find? (·.shown limit = s.name) = some d ∧ s.IsAt source d := by
  rw [declarations_history, List.find?_map, Option.map_eq_some_iff] at hd
  obtain ⟨d', hfirst, rfl⟩ := hd
  change (declaredNames source).find? (·.shown limit = s.name) = some d' at hfirst
  refine ⟨d', hfirst, hline, hoffset, ?_⟩
  obtain ⟨behind, hsource⟩ := exists_of_mem_declaredNames (List.mem_of_find?_eq_some hfirst)
  have hname := List.find?_some hfirst
  rw [decide_eq_true_iff] at hname
  refine ⟨d'.name ++ behind, ?_, ?_⟩
  · rw [splitAt?_eq_some_iff, hoffset, hsource, List.append_assoc]
    exact ⟨rfl, rfl⟩
  · rw [← hname]
    exact (d'.shown_prefix_name limit).trans (List.prefix_append ..)

namespace Scanner

variable {source : String} {options : Options} {s : Scanner}

/-- At any time, a symbol stands at the first declaration of its name in the whole source. -/
theorem exists_isAt_of_mem (h : Reached source options s) {sym : Symbol}
    (hsym : sym ∈ s.result.table.symbols) :
    ∃ d, (Site.declaredNames source.toList).find? (·.shown options.maxTokenLength = sym.name) =
      some d ∧ sym.IsAt source.toList d := by
  -- What has been come across so far is the first part of a history whose times ascend.
  obtain ⟨seen, hfindings, hseen⟩ := (stands_of_reached h).seen
  have hhistory := filterMap_timed?_occurrencesFrom options.maxTokenLength source
  rw [← hseen, List.filterMap_append] at hhistory
  have hordered := Site.pairwise_history options.maxTokenLength source.toList
  rw [← hhistory] at hordered
  have hhold := Findings.hold_observeAll_start options.checkSemicolons seen
    (List.pairwise_append.mp hordered).1
  rw [result, hfindings, hhold.symbols] at hsym
  obtain ⟨d, hfirst, hline, hoffset⟩ := Binder.find?_of_mem_symbolsOf hsym
    (s.ahead.filterMap Occurrence.timed?)
  rw [hhistory] at hfirst
  exact Site.isAt_of_find? hfirst hline hoffset

/-- However far a scanner has come, in the end it has read all lines. -/
theorem totalLines_finish (h : Reached source options s) :
    s.finish.totalLines = source.toList.count '\n' := by
  obtain ⟨hreached, hrest⟩ := reached_drainFrom h s.findings.log.size #[]
  obtain ⟨read, hsource, hposition⟩ := (stands_of_reached hreached).read
  rw [hrest, List.append_nil] at hsource
  rw [finish, result, drain, lines, hposition, hsource, Position.start_afterAll]

end Scanner

/-- The places told by any scan. -/
theorem places_scan (source : String) (options : Options) : Places source options where
  token t ht := by
    rw [Scanner.tokens_eq_map_all, List.mem_map] at ht
    obtain ⟨s, -, rfl⟩ := ht
    refine ⟨s.before, s.first :: s.behind, ?_, ?_⟩
    · rw [splitAt?_eq_some_iff, Site.span_token]
      exact ⟨s.source_eq, rfl⟩
    · rw [Site.token, Passage.token, Site.position, Position.start_afterAll]
      rfl
  lines s h := by
    obtain ⟨read, hsource, hposition⟩ := (Scanner.stands_of_reached h).read
    refine ⟨read, hsource, ?_, ?_⟩
    · rw [Cursor.offset, hposition, Position.start_afterAll]
    · rw [Scanner.lines, hposition, Position.start_afterAll]
  symbol s h sym hsym := by
    rw [declaredIn_eq]
    rcases hsym with hsym | hsym
    · exact Scanner.exists_isAt_of_mem h hsym
    · exact Scanner.exists_isAt_of_mem (Scanner.reached_drainFrom h _ _).1 hsym
  totalLines s h := Scanner.totalLines_finish h

end UsageScan
