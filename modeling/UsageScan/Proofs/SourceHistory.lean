import UsageScan.Proofs.Findings
import UsageScan.Proofs.Lossless
/-!
# The history of a source

What a source declares and uses, as a history: each declared name at its byte offset, and each
identifier that is a token at the offset where it begins. What a scan has found in the end is what
this history leads to.

## Main definitions

* `Site.history` — what a source declares and uses

## Main results

* `Site.declarations_history`, `Site.uses_history` — its declarations and its uses
* `Site.pairwise_history` — they come one after another
* `Scanner.hold_drain_ofSource` — what a scan has found in the end
-/

set_option autoImplicit false

namespace UsageScan

open Text

/-- The declaration that a declared name is. -/
def DeclaredName.declaration (limit : Option Nat) (d : DeclaredName) : Binder.Declaration :=
  ⟨d.offset, d.shown limit, d.line, d.offset⟩

/-- The use that an identifier is. -/
def Token.use (t : Token) : Binder.Use :=
  ⟨t.span.start, t.text⟩

/-- Whether a token is an identifier. -/
def Token.isIdentifier (t : Token) : Bool :=
  t.kind = .identifier

namespace Site

variable (limit : Option Nat) {source : List Char}

/-- What is declared and used at a site. -/
def timed (s : Site source) : List Binder.Timed :=
  (s.occurrences limit).filterMap Occurrence.timed?

/-- What a source declares and uses. -/
def history (source : List Char) : List Binder.Timed :=
  (all source).flatMap (timed limit)

theorem timed_eq (s : Site source) : s.timed limit =
    (if (s.token limit).isIdentifier then
        [⟨(s.token limit).span.start, .markUsed (s.token limit).text⟩] else []) ++
      s.declaredName?.toList.map fun d =>
        ⟨d.offset, .declare (d.shown limit) d.line d.offset⟩ := by
  rw [timed, filterMap_occurrences limit _ rfl, Occurrence.timed?]
  simp only [Token.isIdentifier, decide_eq_true_eq]
  congr 1
  · split <;> rfl
  · cases s.declaredName? <;> rfl

/-- The declarations of a source are its declared names. -/
theorem declarations_history (source : List Char) :
    Binder.declarations (history limit source) =
      (declaredNames source).map (DeclaredName.declaration limit) := by
  have hsite (s : Site source) : (s.timed limit).filterMap Binder.Timed.declaration? =
      s.declaredName?.toList.map (DeclaredName.declaration limit) := by
    rw [timed_eq, List.filterMap_append, List.filterMap_map]
    cases s.declaredName? <;> split <;> rfl
  rw [Binder.declarations, history, List.filterMap_flatMap, funext hsite,
    flatMap_map_declaredName?]

/-- The uses of a source are its identifiers. -/
theorem uses_history (source : List Char) : Binder.uses (history limit source) =
    (((all source).map (token limit)).filter Token.isIdentifier).map Token.use := by
  have hsite (s : Site source) : (s.timed limit).filterMap Binder.Timed.use? =
      ([s.token limit].filter Token.isIdentifier).map Token.use := by
    rw [timed_eq, List.filterMap_append, List.filterMap_map]
    cases s.declaredName? <;> cases hid : (s.token limit).isIdentifier <;>
      simp [hid, Token.use, Binder.Timed.use?]
  rw [Binder.uses, history, List.filterMap_flatMap, funext hsite, ← List.map_flatMap,
    ← List.filter_flatMap, ← List.map_eq_flatMap]

/-- The operation at a site comes where a span of the site begins. -/
theorem map_time_timed_sublist (s : Site source) :
    ((s.timed limit).map Binder.Timed.time).Sublist (s.spans.map Span.start) := by
  have hnames : s.declaredName?.toList.map (Binder.Timed.time ∘ fun d =>
      ⟨d.offset, .declare (d.shown limit) d.line d.offset⟩) =
        s.declaredName?.toList.map (Span.start ∘ DeclaredName.span) := rfl
  rw [timed_eq, List.map_append, List.map_map, hnames, spans, List.map_cons, List.map_map]
  have htoken : (List.map Binder.Timed.time (if (s.token limit).isIdentifier then
      [⟨(s.token limit).span.start, .markUsed (s.token limit).text⟩] else [])).Sublist
        [size s.before] := by
    rw [span_token]
    split
    · exact List.Sublist.refl _
    · exact List.nil_sublist _
  exact htoken.append (List.Sublist.refl _)

theorem pairwise_start_all (source : List Char) :
    ((all source).flatMap spans).Pairwise fun x y => x.start < y.start := by
  -- A span is not empty, so what begins behind it begins later than it does.
  apply (covers_all source).pairwise.imp_of_mem
  intro x y hx _ hxy
  obtain ⟨word, hslice, hword⟩ := (covers_all source).slice x hx
  obtain ⟨before, behind, -, -, hstop⟩ := slice?_eq_some_iff.mp hslice
  have hpos := size_pos hword
  omega

/-- What a source declares and uses comes one after another. -/
theorem pairwise_history (source : List Char) :
    (history limit source).Pairwise fun d e => d.time < e.time := by
  obtain ⟨hwithin, hacross⟩ := List.pairwise_flatMap.mp (pairwise_start_all source)
  -- Times are starts of spans, and these ascend within a site and from site to site.
  refine List.pairwise_flatMap.mpr ⟨?_, hacross.imp ?_⟩
  · intro s hs
    exact List.pairwise_map.mp
      ((List.pairwise_map.mpr (hwithin s hs)).sublist (s.map_time_timed_sublist limit))
  · intro s t hst d hd e he
    obtain ⟨x, hx, hdx⟩ := List.mem_map.mp
      ((s.map_time_timed_sublist limit).subset (List.mem_map_of_mem hd))
    obtain ⟨y, hy, hey⟩ := List.mem_map.mp
      ((t.map_time_timed_sublist limit).subset (List.mem_map_of_mem he))
    rw [← hdx, ← hey]
    exact hst x hx y hy

end Site

/-- What is declared and used is all that a history takes from what is come across. -/
theorem filterMap_timed?_occurrencesFrom (limit : Option Nat) (source : String) :
    (Pull.occurrencesFrom limit (.ofText source)).filterMap Occurrence.timed? =
      Site.history limit source.toList := by
  rw [Cursor.ofText, Pull.occurrencesFrom_mk, Site.filterMap_occurrences_ofText limit _ rfl rfl]
  rfl

/-- A scan has found in the end what its source declares and uses. -/
theorem Scanner.hold_drain_ofSource (source : String) (options : Options) :
    (ofSource source options).drain.2.findings.Hold
      (Site.history options.maxTokenLength source.toList) := by
  have hnamed := filterMap_timed?_occurrencesFrom options.maxTokenLength source
  rw [findings_drain_ofSource, ← hnamed]
  refine Findings.hold_observeAll_start _ _ ?_
  rw [hnamed]
  exact Site.pairwise_history _ _

end UsageScan
