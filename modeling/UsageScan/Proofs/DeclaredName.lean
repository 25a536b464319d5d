import UsageScan.Proofs.Site
/-!
# Declared names

Which names a source declares, and where, can be told from its tokens: a declared name is the
identifier that follows a declaration keyword behind nothing but blanks. The names found in this way
are the ones that a scan comes across.

## Main definitions

* `DeclaredName` — a name with all the text before it
* `Token.declaredName?` — the name that a token declares in a source
* `Occurrence.declared?` — a declaration as it is told
* `Site.declaredNames` — the declared names of a source

## Main results

* `Site.declaredName?_token` — the token of a site declares the name of its passage
* `Site.occurrences_eq` — what is come across at a site
* `Site.filterMap_declaredName?_map_token` — the tokens of a source declare its names
* `Site.filterMap_declared?_occurrences_ofText`, `Site.filterMap_declared?_occurrencesFrom` — these
  are the declared names that are told
-/

set_option autoImplicit false

namespace UsageScan

open Text

/-- A name in a text, with all the text before it. -/
structure DeclaredName where
  before : List Char
  name : List Char
deriving DecidableEq, Repr

namespace DeclaredName

/-- The byte offset of the name. -/
def offset (d : DeclaredName) : Nat :=
  size d.before

/-- The line of the name, counted from one. -/
def line (d : DeclaredName) : Nat :=
  d.before.count '\n' + 1

/-- The bytes of the name. -/
def span (d : DeclaredName) : Span :=
  ⟨d.offset, d.offset + size d.name⟩

/-- The name clipped to a length limit. -/
def shown (limit : Option Nat) (d : DeclaredName) : String :=
  (clip limit d.name).1

/-- The name as it is told, with its line and its byte offset. -/
def entry (limit : Option Nat) (d : DeclaredName) : String × Nat × Nat :=
  (d.shown limit, d.line, d.offset)

/-- The declaration that is told of the name. -/
def occurrence (limit : Option Nat) (d : DeclaredName) : Occurrence :=
  .declaration (d.shown limit) d.line d.offset (Position.start.afterAll (d.before ++ d.name)).location

/-- A clipped name is what the name begins with. -/
theorem shown_prefix_name (limit : Option Nat) (d : DeclaredName) :
    (d.shown limit).toList <+: d.name :=
  clip_prefix limit d.name

end DeclaredName

/-- The name that a token declares in a source: if the token is a declaration keyword and nothing
but blanks stands between it and an identifier, that identifier. -/
def Token.declaredName? (source : List Char) (t : Token) : Option DeclaredName := do
  let word ← slice? source t.span.start t.span.stop
  let (before, behind) ← splitAt? t.span.stop source
  let rest := behind.dropWhile isBlank
  if t.kind = .keyword ∧ isDeclarationKeyword (.ofList word) ∧ rest.head?.any isIdentifierStart then
    some ⟨before ++ behind.takeWhile isBlank, rest.takeWhile isIdentifierPart⟩
  else none

/-- A declaration as it is told: the name, its line and its byte offset. -/
def Occurrence.declared? : Occurrence → Option (String × Nat × Nat)
  | declaration name line offset _ => some (name, line, offset)
  | _ => none

namespace Site

variable {source : List Char} (limit : Option Nat)

/-- The place behind the word of a site. -/
def stop (s : Site source) : Location :=
  (s.position.afterAll s.word).location

/-- The declared name of a site. -/
def declaredName? (s : Site source) : Option DeclaredName :=
  if s.passage.name = [] then none else some ⟨s.beforeName, s.passage.name⟩

/-- A site declares the name of its passage unless that is empty. -/
theorem declaredName?_eq_some_iff {s : Site source} {d : DeclaredName} :
    s.declaredName? = some d ↔ s.passage.name ≠ [] ∧ ⟨s.beforeName, s.passage.name⟩ = d := by
  rw [declaredName?, Option.ite_none_left_eq_some, Option.some.injEq]

theorem span_token (s : Site source) :
    (s.token limit).span = ⟨size s.before, size (s.before ++ s.word)⟩ := by
  simp [token, Passage.token, position, Position.start, word]

/-- The source has the word of a site where its token says. -/
theorem slice?_token (s : Site source) :
    slice? source (s.token limit).span.start (s.token limit).span.stop = some s.word := by
  rw [slice?_eq_some_iff, span_token]
  exact ⟨s.before, _, s.source_eq_append_word, rfl, (size_append ..).symm⟩

/-- The token of a site declares the name of its passage. -/
theorem declaredName?_token (s : Site source) :
    (s.token limit).declaredName? source = s.declaredName? := by
  have hform : s.passage = (Passage.ofForm (Form.front s.first s.behind).1
    (Form.front s.first s.behind).2).1 := rfl
  have hword : s.word = (Form.front s.first s.behind).1.word := congrArg Form.word s.form_passage
  -- Behind the token, the source goes on with what is left by the form.
  have hcut : splitAt? (s.token limit).span.stop source =
      some (s.before ++ s.word, (Form.front s.first s.behind).2) := by
    rw [splitAt?_eq_some_iff, span_token, hword, List.append_assoc, Form.append_front]
    exact ⟨s.source_eq, rfl⟩
  simp only [Token.declaredName?, slice?_token, hcut, kind_token, Option.bind_eq_bind, Option.bind_some,
    declaredName?, beforeName, hform]
  -- From here on only the form and the text behind it matter.
  generalize (Form.front s.first s.behind).1 = f at hword ⊢
  generalize (Form.front s.first s.behind).2 = ds
  rw [hword]
  cases hdeclares : f.declares with
  | true =>
    have hkeyword : f.kind = .keyword ∧ isDeclarationKeyword (.ofList f.word) = true := by
      simpa [Form.declares] using hdeclares
    by_cases hstart : (ds.dropWhile isBlank).head?.any isIdentifierStart
    · have hname := Passage.takeWhile_isIdentifierPart_ne_nil hstart
      simp [Passage.ofForm, hdeclares, hkeyword, hstart, hname, Passage.splitName]
    · simp [Passage.ofForm, hdeclares, hstart, Passage.splitName]
  | false =>
    have hkeyword : ¬ (f.kind = .keyword ∧ isDeclarationKeyword (.ofList f.word) = true) := by
      simpa [Form.declares] using hdeclares
    rw [if_neg fun h => hkeyword ⟨h.1, h.2.1⟩]
    simp [Passage.ofForm, hdeclares]

/-- What is come across at a site: its token, its declared name, and line breaks. -/
theorem occurrences_eq (s : Site source) : s.occurrences limit =
    .token (s.token limit) s.stop :: (Passage.lineBreaksIn s.passage.gap ++
      (s.declaredName?.toList.map (DeclaredName.occurrence limit) ++
        Passage.lineBreaksIn s.passage.blanks)) := by
  have hplace : (s.position.afterAll s.word).afterAll s.passage.gap =
      Position.start.afterAll s.beforeName := by
    simp only [position, beforeName, Position.afterAll_append]
  rw [occurrences, Passage.occurrences, show s.passage.form.word = s.word from rfl, hplace,
    Passage.declaration, declaredName?]
  by_cases hname : s.passage.name = []
  · rw [if_pos hname, if_pos hname]
    rfl
  · rw [if_neg hname, if_neg hname, ← Position.afterAll_append]
    simp only [Option.toList_some, List.map_singleton, DeclaredName.occurrence, DeclaredName.shown,
      DeclaredName.line, DeclaredName.offset, Position.start_afterAll]
    rfl

/-- What is made of the occurrences at a site, if nothing is made of line breaks. -/
theorem filterMap_occurrences {α : Type} (g : Occurrence → Option α) (hg : g .lineBreak = none)
    (s : Site source) : (s.occurrences limit).filterMap g =
      (g (.token (s.token limit) s.stop)).toList ++
        s.declaredName?.toList.filterMap (g ∘ DeclaredName.occurrence limit) := by
  have hbreaks (cs : List Char) : (Passage.lineBreaksIn cs).filterMap g = [] := by
    rw [Passage.lineBreaksIn, List.filterMap_replicate_of_none hg]
  rw [occurrences_eq, ← List.singleton_append, List.filterMap_append, List.filterMap_append,
    List.filterMap_append, hbreaks, hbreaks, List.nil_append, List.append_nil, List.filterMap_map]
  cases htoken : g (.token (s.token limit) s.stop) <;> simp [htoken]

/-- What is made of the occurrences of a whole source, if nothing is made of line breaks and of the
end. -/
theorem filterMap_occurrences_ofText {α : Type} (g : Occurrence → Option α)
    (hbreak : g .lineBreak = none) (hend : g .endOfText = none) (source : List Char) :
    ((Layout.ofText source).occurrences limit .start).filterMap g =
      (all source).flatMap fun s => (s.occurrences limit).filterMap g := by
  rw [flatMap_occurrences_all, List.filterMap_append, List.filterMap_append,
    Passage.lineBreaksIn, List.filterMap_replicate_of_none hbreak, List.filterMap_flatMap,
    List.filterMap_cons_none hend]
  exact List.append_nil _

/-- The declared names of a source. -/
def declaredNames (source : List Char) : List DeclaredName :=
  (all source).filterMap declaredName?

/-- A declared name is where it says. -/
theorem exists_of_mem_declaredNames {d : DeclaredName} (h : d ∈ declaredNames source) :
    ∃ behind, source = d.before ++ d.name ++ behind := by
  obtain ⟨s, -, hs⟩ := List.mem_filterMap.mp h
  obtain ⟨-, rfl⟩ := declaredName?_eq_some_iff.mp hs
  exact ⟨_, s.source_eq_append_name⟩

theorem before_of_mem_declaredNames {d : DeclaredName} (h : d ∈ declaredNames source) :
    d.before <+: source := by
  obtain ⟨behind, hsource⟩ := exists_of_mem_declaredNames h
  rw [hsource, List.append_assoc]
  exact List.prefix_append ..

/-- What is made of the declared name of each site is made of the declared names. -/
theorem flatMap_map_declaredName? {α : Type} (f : DeclaredName → α) (source : List Char) :
    ((all source).flatMap fun s => s.declaredName?.toList.map f) = (declaredNames source).map f := by
  rw [declaredNames, List.filterMap_eq_flatMap_toList declaredName?, List.map_flatMap]

/-- The names that tokens declare are those of their sites. -/
theorem filterMap_declaredName?_map_token :
    ((all source).map (token limit)).filterMap (Token.declaredName? source) =
      declaredNames source := by
  rw [List.filterMap_map, declaredNames, ← funext (declaredName?_token limit)]
  rfl

/-- What is told of declared names in a whole source are its declared names. -/
theorem filterMap_declared?_occurrences_ofText (source : List Char) :
    ((Layout.ofText source).occurrences limit .start).filterMap Occurrence.declared? =
      (declaredNames source).map (DeclaredName.entry limit) := by
  have hsite (s : Site source) : (s.occurrences limit).filterMap Occurrence.declared? =
      s.declaredName?.toList.map (DeclaredName.entry limit) := by
    rw [filterMap_occurrences limit _ rfl]
    cases s.declaredName? <;> rfl
  rw [filterMap_occurrences_ofText limit _ rfl rfl, funext hsite, flatMap_map_declaredName?]

/-- The declared names of a source are those that are told of it. -/
theorem filterMap_declared?_occurrencesFrom (source : String) :
    (Pull.occurrencesFrom limit (.ofText source)).filterMap Occurrence.declared? =
      (declaredNames source.toList).map (DeclaredName.entry limit) := by
  rw [Cursor.ofText, Pull.occurrencesFrom_mk, filterMap_declared?_occurrences_ofText]

end Site

end UsageScan
