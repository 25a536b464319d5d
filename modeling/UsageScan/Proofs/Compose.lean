import UsageScan.Proofs.Places
import UsageScan.Proofs.Shift
/-!
# Scanning at the end of a line

If a text ends with a line and nothing is open there, then whatever comes next is scanned as if it
stood alone. Nothing that a scanner has seen decides how the next line falls into tokens, but for a
string or a comment that is not closed and a keyword whose name is still to come.

## Main definitions

* `Token.awaitsName` — a keyword at the end of a source whose name is still to come
* `Ended` — a source that ends with a line where nothing is open
* `Composes` — what the scans of two texts have in common with the scan of both in a row

## Main results

* `Ended.complete` — the passages of such a source
* `compose_scan` — two texts in a row
-/

set_option autoImplicit false

namespace UsageScan

open Text

/-- Whether a token at the end of a source waits for a name: it is a declaration keyword with
nothing but blanks behind it. -/
def Token.awaitsName (source : List Char) (t : Token) : Bool :=
  t.kind = .keyword &&
    ((slice? source t.span.start t.span.stop).any fun word => isDeclarationKeyword (.ofList word)) &&
      (splitAt? t.span.stop source).any fun parts => parts.2.all isBlank

/-- A source that is empty or ends with a line break and at whose end nothing is open. -/
structure Ended (source : String) (options : Options) : Prop where
  line : EndsLine source.toList
  terminated : ∀ t ∈ (Scanner.ofSource source options).tokens, t.flags.unterminated = false
  named : ∀ t ∈ (Scanner.ofSource source options).tokens.getLast?,
    t.awaitsName source.toList = false

/-- A declared name in a text that stands behind another one. -/
def DeclaredName.behind (before : List Char) (d : DeclaredName) : DeclaredName :=
  ⟨before ++ d.before, d.name⟩

/-- What the scans of two texts have in common with the scan of both in a row. -/
structure Composes (a b : String) (options : Options) : Prop where
  /-- The tokens of the first text come first, and then those of the second one further on. -/
  tokens : (Scanner.ofSource (a ++ b) options).tokens = (Scanner.ofSource a options).tokens ++
    (Scanner.ofSource b options).tokens.map (.shift (size a.toList) (a.toList.count '\n'))
  /-- So do the names that the tokens declare. -/
  declared : declaredIn (a ++ b) options =
    declaredIn a options ++ (declaredIn b options).map (.behind a.toList)
  /-- So does all that is come across, but for the end of the first text. -/
  occurrences : ∃ seen,
    Pull.occurrencesFrom options.maxTokenLength (.ofText a) = seen ++ [.endOfText] ∧
      Pull.occurrencesFrom options.maxTokenLength (.ofText (a ++ b)) = seen ++
        (Pull.occurrencesFrom options.maxTokenLength (.ofText b)).map
          (.shift (size a.toList) (a.toList.count '\n'))
  /-- So do the declarations among that, with their lines and their offsets. -/
  told : (Pull.occurrencesFrom options.maxTokenLength (.ofText (a ++ b))).filterMap
      Occurrence.declared? =
    (Pull.occurrencesFrom options.maxTokenLength (.ofText a)).filterMap Occurrence.declared? ++
      ((Pull.occurrencesFrom options.maxTokenLength (.ofText b)).filterMap
        Occurrence.declared?).map fun (name, line, offset) =>
          (name, a.toList.count '\n' + line, size a.toList + offset)
  /-- The lines add up. -/
  totalLines : (Scanner.ofSource (a ++ b) options).finish.totalLines =
    (Scanner.ofSource a options).finish.totalLines + (Scanner.ofSource b options).finish.totalLines

/-! ### The end of a source -/

/-- The token of the last site waits for a name if it announces one and the site has none. -/
theorem Site.awaitsName_token {source : List Char} (limit : Option Nat) {s : Site source}
    (hrest : s.rest = []) (hdeclares : s.passage.form.declares = true)
    (hname : s.passage.name = []) : (s.token limit).awaitsName source = true := by
  -- Without a name, all that comes behind the token are the blanks of its passage.
  have hsource := s.source_eq_append_word
  rw [hname, hrest, List.nil_append, List.append_nil] at hsource
  have hcut : splitAt? (s.token limit).span.stop source =
      some (s.before ++ s.word, s.passage.gap ++ s.passage.blanks) := by
    rw [splitAt?_eq_some_iff, span_token]
    exact ⟨hsource, rfl⟩
  have hblank : (s.passage.gap ++ s.passage.blanks).all isBlank = true := by
    rw [List.all_append, Bool.and_eq_true, List.all_eq_true, List.all_eq_true]
    exact ⟨fun _ => Passage.isBlank_of_mem_gap _ _, fun _ => Passage.isBlank_of_mem_blanks _ _⟩
  have hkeyword : (s.token limit).kind = .keyword ∧
      isDeclarationKeyword (.ofList s.word) = true := by
    rw [Form.declares, Bool.and_eq_true, decide_eq_true_eq] at hdeclares
    exact hdeclares
  rw [Token.awaitsName, slice?_token, hcut, Option.any_some, Option.any_some, hblank, hkeyword.1,
    hkeyword.2]
  rfl

/-- At the end of a source where nothing is open, nothing is open behind its passages. -/
theorem Ended.complete {source : String} {options : Options} (h : Ended source options) :
    Passage.Complete (Layout.ofText source.toList).passages where
  terminated g hg := by
    rw [← Site.map_passage_all, List.mem_map] at hg
    obtain ⟨s, hs, rfl⟩ := hg
    have htoken : s.token options.maxTokenLength ∈ (Scanner.ofSource source options).tokens := by
      rw [Scanner.tokens_eq_map_all]
      exact List.mem_map_of_mem hs
    exact (Bool.or_eq_false_iff.mp (h.terminated _ htoken)).1
  named g hg hdeclares hname := by
    rw [← Site.map_passage_all, List.getLast?_map] at hg
    obtain ⟨s, hs, rfl⟩ := Option.map_eq_some_iff.mp hg
    have hlast : s.token options.maxTokenLength ∈
        (Scanner.ofSource source options).tokens.getLast? := by
      rw [Scanner.tokens_eq_map_all, List.getLast?_map, hs]
      rfl
    have hwaits := Site.awaitsName_token options.maxTokenLength
      (Site.rest_of_mem_getLast?_allFrom hs) hdeclares hname
    rw [h.named _ hlast] at hwaits
    contradiction

/-! ### Two texts in a row -/

/-- Where nothing is open, all that is come across in two texts in a row is what is come across in
the first one, but for its end, and then what is come across further on in the second one. -/
theorem Ended.exists_occurrences {a : String} {options : Options} (h : Ended a options)
    (b : String) (limit : Option Nat) : ∃ seen,
    Pull.occurrencesFrom limit (.ofText a) = seen ++ [.endOfText] ∧
      Pull.occurrencesFrom limit (.ofText (a ++ b)) = seen ++
        (Pull.occurrencesFrom limit (.ofText b)).map
          (.shift (size a.toList) (a.toList.count '\n')) := by
  have hlayout : Layout.ofText (a ++ b).toList =
      (Layout.ofText a.toList).append (Layout.ofText b.toList) := by
    rw [String.toList_append, Layout.ofText_append h.line h.complete]
  -- The second text begins at a position that is the start further on.
  refine ⟨(Layout.ofText a.toList).body limit .start, ?_, ?_⟩
  · rw [Cursor.ofText, Pull.occurrencesFrom_mk, Layout.occurrences_eq_body]
  · rw [Cursor.ofText, Cursor.ofText, Pull.occurrencesFrom_mk, Pull.occurrencesFrom_mk,
      Layout.occurrences_eq_body, Layout.occurrences_eq_body, hlayout, Layout.body_append,
      Layout.chars_ofText, Position.start_afterAll_of_endsLine h.line, Layout.body_shift,
      List.map_append, List.append_assoc]
    rfl

/-- What is made of the occurrences composes if it goes further on with them and nothing is made of
the end. -/
theorem Ended.filterMap_occurrences {α : Type} {a : String} {options : Options}
    (h : Ended a options) (b : String) (limit : Option Nat) {f : Occurrence → Option α}
    {shift : α → α} (hend : f .endOfText = none)
    (hshift : ∀ o : Occurrence,
      f (o.shift (size a.toList) (a.toList.count '\n')) = (f o).map shift) :
    (Pull.occurrencesFrom limit (.ofText (a ++ b))).filterMap f =
      (Pull.occurrencesFrom limit (.ofText a)).filterMap f ++
        ((Pull.occurrencesFrom limit (.ofText b)).filterMap f).map shift := by
  obtain ⟨seen, ha, hab⟩ := h.exists_occurrences b limit
  have hf : f ∘ Occurrence.shift (size a.toList) (a.toList.count '\n') =
      fun o => (f o).map shift := by
    funext o
    exact hshift o
  rw [hab, ha, List.filterMap_append, List.filterMap_append, List.filterMap_cons_none hend,
    List.filterMap_nil, List.append_nil, List.filterMap_map, hf, List.map_filterMap]

/-! ### The declared names -/

namespace DeclaredName

/-- The name that is told with a place in a source. -/
def ofEntry (source : List Char) (told : String × Nat × Nat) : DeclaredName :=
  ⟨((splitAt? told.2.2 source).map Prod.fst).getD [], told.1.toList⟩

/-- A name that is not clipped is known from what is told of it. -/
theorem ofEntry_entry {source behind : List Char} {d : DeclaredName}
    (h : source = d.before ++ behind) : ofEntry source (d.entry none) = d := by
  have hcut : splitAt? (size d.before) source = some (d.before, behind) := by
    rw [h, splitAt?_size_append]
  simp [ofEntry, entry, shown, clip, offset, hcut]

/-- Names of one source are known from what is told of them, if they are not clipped. -/
theorem eq_of_map_entry {source : List Char} {ds es : List DeclaredName}
    (hds : ∀ d ∈ ds, d.before <+: source) (hes : ∀ d ∈ es, d.before <+: source)
    (h : ds.map (entry none) = es.map (entry none)) : ds = es := by
  have hknown {names : List DeclaredName} (hnames : ∀ d ∈ names, d.before <+: source) :
      (names.map (entry none)).map (ofEntry source) = names := by
    rw [List.map_map, List.map_congr_left, List.map_id]
    intro d hd
    obtain ⟨behind, hsource⟩ := hnames d hd
    exact ofEntry_entry hsource.symm
  rw [← hknown hds, h, hknown hes]

theorem entry_behind (limit : Option Nat) (before : List Char) (d : DeclaredName) :
    (d.behind before).entry limit =
      ((d.entry limit).1, before.count '\n' + (d.entry limit).2.1,
        size before + (d.entry limit).2.2) := by
  simp [entry, behind, shown, line, offset, Nat.add_assoc]

end DeclaredName

theorem Ended.told_append {a : String} {options : Options} (h : Ended a options) (b : String)
    (limit : Option Nat) :
    (Pull.occurrencesFrom limit (.ofText (a ++ b))).filterMap Occurrence.declared? =
      (Pull.occurrencesFrom limit (.ofText a)).filterMap Occurrence.declared? ++
        ((Pull.occurrencesFrom limit (.ofText b)).filterMap Occurrence.declared?).map
          fun (name, line, offset) =>
            (name, a.toList.count '\n' + line, size a.toList + offset) := by
  apply h.filterMap_occurrences b limit rfl
  intro o
  cases o <;> rfl

/-- The declared names of two texts in a row, each with all the text before it. -/
theorem Ended.declaredNames_append {a : String} {options : Options} (h : Ended a options)
    (b : String) : Site.declaredNames (a ++ b).toList =
      Site.declaredNames a.toList ++ (Site.declaredNames b.toList).map (.behind a.toList) := by
  -- Both sides are names of the whole text, and the same is told of them.
  apply DeclaredName.eq_of_map_entry
  · intro d hd
    exact Site.before_of_mem_declaredNames hd
  · intro d hd
    rw [String.toList_append]
    rcases List.mem_append.mp hd with hd | hd
    · exact (Site.before_of_mem_declaredNames hd).trans (List.prefix_append ..)
    · obtain ⟨e, he, rfl⟩ := List.mem_map.mp hd
      exact (List.prefix_append_right_inj _).mpr (Site.before_of_mem_declaredNames he)
  · rw [← Site.filterMap_declared?_occurrencesFrom, h.told_append,
      Site.filterMap_declared?_occurrencesFrom, Site.filterMap_declared?_occurrencesFrom,
      List.map_append, List.map_map, List.map_map, List.append_cancel_left_eq]
    apply List.map_congr_left
    intro d _
    exact (d.entry_behind none a.toList).symm

/-- Where nothing is open at the end of a line, the scan of two texts in a row is that of the one
and that of the other further on. -/
theorem compose_scan (a b : String) (options : Options) (h : Ended a options) :
    Composes a b options where
  tokens := by
    rw [Scanner.tokens_eq_filterMap, Scanner.tokens_eq_filterMap, Scanner.tokens_eq_filterMap]
    apply h.filterMap_occurrences b _ rfl
    intro o
    cases o <;> rfl
  declared := by
    rw [declaredIn_eq, declaredIn_eq, declaredIn_eq, h.declaredNames_append]
  occurrences := h.exists_occurrences b _
  told := h.told_append b _
  totalLines := by
    rw [Scanner.totalLines_finish .ofSource, Scanner.totalLines_finish .ofSource,
      Scanner.totalLines_finish .ofSource, String.toList_append, List.count_append]

/-- A line comment behind a declared name leaves nothing open. -/
theorem compose_scan_declaration :
    Ended "let x = 'a' // b\n" ⟨true, some 2, none, true⟩ ∧
      Composes "let x = 'a' // b\n" "x = /* c" ⟨true, some 2, none, true⟩ := by
  have hended : Ended "let x = 'a' // b\n" ⟨true, some 2, none, true⟩ :=
    ⟨by decide +kernel, by decide +kernel, by decide +kernel⟩
  exact ⟨hended, compose_scan _ _ _ hended⟩

end UsageScan
