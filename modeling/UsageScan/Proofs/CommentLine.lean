import UsageScan.Proofs.Blanked
import UsageScan.Proofs.Header
import Mathlib.Data.List.Perm.Subperm
/-!
# Lines that end within comments

The scanner jumps over a comment without ending the lines in it, while it ends each line in blanks.
So if blanks stand in the place of the comments, no warning about a semicolon is lost, but there may
be new ones: where the only line break between two items is in a comment.

## Main definitions

* `withoutComments` — a source with blanks in the place of its comments
* `NamesApart` — no comment stands where a name is waited for
* `CommentsTransparent` — comments are like blanks for the check of semicolons
* `CommentLines` — what blanks in the place of comments change

## Main results

* `Site.blankedFrom_source` — a source without comments, by its passages
* `Layout.map_withoutBytes_body_blanked` — what is come across in it
* `SemicolonLint.warnings_blanked` — what the check makes of it
* `comment_lines_scan` — what blanks in the place of comments change in any scan
-/

set_option autoImplicit false

namespace UsageScan

open Text

namespace Text

/-- Whether a comment covers a byte. -/
def inComment (tokens : List Token) (offset : Nat) : Bool :=
  tokens.any fun t => t.kind = .comment && t.span.contains offset

/-- A text that begins at a byte offset, with spaces in the place of all characters in comments but
the line breaks. -/
def blankedFrom (tokens : List Token) (offset : Nat) : List Char → List Char
  | [] => []
  | c :: cs =>
    (if c ≠ '\n' ∧ inComment tokens offset then ' ' else c) ::
      blankedFrom tokens (offset + c.utf8Size) cs

end Text

/-- A source with spaces in the place of all characters in comments but the line breaks. -/
def withoutComments (source : String) (options : Options) : String :=
  .ofList (blankedFrom (Scanner.ofSource source options).tokens 0 source.toList)

/-- Behind a declaration keyword, nothing but blanks never leads to a comment. -/
def NamesApart (source : String) (options : Options) : Prop :=
  ∀ t ∈ (Scanner.ofSource source options).tokens, t.kind = .keyword →
    isDeclarationKeyword t.text = true → ∀ u ∈ (Scanner.ofSource source options).tokens,
      u.kind = .comment → ∀ between, slice? source.toList t.span.stop u.span.start = some between →
        ∃ c ∈ between, isBlank c = false

/-- The check of semicolons warns about the same places if blanks stand in the place of comments. -/
def CommentsTransparent (source : String) (options : Options) : Prop :=
  semicolonWarnings (withoutComments source options) options = semicolonWarnings source options

/-- What blanks in the place of comments change for the check of semicolons. -/
structure CommentLines (source : String) (options : Options) : Prop where
  /-- No warning is lost. -/
  kept : (semicolonWarnings source options).Sublist
    (semicolonWarnings (withoutComments source options) options)
  /-- There is a warning behind each item that a statement may end with if a line break comes before
  the next item, in a comment or not. -/
  warnings : semicolonWarnings (withoutComments source options) options =
    (SemicolonLint.start.unended source.toList [] (itemsIn source options)).map
      fun i => .missingSemicolon (i.stop source.toList)
  /-- So nothing changes exactly if none of these line breaks counts only because of a comment. -/
  transparent_iff : CommentsTransparent source options ↔
    ∀ before i behind, itemsIn source options = before ++ i :: behind →
      (SemicolonLint.after source.toList before.reverse).endsWith i = true →
      SemicolonLint.linesEnd source.toList [] i.span.stop behind = true →
      SemicolonLint.linesEnd source.toList (Scanner.ofSource source options).tokens i.span.stop
        behind = true

/-! ### A source without comments, by its passages -/

namespace Text

variable {tokens : List Token}

theorem blankedFrom_append (tokens : List Token) (offset : Nat) (as bs : List Char) :
    blankedFrom tokens offset (as ++ bs) =
      blankedFrom tokens offset as ++ blankedFrom tokens (offset + size as) bs := by
  induction as generalizing offset with
  | nil => rfl
  | cons a as ih =>
    rw [List.cons_append, blankedFrom, ih, blankedFrom, size_cons, Nat.add_assoc]
    rfl

/-- A stretch that is all in comments or all outside. -/
theorem blankedFrom_of_inComment (offset : Nat) (cs : List Char) {inside : Bool}
    (h : ∀ o, offset ≤ o → o < offset + size cs → inComment tokens o = inside) :
    blankedFrom tokens offset cs = if inside then blanked cs else cs := by
  induction cs generalizing offset with
  | nil =>
    rw [blankedFrom]
    exact (ite_self _).symm
  | cons c cs ih =>
    have hpos := c.utf8Size_pos
    rw [size_cons] at h
    rw [blankedFrom, h offset (Nat.le_refl _) (by omega),
      ih _ fun o hge hlt => h o (by omega) (by omega)]
    cases inside with
    | false => simp
    | true => by_cases hc : c = '\n' <;> simp [blanked, hc]

end Text

namespace Site

variable {source : List Char} (limit : Option Nat) {s : Site source} {o : Nat}

/-- The word of a site is in a comment if it is one. -/
theorem inComment_word (hs : s ∈ all source) (hge : size s.before ≤ o)
    (hlt : o < size (s.before ++ s.word)) : inComment ((all source).map (token limit)) o =
      decide (s.passage.form.kind = .comment) := by
  have hcontains : (s.token limit).span.contains o = true := by
    rw [span_token, Span.contains, Bool.and_eq_true, decide_eq_true_iff, decide_eq_true_iff]
    exact ⟨hge, hlt⟩
  rw [Bool.eq_iff_iff, inComment, List.any_eq_true, decide_eq_true_iff]
  constructor
  · rintro ⟨t, ht, hcomment⟩
    obtain ⟨t, htmem, rfl⟩ := List.mem_map.mp ht
    rw [Bool.and_eq_true, decide_eq_true_iff, span_token, Span.contains, Bool.and_eq_true,
      decide_eq_true_iff, decide_eq_true_iff] at hcomment
    obtain ⟨hkind, hstart, hstop⟩ : _ ∧ size t.before ≤ o ∧ o < size (t.before ++ t.word) :=
      hcomment
    have hchars (u : Site source) : u.before ++ u.word <+: u.before ++ u.passage.chars :=
      (List.prefix_append_right_inj _).mpr (List.prefix_append ..)
    -- Another site is before this one or behind it.
    rcases eq_or_prefix_of_mem_all hs htmem with rfl | hst | hts
    · exact hkind
    · have hle := size_mono ((hchars s).trans hst)
      omega
    · have hle := size_mono ((hchars t).trans hts)
      omega
  · intro hkind
    refine ⟨_, List.mem_map_of_mem hs, ?_⟩
    rw [hcontains, Bool.and_true, decide_eq_true_iff]
    exact hkind

/-- What comes behind the word in a passage is in no comment. -/
theorem inComment_behind (hs : s ∈ all source) (hge : size (s.before ++ s.word) ≤ o)
    (hlt : o < size (s.before ++ s.passage.chars)) :
    inComment ((all source).map (token limit)) o = false := by
  rw [inComment, List.any_eq_false]
  intro t ht hcomment
  obtain ⟨t, htmem, rfl⟩ := List.mem_map.mp ht
  rw [contains_token_eq_false limit hs htmem hge hlt, Bool.and_false] at hcomment
  contradiction

/-- A passage without its comment. -/
theorem blankedFrom_chars (hs : s ∈ all source) :
    blankedFrom ((all source).map (token limit)) (size s.before) s.passage.chars =
      s.passage.blankedChars := by
  have hword := blankedFrom_of_inComment (size s.before) s.word
    fun o hge hlt => inComment_word limit hs hge (by rw [size_append]; exact hlt)
  have hchars : s.passage.chars =
      s.word ++ (s.passage.gap ++ (s.passage.name ++ s.passage.blanks)) :=
    rfl
  have hbehind := blankedFrom_of_inComment (size (s.before ++ s.word))
    (s.passage.gap ++ (s.passage.name ++ s.passage.blanks))
    fun o hge hlt => inComment_behind limit hs hge (by
      rw [hchars, ← List.append_assoc, size_append]
      exact hlt)
  rw [hchars, blankedFrom_append, ← size_append, hword, hbehind, if_neg Bool.false_ne_true,
    Passage.blankedChars]
  by_cases hkind : s.passage.form.kind = .comment
  · have hempty : s.passage.gap = [] ∧ s.passage.name = [] := Passage.gap_name_of_comment hkind
    rw [if_pos (decide_eq_true hkind), if_pos hkind, hempty.1, hempty.2]
    rfl
  · rw [if_neg (by simp [hkind]), if_neg hkind, hchars]

/-- A text from any site on without its comments. -/
theorem blankedFrom_allFrom (before rest : List Char) (hsource : source = before ++ rest)
    (hrest : ∀ c ∈ rest.head?, isBlank c = false)
    (hall : allFrom before rest hsource hrest ⊆ all source) :
    blankedFrom ((all source).map (token limit)) (size before) rest =
      Passage.blankedText (Passage.all rest) := by
  induction rest using Passage.all.induct generalizing before with
  | case1 =>
    rw [Passage.all_nil]
    rfl
  | case2 c cs ih =>
    rw [allFrom_cons] at hall
    obtain ⟨hsite, hmore⟩ := List.cons_subset.mp hall
    have hchars := blankedFrom_chars limit hsite
    have hbehind := ih _ _ _ hmore
    rw [size_append] at hbehind
    rw [Passage.all_cons, Passage.blankedText, List.flatMap_cons]
    conv_lhs => rw [← Passage.append_front c cs]
    rw [blankedFrom_append, hbehind]
    exact congrArg (· ++ _) hchars

/-- A source without its comments, by its passages. -/
theorem blankedFrom_source (source : List Char) :
    blankedFrom ((all source).map (token limit)) 0 source =
      source.takeWhile isBlank ++
        Passage.blankedText (Passage.all (source.dropWhile isBlank)) := by
  have hrest := blankedFrom_allFrom limit (source.takeWhile isBlank) (source.dropWhile isBlank)
    List.takeWhile_append_dropWhile.symm (fun _ => Passage.isBlank_of_mem_head?_dropWhile)
    (List.Subset.refl _)
  -- All comments come behind the blanks at the start.
  have hlead : ∀ o, 0 ≤ o → o < 0 + size (source.takeWhile isBlank) →
      inComment ((all source).map (token limit)) o = false := by
    intro o _ hlt
    rw [inComment, List.any_eq_false]
    intro t ht hcomment
    obtain ⟨t, htmem, rfl⟩ := List.mem_map.mp ht
    rw [Bool.and_eq_true, span_token, Span.contains, Bool.and_eq_true, decide_eq_true_iff,
      decide_eq_true_iff] at hcomment
    have hstart : size t.before ≤ o := hcomment.2.1
    have hle := size_mono (before_of_mem_allFrom htmem)
    omega
  have hblank := blankedFrom_of_inComment 0 (source.takeWhile isBlank) hlead
  rw [if_neg Bool.false_ne_true] at hblank
  have hsplit := blankedFrom_append ((all source).map (token limit)) 0 (source.takeWhile isBlank)
    (source.dropWhile isBlank)
  rw [List.takeWhile_append_dropWhile, hblank, Nat.zero_add, hrest] at hsplit
  exact hsplit

/-- The first passage from a place on is that of a site at this place. -/
theorem exists_of_mem_head?_all {before rest : List Char} (hsource : source = before ++ rest)
    (hrest : ∀ c ∈ rest.head?, isBlank c = false) {g : Passage}
    (hg : g ∈ (Passage.all rest).head?) :
    ∃ s ∈ allFrom before rest hsource hrest, s.before = before ∧ s.passage = g := by
  cases rest with
  | nil =>
    rw [Passage.all_nil] at hg
    exact (Option.not_mem_none g hg).elim
  | cons c cs =>
    rw [Passage.all_cons] at hg
    rw [allFrom_cons]
    exact ⟨_, List.mem_cons_self, rfl, Option.mem_some_iff.mp hg⟩

/-- A site that declares something has the token of a declaration keyword. -/
theorem token_of_declares {s : Site source} (h : s.passage.form.declares = true) :
    (s.token none).kind = .keyword ∧ isDeclarationKeyword (s.token none).text = true := by
  rw [Form.declares, Bool.and_eq_true, decide_eq_true_iff] at h
  have hshown : s.passage.form.shown = s.passage.form.word := by
    rw [form_passage] at h ⊢
    exact Form.shown_eq_word_of_keyword h.1
  refine ⟨h.1, ?_⟩
  rw [token, Passage.token, clip, hshown]
  exact h.2

/-- Where a name is waited for, only blanks are in front of the next site. -/
theorem exists_slice? {s : Site source} (hname : s.passage.name = []) : ∃ between,
    slice? source (size (s.before ++ s.word)) (size (s.before ++ s.passage.chars)) =
      some between ∧ ∀ c ∈ between, isBlank c = true := by
  refine ⟨s.passage.gap ++ s.passage.blanks, slice?_eq_some_iff.mpr ?_, ?_⟩
  · refine ⟨s.before ++ s.word, s.rest, ?_, rfl, ?_⟩
    · conv_lhs => rw [s.source_eq_append_word, hname]
      simp
    · simp [Passage.chars, hname, word, Nat.add_assoc]
  · intro c hc
    rw [List.mem_append] at hc
    exact hc.elim (Passage.isBlank_of_mem_gap _ _) (Passage.isBlank_of_mem_blanks _ _)

/-- If no comment stands where a name is waited for, the passages of the source are apart. -/
theorem apart_allFrom (before rest : List Char) (hsource : source = before ++ rest)
    (hrest : ∀ c ∈ rest.head?, isBlank c = false)
    (hall : allFrom before rest hsource hrest ⊆ all source)
    (hnames : ∀ s ∈ all source, s.passage.form.declares = true → s.passage.name = [] →
      ∀ u ∈ all source, u.before = s.before ++ s.passage.chars →
        u.passage.form.kind ≠ .comment) : Passage.Apart (Passage.all rest) := by
  induction rest using Passage.all.induct generalizing before with
  | case1 =>
    rw [Passage.all_nil]
    trivial
  | case2 c cs ih =>
    rw [allFrom_cons] at hall
    obtain ⟨hsite, hmore⟩ := List.cons_subset.mp hall
    rw [Passage.all_cons]
    refine ⟨?_, ih _ _ _ hmore⟩
    intro next hnext hdeclares hname
    -- The next passage is that of the next site.
    have hbehind : source = before ++ (Passage.front c cs).1.chars ++ (Passage.front c cs).2 := by
      rw [List.append_assoc, Passage.append_front, hsource]
    obtain ⟨u, hu, hbefore, hpassage⟩ := exists_of_mem_head?_all hbehind
      (fun _ => Passage.isBlank_of_mem_head?_front c cs) hnext
    rw [← hpassage]
    exact hnames _ hsite hdeclares hname u (hmore hu) hbefore

end Site

theorem NamesApart.apart {source : String} {options : Options} (h : NamesApart source options)
    (hlimit : options.maxTokenLength = none) :
    Passage.Apart (Passage.all (source.toList.dropWhile isBlank)) := by
  refine Site.apart_allFrom _ _ List.takeWhile_append_dropWhile.symm
    (fun _ => Passage.isBlank_of_mem_head?_dropWhile) (List.Subset.refl _) ?_
  intro s hs hdeclares hname u hu hbefore hcomment
  rw [NamesApart, Scanner.tokens_eq_map_all, hlimit] at h
  obtain ⟨hkind, htext⟩ := Site.token_of_declares hdeclares
  obtain ⟨between, hbetween⟩ := s.exists_slice? hname
  have hslice := h _ (List.mem_map_of_mem hs) hkind htext _ (List.mem_map_of_mem hu) hcomment
  rw [Site.span_token, Site.span_token, hbefore] at hslice
  obtain ⟨c, hc, hsolid⟩ := hslice _ hbetween.1
  rw [hbetween.2 c hc] at hsolid
  contradiction

/-! ### What is come across in it -/

/-- Of two texts with line breaks in the same places, the second one leads to the same place. -/
theorem Position.location_afterAll_congr {p q : Position} (h : p.location = q.location)
    {as bs : List Char} (hbreaks : as.map (· == '\n') = bs.map (· == '\n')) :
    (p.afterAll as).location = (q.afterAll bs).location := by
  induction as generalizing p q bs with
  | nil =>
    obtain rfl : bs = [] := by simpa using hbreaks.symm
    exact h
  | cons a as ih =>
    cases bs with
    | nil => contradiction
    | cons b bs =>
      obtain ⟨hfirst, hrest⟩ := List.cons.inj hbreaks
      rw [Position.afterAll_cons, Position.afterAll_cons]
      apply ih _ hrest
      rw [Position.location, Position.location, Location.mk.injEq] at h
      rw [beq_eq_beq] at hfirst
      unfold Position.after
      by_cases ha : a = '\n'
      · rw [if_pos ha, if_pos (hfirst.mp ha), Position.location, Position.location, h.1]
      · rw [if_neg ha, if_neg (fun hb => ha (hfirst.mpr hb)), Position.location,
          Position.location, h.1, h.2]

theorem Text.map_blanked (cs : List Char) :
    (blanked cs).map (· == '\n') = cs.map (· == '\n') := by
  rw [blanked, List.map_map]
  apply List.map_congr_left
  intro c _
  by_cases hc : c = '\n' <;> simp [hc]

/-- An occurrence without its bytes. -/
def Occurrence.withoutBytes : Occurrence → Occurrence
  | .token t stop => .token { t with span := .empty 0 } stop
  | .declaration name line _ stop => .declaration name line 0 stop
  | .lineBreak => .lineBreak
  | .endOfText => .endOfText

namespace Passage

variable (limit : Option Nat) {p q : Position}

theorem lineBreaksIn_blanked (cs : List Char) :
    lineBreaksIn (Text.blanked cs) = lineBreaksIn cs := by
  rw [lineBreaksIn, lineBreaksIn, count_blanked]

/-- But for the bytes, what is come across in a passage depends only on its line and column. -/
theorem map_withoutBytes_coreOccurrences (h : p.location = q.location) (g : Passage) :
    (g.coreOccurrences limit p).map Occurrence.withoutBytes =
      (g.coreOccurrences limit q).map Occurrence.withoutBytes := by
  have hsame {p q : Position} (h : p.location = q.location) (cs : List Char) :
      (p.afterAll cs).location = (q.afterAll cs).location := Position.location_afterAll_congr h rfl
  have hword := hsame h g.form.word
  have hgap := hsame hword g.gap
  have hname := hsame hgap g.name
  by_cases hempty : g.name = []
  · simp only [coreOccurrences, declaration, if_pos hempty, List.map_cons, List.map_append,
      Occurrence.withoutBytes, token, h, hword]
  · simp only [coreOccurrences, declaration, if_neg hempty, List.map_cons, List.map_append,
      List.map_nil, Occurrence.withoutBytes, token, h, hword, hgap, hname]

end Passage

namespace Site

variable {source : List Char} (limit : Option Nat)

/-- All that is come across at a site whose comment is made blank. -/
def blankedOccurrences (s : Site source) : List Occurrence :=
  if s.passage.form.kind = .comment then
    Passage.lineBreaksIn s.word ++ Passage.lineBreaksIn s.passage.blanks
  else s.occurrences limit

end Site

/-- But for the bytes, what is come across where comments are made blank. -/
theorem Layout.map_withoutBytes_body_blanked {source : List Char} (limit : Option Nat)
    {p : Position} (lead before rest : List Char) (hsource : source = before ++ rest)
    (hrest : ∀ c ∈ rest.head?, isBlank c = false)
    (hp : (p.afterAll lead).location = (Position.start.afterAll before).location) :
    ((blanked lead (Passage.all rest)).body limit p).map Occurrence.withoutBytes =
      (Passage.lineBreaksIn lead ++ (Site.allFrom before rest hsource hrest).flatMap
        (Site.blankedOccurrences limit)).map Occurrence.withoutBytes := by
  induction rest using Passage.all.induct generalizing lead before p with
  | case1 =>
    rw [Passage.all_nil, Site.allFrom_nil]
    rfl
  | case2 c cs ih =>
    have hsource' : source = before ++ (Passage.front c cs).1.chars ++ (Passage.front c cs).2 := by
      rw [List.append_assoc, Passage.append_front, hsource]
    have hrest' : ∀ d ∈ (Passage.front c cs).2.head?, isBlank d = false :=
      fun _ => Passage.isBlank_of_mem_head?_front c cs
    rw [Passage.all_cons, Site.allFrom_cons, List.flatMap_cons, blanked]
    by_cases hkind : (Passage.front c cs).1.form.kind = .comment
    · -- The comment and the blanks behind it go on with the lead.
      have hplace : (p.afterAll (lead ++
          (Text.blanked (Passage.front c cs).1.form.word ++ (Passage.front c cs).1.blanks))).location =
            (Position.start.afterAll (before ++ (Passage.front c cs).1.chars)).location := by
        rw [Passage.chars_of_comment hkind, Position.afterAll_append p lead,
          Position.afterAll_append _ before]
        apply Position.location_afterAll_congr hp
        rw [List.map_append, List.map_append, Text.map_blanked]
      have hsite : Site.blankedOccurrences limit
          (⟨before, c, cs, hsource, hrest c rfl⟩ : Site source) = _ := if_pos hkind
      rw [if_pos hkind, ih _ _ hsource' hrest' hplace, hsite, Passage.lineBreaksIn_append,
        Passage.lineBreaksIn_append, Passage.lineBreaksIn_blanked, List.append_assoc]
      rfl
    · have hplace : ((p.afterAll (lead ++ (Passage.front c cs).1.core)).afterAll
          (Passage.front c cs).1.blanks).location =
            (Position.start.afterAll (before ++ (Passage.front c cs).1.chars)).location := by
        rw [← Position.afterAll_append, List.append_assoc, ← Passage.chars_eq,
          Position.afterAll_append p lead, Position.afterAll_append _ before]
        exact Position.location_afterAll_congr hp rfl
      have hsite : Site.blankedOccurrences limit
          (⟨before, c, cs, hsource, hrest c rfl⟩ : Site source) = _ := if_neg hkind
      have hbehind := ih _ _ hsource' hrest' hplace
      have hcore := Passage.map_withoutBytes_coreOccurrences limit hp (Passage.front c cs).1
      rw [List.map_append] at hbehind
      rw [if_neg hkind, body_cons, hsite, Site.occurrences, Passage.occurrences_eq]
      simp only [List.map_append, List.append_assoc]
      -- The core is told in the same way, and the blanks go on with what is told behind it.
      exact congrArg (_ ++ ·) (congrArg₂ (· ++ ·) hcore hbehind)

namespace SemicolonLint

/-! ### What the check makes of it -/

/-- The check does not look at bytes. -/
theorem warnings_map_withoutBytes (lint : SemicolonLint) (seen : List Occurrence) :
    lint.warnings (seen.map Occurrence.withoutBytes) = lint.warnings seen := by
  induction seen generalizing lint with
  | nil => rfl
  | cons o seen ih =>
    have htake : lint.take o.withoutBytes = lint.take o := by cases o <;> rfl
    rw [List.map_cons, warnings, warnings, htake, ih]

variable {source : List Char} (limit : Option Nat) {items : List Item} {seen : List Occurrence}
  {s : Site source}

/-- Without regard to comments, a line ends at each line break. -/
theorem breaksLine_nil {as cs bs : List Char} (h : source = as ++ cs ++ bs) :
    breaksLine source [] (size as) (size (as ++ cs)) = decide ('\n' ∈ cs) :=
  breaksLine_of_bare h (by simp)

/-- What is come across at a site whose comment is made blank is told by its items, if lines end in
comments too. -/
theorem told_blankedSite (s : Site source)
    (h : Told source [] (size (s.before ++ s.passage.chars)) items seen) :
    Told source [] (size s.before) ((s.token limit).items source ++ items)
      (s.blankedOccurrences limit ++ seen) := by
  have hgap : breaksLine source [] (size (s.before ++ s.word)) (size s.beforeName) =
      decide ('\n' ∈ s.passage.gap) := by
    apply breaksLine_nil
    rw [List.append_assoc _ s.passage.gap]
    exact s.source_eq_append_word
  have hblanks : breaksLine source [] (size (s.beforeName ++ s.passage.name))
      (size (s.before ++ s.passage.chars)) = decide ('\n' ∈ s.passage.blanks) := by
    rw [Site.chars_eq_append_blanks]
    apply breaksLine_nil
    rw [List.append_assoc _ s.passage.blanks]
    exact s.source_eq_append_name
  have hbehind := told_behind limit hgap hblanks h
  have hsame : (s.token limit).kind = s.passage.form.kind := rfl
  rw [Site.items_token, Site.blankedOccurrences, hsame]
  by_cases hkind : s.passage.form.kind = .comment
  · -- The line breaks of the comment are told like those of the blanks behind it.
    have hempty : s.passage.gap = [] ∧ s.passage.name = [] := Passage.gap_name_of_comment hkind
    have hword : breaksLine source [] (size s.before) (size (s.before ++ s.word)) =
        decide ('\n' ∈ s.word) := by
      apply breaksLine_nil
      exact s.source_eq_append_word
    have htold := hbehind.lineBreaks (size_mono (List.prefix_append ..)) hword
    rw [Site.declaredName?, if_pos hempty.2, hempty.1] at htold
    rw [if_pos hkind, if_pos hkind, Site.declaredName?, if_pos hempty.2,
      List.append_assoc (Passage.lineBreaksIn s.word)]
    exact htold
  · have htold := told_word limit hkind hbehind
    rw [if_neg hkind, if_neg hkind, Site.occurrences_eq]
    simp only [List.cons_append, List.append_assoc]
    exact htold

/-- All that is come across from any site on, where comments are made blank. -/
theorem told_blanked_allFrom (before rest : List Char) (hsource : source = before ++ rest)
    (hrest : ∀ c ∈ rest.head?, isBlank c = false) :
    Told source [] (size before)
      ((Site.allFrom before rest hsource hrest).flatMap fun s => (s.token limit).items source)
      ((Site.allFrom before rest hsource hrest).flatMap (Site.blankedOccurrences limit) ++
        [.endOfText]) := by
  induction rest using Passage.all.induct generalizing before with
  | case1 =>
    rw [Site.allFrom_nil]
    exact Told.endOfText _
  | case2 c cs ih =>
    rw [Site.allFrom_cons, List.flatMap_cons, List.flatMap_cons,
      List.append_assoc (Site.blankedOccurrences limit _)]
    exact told_blankedSite limit ⟨before, c, cs, hsource, hrest c rfl⟩ (ih ..)

/-- What the check warns about where comments are made blank. -/
theorem warnings_blanked {source : List Char}
    (hapart : Passage.Apart (Passage.all (source.dropWhile isBlank))) :
    start.warnings ((Layout.ofText (source.takeWhile isBlank ++
        Passage.blankedText (Passage.all (source.dropWhile isBlank)))).occurrences limit .start) =
      (start.unended source []
        ((Site.all source).flatMap fun s => (s.token limit).items source)).map
          fun i => .missingSemicolon (i.stop source) := by
  have hlead : ∀ c ∈ source.takeWhile isBlank, isBlank c = true := fun _ => List.mem_takeWhile_imp
  have hrest : ∀ c ∈ (source.dropWhile isBlank).head?, isBlank c = false :=
    fun _ => Passage.isBlank_of_mem_head?_dropWhile
  have htold := told_blanked_allFrom limit (source.takeWhile isBlank) (source.dropWhile isBlank)
    List.takeWhile_append_dropWhile.symm hrest
  have hbody := Layout.map_withoutBytes_body_blanked limit (p := .start) (source.takeWhile isBlank)
    _ _ List.takeWhile_append_dropWhile.symm hrest rfl
  -- Before the first item nothing is left to warn about, whatever lines end there.
  have hnothing (items : List Item) :
      due source [] start (size (source.takeWhile isBlank)) items = [] := by
    rw [due]
    split <;> rfl
  rw [Layout.ofText_blanked hrest hapart hlead, ← warnings_map_withoutBytes,
    Layout.occurrences_eq_body, List.map_append, hbody, ← List.map_append,
    warnings_map_withoutBytes, List.append_assoc, warnings_lineBreaksIn_append]
  have hstart := htold.warnings start
  rw [hnothing] at hstart
  split
  · exact hstart
  · exact hstart

/-- Where a line ends outside comments, it ends without regard to comments. -/
theorem linesEnd_nil {source : List Char} {tokens : List Token} {offset : Nat} {items : List Item}
    (h : linesEnd source tokens offset items = true) : linesEnd source [] offset items = true := by
  cases items with
  | nil => rfl
  | cons i items =>
    obtain ⟨as, bs, hsource, hge, hlt, -⟩ := breaksLine_iff.mp h
    exact breaksLine_iff.mpr ⟨as, bs, hsource, hge, hlt, nofun⟩

/-- So without regard to comments there is a semicolon missing behind at least the same items. -/
theorem unended_sublist_unended_nil (source : List Char) (tokens : List Token)
    (lint : SemicolonLint) (items : List Item) :
    (lint.unended source tokens items).Sublist (lint.unended source [] items) := by
  induction items generalizing lint with
  | nil => exact List.Sublist.refl _
  | cons i items ih =>
    rw [unended, unended]
    refine List.Sublist.append ?_ (ih _)
    by_cases hmissed : (lint.endsWith i && linesEnd source tokens i.span.stop items) = true
    · rw [Bool.and_eq_true] at hmissed
      rw [if_pos (by simp [hmissed]), if_pos (by simp [hmissed.1, linesEnd_nil hmissed.2])]
    · rw [if_neg hmissed]
      exact List.nil_sublist _

end SemicolonLint

/-- A source with blanks in the place of its comments, by its passages. -/
theorem toList_withoutComments (source : String) (options : Options) :
    (withoutComments source options).toList = source.toList.takeWhile isBlank ++
      Passage.blankedText (Passage.all (source.toList.dropWhile isBlank)) := by
  rw [withoutComments, String.toList_ofList, Scanner.tokens_eq_map_all, Site.blankedFrom_source]

/-- The warnings about semicolons if blanks stand in the place of comments. -/
theorem semicolonWarnings_withoutComments {source : String} {options : Options}
    (hcheck : options.checkSemicolons = true) (hlimit : options.maxTokenLength = none)
    (hapart : NamesApart source options) :
    semicolonWarnings (withoutComments source options) options =
      (SemicolonLint.start.unended source.toList [] (itemsIn source options)).map
        fun i => .missingSemicolon (i.stop source.toList) := by
  rw [semicolonWarnings_eq _ hcheck, Cursor.ofText, Pull.occurrencesFrom_mk,
    toList_withoutComments, SemicolonLint.warnings_blanked _ (hapart.apart hlimit),
    itemsIn_eq_flatMap_all]

/-- The same items lack a semicolon with and without regard to comments exactly if behind each item
that a statement may end with lines end in both cases or in none. -/
theorem unendedIn_eq_iff {source : String} {options : Options} :
    unendedIn source options =
        SemicolonLint.start.unended source.toList [] (itemsIn source options) ↔
      ∀ before i behind, itemsIn source options = before ++ i :: behind →
        (SemicolonLint.after source.toList before.reverse).endsWith i = true →
        SemicolonLint.linesEnd source.toList [] i.span.stop behind = true →
        SemicolonLint.linesEnd source.toList (Scanner.ofSource source options).tokens i.span.stop
          behind = true := by
  have hmissed (tokens : List Token) (i : Item) :
      i ∈ SemicolonLint.start.unended source.toList tokens (itemsIn source options) ↔ _ :=
    SemicolonLint.mem_unended_iff source.toList tokens [] (itemsIn source options)
  simp only [List.append_nil] at hmissed
  constructor
  · intro heq before i behind hitems hends hline
    have hmem := (hmissed [] i).mpr ⟨before, behind, hitems, hends, hline⟩
    rw [← heq] at hmem
    obtain ⟨before', behind', hitems', -, hline'⟩ := (hmissed _ i).mp hmem
    obtain ⟨-, -, rfl⟩ := eq_of_stop_eq hitems' hitems rfl
    exact hline'
  · intro hlines
    have hsublist := SemicolonLint.unended_sublist_unended_nil source.toList
      (Scanner.ofSource source options).tokens .start (itemsIn source options)
    have hsubset : SemicolonLint.start.unended source.toList [] (itemsIn source options) ⊆
        unendedIn source options := by
      intro i hi
      obtain ⟨before, behind, hitems, hends, hline⟩ := (hmissed [] i).mp hi
      exact (hmissed _ i).mpr
        ⟨before, behind, hitems, hends, hlines before i behind hitems hends hline⟩
    have hnodup : (SemicolonLint.start.unended source.toList [] (itemsIn source options)).Nodup :=
      (nodup_itemsIn source options).sublist (SemicolonLint.unended_sublist ..)
    have hlength := (List.subperm_of_subset hnodup hsubset).length_le
    exact hsublist.eq_of_length_le hlength

/-- What blanks in the place of comments change in any scan that checks semicolons. -/
theorem comment_lines_scan (source : String) {options : Options}
    (hcheck : options.checkSemicolons = true) (hlimit : options.maxTokenLength = none)
    (hapart : NamesApart source options) : CommentLines source options where
  kept := by
    rw [semicolonWarnings_eq_map_unendedIn source hcheck,
      semicolonWarnings_withoutComments hcheck hlimit hapart]
    exact (SemicolonLint.unended_sublist_unended_nil ..).map _
  warnings := semicolonWarnings_withoutComments hcheck hlimit hapart
  transparent_iff := by
    rw [← unendedIn_eq_iff, CommentsTransparent, semicolonWarnings_eq_map_unendedIn source hcheck,
      semicolonWarnings_withoutComments hcheck hlimit hapart]
    constructor
    · intro heq
      have hlength := congrArg List.length heq
      rw [List.length_map, List.length_map] at hlength
      exact (SemicolonLint.unended_sublist_unended_nil ..).eq_of_length hlength.symm
    · intro heq
      rw [heq]

/-- A line break in a comment does not end the line. -/
theorem not_commentsTransparent_numbers :
    NamesApart "1 /*\n*/ 2" { Options.default with checkSemicolons := true } ∧
      ¬ CommentsTransparent "1 /*\n*/ 2" { Options.default with checkSemicolons := true } := by
  constructor
  · intro t ht hkind
    have hnone : (Scanner.ofSource "1 /*\n*/ 2"
        { Options.default with checkSemicolons := true }).tokens.all (·.kind ≠ .keyword) = true := by
      decide +kernel
    exact absurd hkind (by simpa using List.all_eq_true.mp hnone t ht)
  · rw [CommentsTransparent]
    decide +kernel

/-- A line break behind a comment counts, and so nothing changes. -/
theorem comment_lines_scan_numbers :
    ({ Options.default with checkSemicolons := true } : Options).checkSemicolons = true ∧
      ({ Options.default with checkSemicolons := true } : Options).maxTokenLength = none ∧
      NamesApart "1 // é\n+ 2 /*\n*/\n3" { Options.default with checkSemicolons := true } ∧
      CommentLines "1 // é\n+ 2 /*\n*/\n3" { Options.default with checkSemicolons := true } ∧
      withoutComments "1 // é\n+ 2 /*\n*/\n3" { Options.default with checkSemicolons := true } =
        "1     \n+ 2   \n  \n3" ∧
      CommentsTransparent "1 // é\n+ 2 /*\n*/\n3"
        { Options.default with checkSemicolons := true } := by
  have hapart : NamesApart "1 // é\n+ 2 /*\n*/\n3"
      { Options.default with checkSemicolons := true } := by
    intro t ht hkind
    have hnone : (Scanner.ofSource "1 // é\n+ 2 /*\n*/\n3"
        { Options.default with checkSemicolons := true }).tokens.all (·.kind ≠ .keyword) = true := by
      decide +kernel
    exact absurd hkind (by simpa using List.all_eq_true.mp hnone t ht)
  refine ⟨rfl, rfl, hapart, comment_lines_scan _ rfl rfl hapart, ?_, ?_⟩
  · decide +kernel
  · rw [CommentsTransparent]
    decide +kernel

end UsageScan
