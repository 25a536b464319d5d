import UsageScan.Proofs.Lossless
import Mathlib.Data.List.Pairwise
/-!
# Items

An item is what counts on a line: a token that is not a comment, or a declared name. A line goes on
over a comment, even over one with line breaks in it, so between two items a line ends only at a
line break outside comments.

## Main definitions

* `Item`, `itemsIn` — the items of a source
* `Text.place`, `Item.stop` — the place behind a text, and behind an item
* `bareLineBreaks`, `breaksLine` — the line breaks outside comments, and whether there is one
  between two offsets

## Main results

* `Text.eq_of_place_eq` — a longer part of a text ends at another place
* `Site.breaksLine_append`, `Site.breaksLine_word` — the line breaks at a site are those of its
  blanks
* `pairwise_itemsIn` — items come one after another
-/

set_option autoImplicit false

namespace UsageScan

open Text

/-- A token that is not a comment, or a declared name. -/
inductive Item where
  | token (t : Token)
  | name (d : DeclaredName)
deriving DecidableEq, Repr

namespace Text

/-- The line and column behind a text, counted in that text. -/
def place (cs : List Char) : Location :=
  ⟨cs.count '\n' + 1, (lastLine cs).length + 1⟩

/-- The text up to a byte offset, or all of it if there is no cut at that offset. -/
def upTo (offset : Nat) (source : List Char) : List Char :=
  ((splitAt? offset source).map Prod.fst).getD source

/-- The byte offsets of the line breaks of a text that begins at an offset. -/
def lineBreakOffsets (offset : Nat) : List Char → List Nat
  | [] => []
  | c :: cs =>
    if c = '\n' then offset :: lineBreakOffsets (offset + c.utf8Size) cs
    else lineBreakOffsets (offset + c.utf8Size) cs

end Text

namespace Item

/-- The bytes of an item. -/
def span : Item → Span
  | token t => t.span
  | name d => d.span

/-- The place just behind the last character of an item. -/
def stop (source : List Char) (i : Item) : Location :=
  place (upTo i.span.stop source)

end Item

/-- The items that come with a token: the token itself unless it is a comment, and the name that it
declares. -/
def Token.items (source : List Char) (t : Token) : List Item :=
  (if t.kind = .comment then [] else [.token t]) ++ (t.declaredName? source).toList.map .name

/-- The items of a source, in order. -/
def itemsIn (source : String) (options : Options) : List Item :=
  (Scanner.ofSource source options).tokens.flatMap (Token.items source.toList)

/-- The byte offsets of the line breaks of a source that are not in a comment. -/
def bareLineBreaks (source : List Char) (tokens : List Token) : List Nat :=
  (lineBreakOffsets 0 source).filter fun o =>
    tokens.all fun t => t.kind ≠ .comment || !t.span.contains o

/-- Whether a line ends between two byte offsets of a source: at or behind the first and before the
second there is a line break outside comments. -/
def breaksLine (source : List Char) (tokens : List Token) (start stop : Nat) : Bool :=
  (bareLineBreaks source tokens).any fun o => start ≤ o && o < stop

/-! ### Places -/

namespace Text

theorem upTo_size {source as bs : List Char} (h : source = as ++ bs) :
    upTo (size as) source = as := by
  rw [upTo, h, splitAt?_size_append]
  rfl

theorem location_start_afterAll (cs : List Char) :
    (Position.start.afterAll cs).location = place cs := by
  rw [Position.start_afterAll]
  rfl

/-- Behind a text whose last line goes on, the last line is longer by as much. -/
theorem lastLine_append {as bs : List Char} (h : '\n' ∉ bs) :
    lastLine (as ++ bs) = lastLine as ++ bs := by
  induction bs using List.reverseRecOn with
  | nil => rw [List.append_nil, List.append_nil]
  | append_singleton bs c ih =>
    rw [List.mem_append, List.mem_singleton, not_or] at h
    have hc : decide (c ≠ '\n') = true := decide_eq_true (Ne.symm h.2)
    rw [← List.append_assoc, lastLine, List.rtakeWhile_concat_pos (· ≠ '\n') _ _ hc,
      ← List.append_assoc, ← ih h.1, lastLine]

/-- A longer part of a text ends at another place. -/
theorem eq_of_place_eq {as bs : List Char} (h : as <+: bs) (hplace : place as = place bs) :
    as = bs := by
  obtain ⟨more, rfl⟩ := h
  simp only [place, Location.mk.injEq, List.count_append] at hplace
  -- On the same line, the column tells how far the text goes.
  have hline : '\n' ∉ more := by
    rw [← List.count_eq_zero]
    omega
  rw [lastLine_append hline, List.length_append] at hplace
  have hmore : more.length = 0 := by omega
  rw [List.length_eq_zero_iff.mp hmore, List.append_nil]

theorem mem_lineBreakOffsets_iff {offset o : Nat} {cs : List Char} :
    o ∈ lineBreakOffsets offset cs ↔
      ∃ as bs, cs = as ++ '\n' :: bs ∧ o = offset + size as := by
  induction cs generalizing offset with
  | nil => simp [lineBreakOffsets]
  | cons c cs ih =>
    have hmore : (∃ as bs, c :: cs = as ++ '\n' :: bs ∧ o = offset + size as) ↔
        (c = '\n' ∧ o = offset) ∨
          ∃ as bs, cs = as ++ '\n' :: bs ∧ o = offset + c.utf8Size + size as := by
      constructor
      · rintro ⟨as, bs, hcs, ho⟩
        cases as with
        | nil => exact Or.inl ⟨(List.cons.inj hcs).1, ho⟩
        | cons a as =>
          obtain ⟨rfl, htail⟩ := List.cons.inj hcs
          exact Or.inr ⟨as, bs, htail, by rw [ho, size_cons, Nat.add_assoc]⟩
      · rintro (⟨rfl, rfl⟩ | ⟨as, bs, rfl, rfl⟩)
        · exact ⟨[], cs, rfl, rfl⟩
        · exact ⟨c :: as, bs, rfl, by rw [size_cons, Nat.add_assoc]⟩
    rw [hmore, lineBreakOffsets]
    by_cases hc : c = '\n'
    · rw [if_pos hc, List.mem_cons, ih]
      simp [hc]
    · rw [if_neg hc, ih]
      simp [hc]

end Text

/-! ### Line breaks outside comments -/

section BreaksLine

variable {source : List Char} {tokens : List Token} {a b c : Nat}

theorem breaksLine_iff : breaksLine source tokens a b = true ↔
    ∃ as bs, source = as ++ '\n' :: bs ∧ a ≤ size as ∧ size as < b ∧
      ∀ t ∈ tokens, t.kind = .comment → t.span.contains (size as) = false := by
  simp only [breaksLine, bareLineBreaks, List.any_eq_true, List.mem_filter,
    mem_lineBreakOffsets_iff, Nat.zero_add, List.all_eq_true, Bool.or_eq_true, Bool.and_eq_true,
    decide_eq_true_iff, Bool.not_eq_true']
  constructor
  · rintro ⟨_, ⟨⟨as, bs, hsource, rfl⟩, hbare⟩, ha, hb⟩
    refine ⟨as, bs, hsource, ha, hb, ?_⟩
    intro t ht hkind
    exact (hbare t ht).resolve_left (not_not_intro hkind)
  · rintro ⟨as, bs, hsource, ha, hb, hbare⟩
    refine ⟨_, ⟨⟨as, bs, hsource, rfl⟩, ?_⟩, ha, hb⟩
    intro t ht
    exact or_iff_not_imp_left.mpr fun hkind => hbare t ht (not_not.mp hkind)

theorem breaksLine_self : breaksLine source tokens a a = false := by
  rw [breaksLine, List.any_eq_false]
  intro o _
  simp only [Bool.and_eq_true, decide_eq_true_iff]
  omega

/-- A line ends on the way from one offset to another on one of two parts of the way. -/
theorem breaksLine_trans (hab : a ≤ b) (hbc : b ≤ c) : breaksLine source tokens a c =
    (breaksLine source tokens a b || breaksLine source tokens b c) := by
  rw [Bool.eq_iff_iff, Bool.or_eq_true, breaksLine, breaksLine, breaksLine]
  simp only [List.any_eq_true, Bool.and_eq_true, decide_eq_true_iff, ← exists_or, ← and_or_left]
  apply exists_congr
  intro o
  apply and_congr_right
  intro _
  omega

/-- In a stretch outside comments, a line ends at each line break. -/
theorem breaksLine_of_bare {as cs bs : List Char} (hsource : source = as ++ cs ++ bs)
    (hbare : ∀ o, size as ≤ o → o < size (as ++ cs) →
      ∀ t ∈ tokens, t.kind = .comment → t.span.contains o = false) :
    breaksLine source tokens (size as) (size (as ++ cs)) = decide ('\n' ∈ cs) := by
  rw [Bool.eq_iff_iff, breaksLine_iff, decide_eq_true_iff]
  have hpos := ('\n').utf8Size_pos
  constructor
  · rintro ⟨as', bs', hsplit, hge, hlt, -⟩
    rw [hsource, List.append_assoc] at hsplit
    -- The line break is neither before the stretch nor behind it.
    rcases cons_mem_of_append hsplit with ⟨inner, rfl⟩ | ⟨inner, rfl, hrest⟩
    · rw [size_append, size_cons] at hge
      omega
    rcases cons_mem_of_append hrest with ⟨inner', rfl⟩ | ⟨inner', rfl, -⟩
    · simp
    · simp only [size_append] at hlt
      omega
  · intro hmem
    obtain ⟨inner, inner', rfl⟩ := List.append_of_mem hmem
    have hge : size as ≤ size (as ++ inner) := size_mono (List.prefix_append ..)
    have hlt : size (as ++ inner) < size (as ++ (inner ++ '\n' :: inner')) := by
      simp only [size_append, size_cons]
      omega
    exact ⟨as ++ inner, inner' ++ bs, by rw [hsource]; simp, hge, hlt, hbare _ hge hlt⟩

end BreaksLine

/-! ### The line breaks at a site -/

namespace Site

variable {source : List Char} (limit : Option Nat)

/-- Of two sites, one begins behind the passage of the other. -/
theorem eq_or_prefix_of_mem_all {s t : Site source} (hs : s ∈ all source) (ht : t ∈ all source) :
    s = t ∨ s.before ++ s.passage.chars <+: t.before ∨
      t.before ++ t.passage.chars <+: s.before := by
  let apart (s t : Site source) : Prop := s = t ∨
    s.before ++ s.passage.chars <+: t.before ∨ t.before ++ t.passage.chars <+: s.before
  have : Std.Symm apart := by
    constructor
    rintro s t (rfl | h | h)
    · exact Or.inl rfl
    · exact Or.inr (Or.inr h)
    · exact Or.inr (Or.inl h)
  have hall : (all source).Pairwise apart := pairwise_all.imp fun h => Or.inr (Or.inl h)
  exact List.Pairwise.forall_of_forall (R := apart) (fun _ _ => Or.inl rfl) hall hs ht

/-- No comment covers a byte of a passage behind the word of the passage. -/
theorem contains_token_eq_false {s t : Site source} (hs : s ∈ all source) (ht : t ∈ all source)
    {offset : Nat} (hle : size (s.before ++ s.word) ≤ offset)
    (hlt : offset < size (s.before ++ s.passage.chars)) :
    (t.token limit).span.contains offset = false := by
  rw [span_token, ← Bool.not_eq_true, Span.contains]
  simp only [Bool.and_eq_true, decide_eq_true_iff, not_and, Nat.not_lt]
  intro hstart
  rcases eq_or_prefix_of_mem_all hs ht with rfl | hst | hts
  · exact hle
  · have := size_mono hst
    omega
  · have hword : t.before ++ t.word <+: t.before ++ t.passage.chars :=
      (List.prefix_append_right_inj _).mpr (List.prefix_append ..)
    have := size_mono (hword.trans hts)
    have := size_mono (List.prefix_append s.before s.word)
    omega

/-- Between the word of a site and the end of its passage, a line ends at each line break. -/
theorem breaksLine_append {s : Site source} (hs : s ∈ all source) {as cs : List Char}
    (hstart : s.before ++ s.word <+: as) (hstop : as ++ cs <+: s.before ++ s.passage.chars) :
    breaksLine source ((all source).map (token limit)) (size as) (size (as ++ cs)) =
      decide ('\n' ∈ cs) := by
  obtain ⟨more, hsource⟩ : as ++ cs <+: source := by
    refine hstop.trans ⟨s.rest, ?_⟩
    exact s.source_eq_append_chars.symm
  refine breaksLine_of_bare hsource.symm ?_
  intro o hge hlt t ht _
  obtain ⟨t, htmem, rfl⟩ := List.mem_map.mp ht
  have hword := size_mono hstart
  have hchars := size_mono hstop
  apply contains_token_eq_false limit hs htmem <;> omega

theorem chars_eq_append_blanks (s : Site source) : s.before ++ s.passage.chars =
    s.beforeName ++ s.passage.name ++ s.passage.blanks := by
  simp [Passage.chars, beforeName, word]

/-- Between a declaration keyword and its name, a line ends at each line break. -/
theorem breaksLine_gap {s : Site source} (hs : s ∈ all source) :
    breaksLine source ((all source).map (token limit)) (size (s.before ++ s.word))
      (size s.beforeName) = decide ('\n' ∈ s.passage.gap) := by
  refine breaksLine_append limit hs List.prefix_rfl ?_
  rw [chars_eq_append_blanks, List.append_assoc s.beforeName]
  exact List.prefix_append ..

/-- In the blanks before the next token, a line ends at each line break. -/
theorem breaksLine_blanks {s : Site source} (hs : s ∈ all source) :
    breaksLine source ((all source).map (token limit)) (size (s.beforeName ++ s.passage.name))
      (size (s.before ++ s.passage.chars)) = decide ('\n' ∈ s.passage.blanks) := by
  rw [chars_eq_append_blanks]
  refine breaksLine_append limit hs ?_ ?_
  · rw [beforeName, List.append_assoc (s.before ++ s.word)]
    exact List.prefix_append ..
  · exact ⟨[], by rw [List.append_nil, chars_eq_append_blanks]⟩

/-- Within a comment no line ends. -/
theorem breaksLine_word {s : Site source} (hs : s ∈ all source)
    (hcomment : (s.token limit).kind = .comment) :
    breaksLine source ((all source).map (token limit)) (size s.before)
      (size (s.before ++ s.word)) = false := by
  rw [← Bool.not_eq_true, breaksLine_iff]
  rintro ⟨as, bs, -, hge, hlt, hbare⟩
  have hfree := hbare _ (List.mem_map_of_mem hs) hcomment
  rw [span_token, Span.contains, Bool.and_eq_false_iff, decide_eq_false_iff_not,
    decide_eq_false_iff_not] at hfree
  exact hfree.elim (fun h => h hge) fun h => h hlt

/-! ### The items at a site -/

/-- The items at a site are its token, unless that is a comment, and its declared name. -/
theorem items_token (s : Site source) : (s.token limit).items source =
    (if (s.token limit).kind = .comment then [] else [.token (s.token limit)]) ++
      s.declaredName?.toList.map .name := by
  rw [Token.items, declaredName?_token]

theorem stop_token (s : Site source) :
    (Item.token (s.token limit)).stop source = s.stop := by
  have hread : upTo (size (s.before ++ s.word)) source = s.before ++ s.word :=
    upTo_size s.source_eq_append_word
  rw [Item.stop, Item.span, span_token, hread, stop, position, ← Position.afterAll_append,
    location_start_afterAll]

theorem stop_name {s : Site source} {d : DeclaredName} (h : s.declaredName? = some d) :
    (Item.name d).stop source = (Position.start.afterAll (d.before ++ d.name)).location := by
  obtain ⟨-, rfl⟩ := declaredName?_eq_some_iff.mp h
  have hread : upTo (size (s.beforeName ++ s.passage.name)) source =
      s.beforeName ++ s.passage.name := upTo_size s.source_eq_append_name
  rw [Item.stop, location_start_afterAll, ← hread, size_append]
  rfl

end Site

/-! ### The items of a source -/

section Items

variable (source : String) (options : Options)

/-- The spans of the items of a token are spans of the token and of its declared name. -/
theorem Token.map_span_items_sublist (source : List Char) (t : Token) :
    ((t.items source).map Item.span).Sublist
      (t.span :: (t.declaredName? source).toList.map DeclaredName.span) := by
  have hname : ((t.declaredName? source).toList.map Item.name).map Item.span =
      (t.declaredName? source).toList.map DeclaredName.span := by
    rw [List.map_map]
    rfl
  rw [items, List.map_append, hname]
  split
  · exact List.sublist_cons_self ..
  · exact List.Sublist.refl _

theorem itemsIn_eq_flatMap_all : itemsIn source options =
    (Site.all source.toList).flatMap fun s =>
      (s.token options.maxTokenLength).items source.toList := by
  rw [itemsIn, Scanner.tokens_eq_map_all, List.flatMap_map]

/-- An item takes up a part of the source that is not empty, and stops behind it. -/
theorem exists_stop_of_mem_itemsIn {i : Item} (hi : i ∈ itemsIn source options) :
    ∃ as word bs, source.toList = as ++ word ++ bs ∧ word ≠ [] ∧ i.span.start = size as ∧
      i.span.stop = size (as ++ word) ∧ i.stop source.toList = place (as ++ word) := by
  obtain ⟨t, ht, hi⟩ := List.mem_flatMap.mp hi
  have hspan : i.span ∈ occupied source.toList (Scanner.ofSource source options).tokens :=
    List.mem_flatMap.mpr
      ⟨t, ht, (t.map_span_items_sublist source.toList).subset (List.mem_map_of_mem hi)⟩
  rw [Scanner.tokens_eq_map_all, Site.occupied_eq_flatMap_spans] at hspan
  obtain ⟨word, hslice, hword⟩ := (Site.covers_all source.toList).slice i.span hspan
  obtain ⟨as, bs, hsource, hstart, hstop⟩ := slice?_eq_some_iff.mp hslice
  have hsize : i.span.stop = size (as ++ word) := by rw [size_append, hstart, hstop]
  refine ⟨as, word, bs, hsource, hword, hstart.symm, hsize, ?_⟩
  rw [Item.stop, hsize, upTo_size hsource]

/-- Items come one after another. -/
theorem pairwise_itemsIn :
    (itemsIn source options).Pairwise fun i j => i.span.stop ≤ j.span.start := by
  have hcovers := (Site.covers_all source.toList).pairwise
  rw [← Site.occupied_eq_flatMap_spans options.maxTokenLength, ← Scanner.tokens_eq_map_all,
    occupied, List.pairwise_flatMap] at hcovers
  obtain ⟨hwithin, hacross⟩ := hcovers
  refine List.pairwise_flatMap.mpr ⟨?_, hacross.imp ?_⟩
  · intro t ht
    exact List.pairwise_map.mp ((hwithin t ht).sublist (t.map_span_items_sublist _))
  · intro t u htu i hi j hj
    exact htu _ ((t.map_span_items_sublist _).subset (List.mem_map_of_mem hi)) _
      ((u.map_span_items_sublist _).subset (List.mem_map_of_mem hj))

/-- No two items stop at the same place. -/
theorem pairwise_stop_itemsIn :
    (itemsIn source options).Pairwise fun i j => i.stop source.toList ≠ j.stop source.toList := by
  apply (pairwise_itemsIn source options).imp_of_mem
  intro i j hi hj hij hplace
  obtain ⟨as, word, bs, hsource, -, -, hstop, hi⟩ := exists_stop_of_mem_itemsIn source options hi
  obtain ⟨as', word', bs', hsource', hword', hstart', hstop', hj⟩ :=
    exists_stop_of_mem_itemsIn source options hj
  rw [hi, hj] at hplace
  rw [hstop, hstart'] at hij
  have hpos := size_pos hword'
  -- Both stop behind a first part of the source, and that of the later item is longer.
  have hle : size (as ++ word) ≤ size (as' ++ word') := by
    rw [size_append as' word']
    omega
  have hprefix := prefix_of_size_le ⟨bs, hsource.symm⟩ ⟨bs', hsource'.symm⟩ hle
  have hsame := congrArg size (eq_of_place_eq hprefix hplace)
  rw [size_append as' word'] at hsame
  omega

end Items

end UsageScan
