import UsageScan.Proofs.Layout
/-!
# Sites

A site is a place of a source at which a passage begins. It comes with the text before it and the
text from there on, so that whatever is told of a passage can be stated about the source alone,
without counting.

## Main definitions

* `Site` — a place of a source at which a passage begins
* `Site.all` — all sites of a source, from left to right

## Main results

* `Site.map_passage_all` — the passages of a source, site by site
* `Site.map_token_all`, `Site.flatMap_occurrences_all` — the layout as it is told, site by site
* `Site.pairwise_all` — each passage begins behind the one before it
* `Site.exists_of_append` — a character that is not blank belongs to the word of a site or to its
  declared name
-/

set_option autoImplicit false

namespace UsageScan

open Text

/-- A place of a source at which a passage begins. -/
structure Site (source : List Char) where
  before : List Char
  first : Char
  behind : List Char
  source_eq : source = before ++ first :: behind
  isBlank_first : isBlank first = false

namespace Site

variable {source : List Char}

/-- The passage that begins at a site. -/
def passage (s : Site source) : Passage :=
  (Passage.front s.first s.behind).1

/-- The text behind the passage. -/
def rest (s : Site source) : List Char :=
  (Passage.front s.first s.behind).2

/-- The characters of the token at a site. -/
def word (s : Site source) : List Char :=
  s.passage.form.word

/-- All text before the place of the declared name. -/
def beforeName (s : Site source) : List Char :=
  s.before ++ s.word ++ s.passage.gap

/-- Where a site is. -/
def position (s : Site source) : Position :=
  Position.start.afterAll s.before

/-- The token at a site. -/
def token (limit : Option Nat) (s : Site source) : Token :=
  s.passage.token limit s.position

/-- All that is come across in the passage at a site. -/
def occurrences (limit : Option Nat) (s : Site source) : List Occurrence :=
  s.passage.occurrences limit s.position

theorem chars_append_rest (s : Site source) : s.passage.chars ++ s.rest = s.first :: s.behind :=
  Passage.append_front ..

theorem source_eq_append_chars (s : Site source) :
    source = s.before ++ s.passage.chars ++ s.rest := by
  rw [List.append_assoc, chars_append_rest, ← s.source_eq]

/-- The form of a passage is the form at the front of the text where it begins. -/
theorem form_passage (s : Site source) : s.passage.form = (Form.front s.first s.behind).1 :=
  Passage.form_front ..

theorem kind_token (limit : Option Nat) (s : Site source) :
    (s.token limit).kind = (Form.front s.first s.behind).1.kind :=
  congrArg Form.kind s.form_passage

theorem word_ne_nil (s : Site source) : s.word ≠ [] := by
  rw [word, form_passage]
  exact Form.word_front_ne_nil s.first s.behind

/-- The word of a site and what the source has behind it. -/
theorem source_eq_append_word (s : Site source) : source = s.before ++ s.word ++
    (s.passage.gap ++ (s.passage.name ++ (s.passage.blanks ++ s.rest))) := by
  conv_lhs => rw [s.source_eq_append_chars]
  simp only [Passage.chars, word, List.append_assoc]

/-- The declared name of a site and what the source has behind it. -/
theorem source_eq_append_name (s : Site source) :
    source = s.beforeName ++ s.passage.name ++ (s.passage.blanks ++ s.rest) := by
  conv_lhs => rw [s.source_eq_append_chars]
  simp only [Passage.chars, beforeName, word, List.append_assoc]

/-! ### All sites of a source -/

/-- The sites of a source from a place on that is not before a blank. -/
def allFrom (before rest : List Char) (hsource : source = before ++ rest)
    (hrest : ∀ c ∈ rest.head?, isBlank c = false) : List (Site source) :=
  match rest, hsource, hrest with
  | [], _, _ => []
  | c :: cs, hsource, hrest =>
    ⟨before, c, cs, hsource, hrest c rfl⟩ ::
      allFrom (before ++ (Passage.front c cs).1.chars) (Passage.front c cs).2
        (by rw [List.append_assoc, Passage.append_front, hsource])
        (fun _ => Passage.isBlank_of_mem_head?_front c cs)
termination_by rest.length
decreasing_by exact Passage.length_front_lt c cs

/-- The sites of a source. -/
def all (source : List Char) : List (Site source) :=
  allFrom (source.takeWhile isBlank) (source.dropWhile isBlank)
    List.takeWhile_append_dropWhile.symm (fun _ => Passage.isBlank_of_mem_head?_dropWhile)

theorem allFrom_nil (before : List Char) (hsource : source = before ++ [])
    (hrest : ∀ c ∈ ([] : List Char).head?, isBlank c = false) :
    allFrom before [] hsource hrest = [] := by
  rw [allFrom]

theorem allFrom_cons (before : List Char) (c : Char) (cs : List Char)
    (hsource : source = before ++ c :: cs) (hrest : ∀ d ∈ (c :: cs).head?, isBlank d = false) :
    allFrom before (c :: cs) hsource hrest = ⟨before, c, cs, hsource, hrest c rfl⟩ ::
      allFrom (before ++ (Passage.front c cs).1.chars) (Passage.front c cs).2
        (by rw [List.append_assoc, Passage.append_front, hsource])
        (fun _ => Passage.isBlank_of_mem_head?_front c cs) := by
  rw [allFrom]

theorem map_passage_allFrom (before rest : List Char) (hsource : source = before ++ rest)
    (hrest : ∀ c ∈ rest.head?, isBlank c = false) :
    (allFrom before rest hsource hrest).map passage = Passage.all rest := by
  induction rest using Passage.all.induct generalizing before with
  | case1 => rw [allFrom_nil, Passage.all_nil, List.map_nil]
  | case2 c cs ih =>
    rw [allFrom_cons, Passage.all_cons, List.map_cons, ih]
    rfl

/-- The passages of a layout are those of its sites. -/
theorem map_passage_all : (all source).map passage = (Layout.ofText source).passages :=
  map_passage_allFrom ..

theorem eq_nil_of_allFrom {before rest : List Char} {hsource : source = before ++ rest}
    {hrest : ∀ c ∈ rest.head?, isBlank c = false} (h : allFrom before rest hsource hrest = []) :
    rest = [] := by
  cases rest with
  | nil => rfl
  | cons c cs =>
    rw [allFrom_cons] at h
    contradiction

/-- Behind the last passage nothing is left. -/
theorem rest_of_mem_getLast?_allFrom {before rest : List Char} {hsource : source = before ++ rest}
    {hrest : ∀ c ∈ rest.head?, isBlank c = false} {s : Site source}
    (h : s ∈ (allFrom before rest hsource hrest).getLast?) : s.rest = [] := by
  induction rest using Passage.all.induct generalizing before with
  | case1 => simp [allFrom_nil] at h
  | case2 c cs ih =>
    rw [allFrom_cons, List.getLast?_cons, Option.mem_some_iff] at h
    generalize hmore : allFrom (before ++ (Passage.front c cs).1.chars) _ _ _ = more at h
    -- The first site is the last one if no more sites come behind it.
    cases hlast : more.getLast? with
    | none =>
      rw [hlast] at h
      rw [← h]
      rw [List.getLast?_eq_none_iff] at hlast
      exact eq_nil_of_allFrom (hmore.trans hlast)
    | some t =>
      rw [hlast] at h
      obtain rfl : t = s := h
      rw [← hmore] at hlast
      exact ih hlast

variable (limit : Option Nat)

theorem map_token_allFrom (before rest : List Char) (hsource : source = before ++ rest)
    (hrest : ∀ c ∈ rest.head?, isBlank c = false) :
    (allFrom before rest hsource hrest).map (token limit) =
      Passage.tokens limit (.afterAll .start before) (Passage.all rest) := by
  induction rest using Passage.all.induct generalizing before with
  | case1 =>
    rw [allFrom_nil, Passage.all_nil]
    rfl
  | case2 c cs ih =>
    rw [allFrom_cons, Passage.all_cons, List.map_cons, ih, Position.afterAll_append]
    rfl

/-- The tokens of a layout are those of its sites. -/
theorem map_token_all :
    (all source).map (token limit) = (Layout.ofText source).tokens limit .start :=
  map_token_allFrom ..

theorem flatMap_occurrences_allFrom (before rest : List Char) (hsource : source = before ++ rest)
    (hrest : ∀ c ∈ rest.head?, isBlank c = false) :
    (allFrom before rest hsource hrest).flatMap (occurrences limit) =
      Passage.allOccurrences limit (.afterAll .start before) (Passage.all rest) := by
  induction rest using Passage.all.induct generalizing before with
  | case1 =>
    rw [allFrom_nil, Passage.all_nil]
    rfl
  | case2 c cs ih =>
    rw [allFrom_cons, Passage.all_cons, List.flatMap_cons, ih, Position.afterAll_append]
    rfl

/-- The occurrences of a layout are those of its sites, between the line breaks at the start and the
end. -/
theorem flatMap_occurrences_all : (Layout.ofText source).occurrences limit .start =
    Passage.lineBreaksIn (source.takeWhile isBlank) ++
      ((all source).flatMap (occurrences limit) ++ [.endOfText]) := by
  rw [all, flatMap_occurrences_allFrom]
  rfl

theorem before_of_mem_allFrom {before rest : List Char} {hsource : source = before ++ rest}
    {hrest : ∀ c ∈ rest.head?, isBlank c = false} {s : Site source}
    (h : s ∈ allFrom before rest hsource hrest) : before <+: s.before := by
  induction rest using Passage.all.induct generalizing before with
  | case1 => simp [allFrom_nil] at h
  | case2 c cs ih =>
    rw [allFrom_cons, List.mem_cons] at h
    rcases h with rfl | h
    · exact List.prefix_rfl
    · exact (List.prefix_append ..).trans (ih h)

theorem pairwise_allFrom (before rest : List Char) (hsource : source = before ++ rest)
    (hrest : ∀ c ∈ rest.head?, isBlank c = false) :
    (allFrom before rest hsource hrest).Pairwise fun s t =>
      s.before ++ s.passage.chars <+: t.before := by
  induction rest using Passage.all.induct generalizing before with
  | case1 =>
    rw [allFrom_nil]
    exact .nil
  | case2 c cs ih =>
    rw [allFrom_cons, List.pairwise_cons]
    constructor
    · intro t ht
      exact before_of_mem_allFrom ht
    · exact ih ..

/-- Each passage begins behind the ones before it. -/
theorem pairwise_all :
    (all source).Pairwise fun s t => s.before ++ s.passage.chars <+: t.before :=
  pairwise_allFrom ..

/-- A character behind `before` belongs to the passage of some site. -/
theorem exists_of_append_allFrom (before rest : List Char) (hsource : source = before ++ rest)
    (hrest : ∀ c ∈ rest.head?, isBlank c = false) {as bs : List Char} {c : Char}
    (h : rest = as ++ c :: bs) : ∃ s ∈ allFrom before rest hsource hrest, ∃ inner more,
      before ++ as = s.before ++ inner ∧ s.passage.chars = inner ++ c :: more := by
  induction rest using Passage.all.induct generalizing before as with
  | case1 => simp at h
  | case2 d ds ih =>
    rw [← Passage.append_front] at h
    rw [allFrom_cons]
    -- The character is in the first passage, or in the rest, where the induction finds it.
    rcases cons_mem_of_append h with ⟨more, hchars⟩ | ⟨inner, rfl, hbehind⟩
    · exact ⟨_, List.mem_cons_self, as, more, rfl, hchars⟩
    · obtain ⟨s, hs, inner', more, hbefore, hchars⟩ := ih _ _ _ hbehind
      refine ⟨s, List.mem_cons_of_mem _ hs, inner', more, ?_, hchars⟩
      rw [← hbefore, List.append_assoc]

/-- A character that is not blank belongs to the word of a site or to its declared name. -/
theorem exists_of_append {as bs : List Char} {c : Char} (h : source = as ++ c :: bs)
    (hc : isBlank c = false) : ∃ s ∈ all source,
      (∃ inner more, as = s.before ++ inner ∧ s.word = inner ++ c :: more) ∨
        ∃ inner more, as = s.beforeName ++ inner ∧ s.passage.name = inner ++ c :: more := by
  -- Where all characters are blanks, this one is not.
  have hblank {cs inner more : List Char} (hcs : ∀ d ∈ cs, isBlank d = true)
      (h : cs = inner ++ c :: more) : False := by
    have htrue := hcs c (by simp [h])
    rw [hc] at htrue
    contradiction
  rw [← List.takeWhile_append_dropWhile (p := isBlank) (l := source)] at h
  rcases cons_mem_of_append h with ⟨more, hlead⟩ | ⟨inner, rfl, hrest⟩
  · exact (hblank (fun _ => List.mem_takeWhile_imp) hlead).elim
  obtain ⟨s, hs, inner', more, hbefore, hchars⟩ := exists_of_append_allFrom _ _
    List.takeWhile_append_dropWhile.symm (fun _ => Passage.isBlank_of_mem_head?_dropWhile) hrest
  refine ⟨s, hs, ?_⟩
  -- The word, the gap, the name and the blanks are tried in this order.
  rcases cons_mem_of_append hchars with ⟨more, hword⟩ | ⟨inner₁, rfl, hbehind⟩
  · exact Or.inl ⟨inner', more, hbefore, hword⟩
  rcases cons_mem_of_append hbehind with ⟨more, hgap⟩ | ⟨inner₂, rfl, hnamed⟩
  · exact (hblank (fun _ => Passage.isBlank_of_mem_gap _ _) hgap).elim
  rcases cons_mem_of_append hnamed with ⟨more, hname⟩ | ⟨inner₃, rfl, hblanks⟩
  · exact Or.inr ⟨inner₂, more, by rw [hbefore, beforeName]; simp [word], hname⟩
  · exact (hblank (fun _ => Passage.isBlank_of_mem_blanks _ _) hblanks).elim

end Site

end UsageScan
