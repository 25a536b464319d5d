import UsageScan.Proofs.Item
import UsageScan.Proofs.Semicolon
/-!
# Which lines lack a semicolon

The check remembers where the last item ended until its line ends, and forgets it then. So however
many lines end behind an item, and whatever comments stand between them, there is one warning at
most, and there is one exactly if a statement may end with the item and the line ends before the
next item comes. At the end of the source the last line ends.

## Main definitions

* `SemicolonLint.observeItem`, `SemicolonLint.endsWith` — the check run over items alone
* `SemicolonLint.unended` — the items behind which a semicolon is missing
* `SemicolonLint.Told` — occurrences of which the check makes what the items say
* `SemicolonItems` — what a scan warns about

## Main results

* `SemicolonLint.Told.token`, `SemicolonLint.Told.comment`, `SemicolonLint.Told.name`,
  `SemicolonLint.Told.lineBreaks` — one more occurrence in front
* `SemicolonLint.told_allFrom` — the occurrences of a source from any site on
* `semicolons_scan` — what any scan that checks semicolons warns about
-/

set_option autoImplicit false

namespace UsageScan

open Text

namespace SemicolonLint

/-- Takes in an item. -/
def observeItem (source : List Char) (lint : SemicolonLint) (i : Item) : SemicolonLint :=
  match i with
  | .token t => lint.observe t (i.stop source)
  | .name _ => lint.observeDeclaration (i.stop source)

/-- Whether a statement may end with an item. -/
def endsWith (lint : SemicolonLint) : Item → Bool
  | .token t => lint.endsStatement t
  | .name _ => true

/-- Whether the line of an item that stops at an offset ends before the first one of some further
items. Behind the last item it always does. -/
def linesEnd (source : List Char) (tokens : List Token) (offset : Nat) (items : List Item) : Bool :=
  items.head?.all fun next => breaksLine source tokens offset next.span.start

/-- The items behind which a semicolon is missing: a statement may end with them, and their line
ends before the next item. -/
def unended (source : List Char) (tokens : List Token) (lint : SemicolonLint) :
    List Item → List Item
  | [] => []
  | i :: items =>
    (if lint.endsWith i && linesEnd source tokens i.span.stop items then [i] else []) ++
      unended source tokens (lint.observeItem source i) items

end SemicolonLint

/-- The items of a scan behind which a semicolon is missing. -/
def unendedIn (source : String) (options : Options) : List Item :=
  SemicolonLint.start.unended source.toList (Scanner.ofSource source options).tokens
    (itemsIn source options)

/-- What a scan that checks semicolons warns about. -/
structure SemicolonItems (source : String) (options : Options) : Prop where
  /-- The items are in the order of the source and do not overlap. -/
  ascending : (itemsIn source options).Pairwise fun i j => i.span.stop ≤ j.span.start
  /-- In this order there is one warning behind each item where a semicolon is missing, and there is
  no other. -/
  warnings : semicolonWarnings source options =
    (unendedIn source options).map fun i => .missingSemicolon (i.stop source.toList)
  /-- No place is warned about twice. -/
  once : (semicolonWarnings source options).Nodup

namespace SemicolonLint

variable {source : List Char} {tokens : List Token}

/-! ### What the check forgets -/

/-- The check when nothing is left to warn about. -/
def settled (lint : SemicolonLint) : SemicolonLint :=
  { lint with pending := none }

theorem settled_followParentheses (lint : SemicolonLint) (t : Token) :
    (lint.settled.followParentheses t).settled = (lint.followParentheses t).settled := by
  rw [followParentheses, followParentheses]
  split
  · rfl
  · split <;> rfl

theorem settled_observe (lint : SemicolonLint) (t : Token) (stop : Location) :
    (lint.settled.observe t stop).settled = (lint.observe t stop).settled := by
  rw [observe, observe]
  split
  · rfl
  · have hfollow := lint.settled_followParentheses t
    have hheader := congrArg headerDepth hfollow
    have hdepth := congrArg depth hfollow
    rw [settled, settled, mk.injEq]
    exact ⟨rfl, rfl, hheader, hdepth⟩

theorem settled_observeItem (lint : SemicolonLint) (i : Item) :
    (lint.settled.observeItem source i).settled = (lint.observeItem source i).settled := by
  cases i with
  | token t => exact lint.settled_observe t _
  | name d => rfl

/-- What a statement may end with does not depend on what is left to warn about. -/
theorem unended_congr {lint lint' : SemicolonLint} (h : lint.settled = lint'.settled)
    (items : List Item) :
    lint.unended source tokens items = lint'.unended source tokens items := by
  induction items generalizing lint lint' with
  | nil => rfl
  | cons i items ih =>
    have hends : lint.endsWith i = lint'.endsWith i := by
      have hsettled := congrArg (endsWith · i) h
      cases i <;> exact hsettled
    have hnext : (lint.observeItem source i).settled = (lint'.observeItem source i).settled := by
      rw [← settled_observeItem lint, h, settled_observeItem]
    rw [unended, unended, hends, ih hnext]

/-- An item that is not a comment leaves itself to be warned about, if a statement may end with
it. -/
theorem pending_observeItem (lint : SemicolonLint) {i : Item}
    (hi : ∀ t, i = .token t → t.kind ≠ .comment) : (lint.observeItem source i).pending =
      if lint.endsWith i then some (i.stop source) else none := by
  cases i with
  | token t =>
    rw [observeItem, observe, if_neg (hi t rfl)]
    rfl
  | name d => rfl

/-! ### What is made of line breaks -/

/-- However many lines end in some blanks, there is one warning at most. -/
theorem warnings_lineBreaksIn_append (lint : SemicolonLint) (cs : List Char)
    (seen : List Occurrence) : lint.warnings (Passage.lineBreaksIn cs ++ seen) =
      if '\n' ∈ cs then
        (lint.pending.map Warning.missingSemicolon).toList ++ lint.settled.warnings seen
      else lint.warnings seen := by
  have hsettled (n : Nat) : lint.settled.warnings (List.replicate n .lineBreak ++ seen) =
      lint.settled.warnings seen := by
    induction n with
    | zero => rfl
    | succ n ih => exact ih
  rw [Passage.lineBreaksIn]
  by_cases hmem : '\n' ∈ cs
  · obtain ⟨n, hn⟩ := Nat.exists_eq_succ_of_ne_zero (List.count_pos_iff.mpr hmem).ne'
    rw [hn, List.replicate_succ, List.cons_append, if_pos hmem, ← hsettled n]
    rfl
  · rw [List.count_eq_zero.mpr hmem, if_neg hmem]
    rfl

/-! ### Occurrences that are told by items -/

/-- The warning that is left from before an offset, if the line ends before the next item. -/
def due (source : List Char) (tokens : List Token) (lint : SemicolonLint) (offset : Nat)
    (items : List Item) : List Warning :=
  if linesEnd source tokens offset items then
    (lint.pending.map Warning.missingSemicolon).toList
  else []

/-- Whatever the check remembers at an offset, it makes of the occurrences from there on what the
items from there on say. -/
structure Told (source : List Char) (tokens : List Token) (offset : Nat) (items : List Item)
    (seen : List Occurrence) : Prop where
  start_le : ∀ i ∈ items.head?, offset ≤ i.span.start
  warnings : ∀ lint : SemicolonLint, lint.warnings seen = due source tokens lint offset items ++
    (lint.unended source tokens items).map fun i => .missingSemicolon (i.stop source)

namespace Told

variable {items : List Item} {seen : List Occurrence}

/-- At the end of the source the last line ends. -/
theorem endOfText (offset : Nat) : Told source tokens offset [] [.endOfText] where
  start_le i hi := by contradiction
  warnings lint := rfl

/-- On the way to the next item, a line ends on one of two parts of the way. -/
theorem linesEnd_eq {start stop : Nat} (h : Told source tokens stop items seen)
    (hle : start ≤ stop) : linesEnd source tokens start items =
      (breaksLine source tokens start stop || linesEnd source tokens stop items) := by
  cases items with
  | nil => exact (Bool.or_true _).symm
  | cons i items => exact breaksLine_trans hle (h.start_le i rfl)

theorem start_le_of_le {start stop : Nat} (h : Told source tokens stop items seen)
    (hle : start ≤ stop) : ∀ i ∈ items.head?, start ≤ i.span.start :=
  fun i hi => Nat.le_trans hle (h.start_le i hi)

/-- Blanks in front: at their first line break what was left is warned about. -/
theorem lineBreaks {start stop : Nat} {cs : List Char} (h : Told source tokens stop items seen)
    (hle : start ≤ stop) (hbreaks : breaksLine source tokens start stop = decide ('\n' ∈ cs)) :
    Told source tokens start items (Passage.lineBreaksIn cs ++ seen) where
  start_le := h.start_le_of_le hle
  warnings lint := by
    rw [warnings_lineBreaksIn_append, due, h.linesEnd_eq hle, hbreaks]
    by_cases hmem : '\n' ∈ cs
    · have hnothing : due source tokens lint.settled stop items = [] := by
        rw [due]
        split <;> rfl
      have hsettled : lint.settled.settled = lint.settled := rfl
      rw [if_pos hmem, h.warnings, hnothing, unended_congr hsettled]
      simp [hmem]
    · rw [if_neg hmem, h.warnings, due]
      simp [hmem]

/-- A comment in front: the line goes on over it, and what was left is still left. -/
theorem comment {t : Token} (place : Location) (h : Told source tokens t.span.stop items seen)
    (hle : t.span.start ≤ t.span.stop) (hkind : t.kind = .comment)
    (hbreaks : breaksLine source tokens t.span.start t.span.stop = false) :
    Told source tokens t.span.start items (.token t place :: seen) where
  start_le := h.start_le_of_le hle
  warnings lint := by
    have hsame : lint.warnings (.token t place :: seen) = lint.warnings seen := by
      rw [SemicolonLint.warnings, take, observe, if_pos hkind]
      rfl
    rw [hsame, h.warnings, due, due, h.linesEnd_eq hle, hbreaks, Bool.false_or]

/-- An item in front: what was left before it is forgotten, and the item itself may be left. -/
theorem cons {i : Item} {o : Occurrence} (h : Told source tokens i.span.stop items seen)
    (hi : ∀ t, i = .token t → t.kind ≠ .comment)
    (ho : ∀ lint : SemicolonLint, lint.take o = (none, lint.observeItem source i)) :
    Told source tokens i.span.start (i :: items) (o :: seen) where
  start_le j hj := by
    rw [Option.mem_some_iff.mp hj]
  warnings lint := by
    have hbefore : due source tokens lint i.span.start (i :: items) = [] := by
      rw [due, linesEnd, List.head?_cons, Option.all_some, breaksLine_self]
      rfl
    rw [SemicolonLint.warnings, ho, h.warnings, hbefore, unended, List.map_append, due,
      pending_observeItem lint hi]
    cases lint.endsWith i with
    | true =>
      simp only [if_true, Bool.true_and]
      split <;> rfl
    | false => simp

theorem token {t : Token} (h : Told source tokens t.span.stop items seen)
    (hkind : t.kind ≠ .comment) : Told source tokens t.span.start (.token t :: items)
      (.token t ((Item.token t).stop source) :: seen) := by
  refine cons (i := .token t) h ?_ fun lint => rfl
  rintro u ⟨⟩
  exact hkind

theorem name {limit : Option Nat} {d : DeclaredName}
    (h : Told source tokens d.span.stop items seen)
    (hstop : (Item.name d).stop source = (Position.start.afterAll (d.before ++ d.name)).location) :
    Told source tokens d.span.start (.name d :: items) (d.occurrence limit :: seen) := by
  refine cons (i := .name d) h ?_ ?_
  · nofun
  · intro lint
    rw [observeItem, hstop]
    rfl

end Told

/-! ### The occurrences of a source -/

section Site

variable (limit : Option Nat) {items : List Item} {seen : List Occurrence} {s : Site source}

/-- The declared name of a site, if there is one, put in front of what comes behind it. -/
theorem told_declaredName
    (h : Told source tokens (size (s.beforeName ++ s.passage.name)) items seen) :
    Told source tokens (size s.beforeName) (s.declaredName?.toList.map .name ++ items)
      (s.declaredName?.toList.map (DeclaredName.occurrence limit) ++ seen) := by
  cases hd : s.declaredName? with
  | none =>
    have hempty : s.passage.name = [] := by
      by_contra hne
      rw [Site.declaredName?, if_neg hne] at hd
      contradiction
    rw [hempty, List.append_nil] at h
    exact h
  | some d =>
    have hstop := Site.stop_name hd
    obtain ⟨-, rfl⟩ := Site.declaredName?_eq_some_iff.mp hd
    rw [size_append] at h
    exact Told.name h hstop

/-- All that comes behind the word of a site, put in front of what comes behind its passage, if a
line ends at each line break of its blanks. -/
theorem told_behind
    (hgap : breaksLine source tokens (size (s.before ++ s.word)) (size s.beforeName) =
      decide ('\n' ∈ s.passage.gap))
    (hblanks : breaksLine source tokens (size (s.beforeName ++ s.passage.name))
      (size (s.before ++ s.passage.chars)) = decide ('\n' ∈ s.passage.blanks))
    (h : Told source tokens (size (s.before ++ s.passage.chars)) items seen) :
    Told source tokens (size (s.before ++ s.word)) (s.declaredName?.toList.map .name ++ items)
      (Passage.lineBreaksIn s.passage.gap ++
        (s.declaredName?.toList.map (DeclaredName.occurrence limit) ++
          (Passage.lineBreaksIn s.passage.blanks ++ seen))) := by
  refine (told_declaredName limit (h.lineBreaks ?_ hblanks)).lineBreaks ?_ hgap
  · rw [Site.chars_eq_append_blanks]
    exact size_mono (List.prefix_append ..)
  · exact size_mono (List.prefix_append ..)

/-- The token of a site that is no comment, put in front of what comes behind it. -/
theorem told_word (hkind : (s.token limit).kind ≠ .comment)
    (h : Told source tokens (size (s.before ++ s.word)) items seen) :
    Told source tokens (size s.before) (.token (s.token limit) :: items)
      (.token (s.token limit) s.stop :: seen) := by
  have hspan := s.span_token limit
  have hbehind : Told source tokens (s.token limit).span.stop items seen := by
    rw [hspan]
    exact h
  have hstart : size s.before = (s.token limit).span.start := by rw [hspan]
  rw [hstart, ← Site.stop_token limit s]
  exact Told.token hbehind hkind

/-- The token of a site, put in front of what comes behind it. It is an item unless it is a
comment. -/
theorem told_token (hs : s ∈ Site.all source)
    (h : Told source ((Site.all source).map (Site.token limit)) (size (s.before ++ s.word))
      items seen) :
    Told source ((Site.all source).map (Site.token limit)) (size s.before)
      ((if (s.token limit).kind = .comment then [] else [.token (s.token limit)]) ++ items)
      (.token (s.token limit) s.stop :: seen) := by
  by_cases hkind : (s.token limit).kind = .comment
  · have hspan := s.span_token limit
    have hbehind : Told source ((Site.all source).map (Site.token limit)) (s.token limit).span.stop
        items seen := by
      rw [hspan]
      exact h
    have hstart : size s.before = (s.token limit).span.start := by rw [hspan]
    have hbreaks := Site.breaksLine_word limit hs hkind
    rw [if_pos hkind, hstart]
    refine Told.comment s.stop hbehind ?_ hkind ?_
    · rw [hspan]
      exact size_mono (List.prefix_append ..)
    · rw [hspan]
      exact hbreaks
  · rw [if_neg hkind]
    exact told_word limit hkind h

/-- The occurrences at a site are told by the items at the site. They are put in front one after
another, the last ones first. -/
theorem told_site (hs : s ∈ Site.all source)
    (h : Told source ((Site.all source).map (Site.token limit))
      (size (s.before ++ s.passage.chars)) items seen) :
    Told source ((Site.all source).map (Site.token limit)) (size s.before)
      ((s.token limit).items source ++ items) (s.occurrences limit ++ seen) := by
  have hbehind := told_behind limit (Site.breaksLine_gap limit hs) (Site.breaksLine_blanks limit hs) h
  have htoken := told_token limit hs hbehind
  rw [Site.occurrences_eq, Site.items_token]
  simp only [List.cons_append, List.append_assoc]
  exact htoken

/-- The occurrences from any site on are told by the items from there on. -/
theorem told_allFrom (before rest : List Char) (hsource : source = before ++ rest)
    (hrest : ∀ c ∈ rest.head?, isBlank c = false)
    (hall : Site.allFrom before rest hsource hrest ⊆ Site.all source) :
    Told source ((Site.all source).map (Site.token limit)) (size before)
      ((Site.allFrom before rest hsource hrest).flatMap fun s => (s.token limit).items source)
      ((Site.allFrom before rest hsource hrest).flatMap (Site.occurrences limit) ++
        [.endOfText]) := by
  induction rest using Passage.all.induct generalizing before with
  | case1 =>
    rw [Site.allFrom_nil]
    exact Told.endOfText _
  | case2 c cs ih =>
    rw [Site.allFrom_cons] at hall ⊢
    obtain ⟨hsite, hmore⟩ := List.cons_subset.mp hall
    rw [List.flatMap_cons, List.flatMap_cons, List.append_assoc (Site.occurrences limit _)]
    exact told_site limit hsite (ih _ _ _ hmore)

/-- The warnings over a whole source. -/
theorem warnings_occurrences_ofText (source : List Char) :
    start.warnings ((Layout.ofText source).occurrences limit .start) =
      (start.unended source ((Site.all source).map (Site.token limit))
        ((Site.all source).flatMap fun s => (s.token limit).items source)).map
          fun i => .missingSemicolon (i.stop source) := by
  have htold := told_allFrom limit (source.takeWhile isBlank) (source.dropWhile isBlank)
    List.takeWhile_append_dropWhile.symm (fun _ => Passage.isBlank_of_mem_head?_dropWhile)
    (List.Subset.refl _)
  -- Before the first item nothing is left to warn about, whatever lines end there.
  have hnothing : due source ((Site.all source).map (Site.token limit)) start
      (size (source.takeWhile isBlank))
      ((Site.all source).flatMap fun s => (s.token limit).items source) = [] := by
    rw [due]
    split <;> rfl
  rw [Site.flatMap_occurrences_all, warnings_lineBreaksIn_append]
  have hstart := htold.warnings start
  rw [← Site.all, hnothing] at hstart
  split
  · exact hstart
  · exact hstart

end Site

theorem unended_sublist (lint : SemicolonLint) (items : List Item) :
    (lint.unended source tokens items).Sublist items := by
  induction items generalizing lint with
  | nil => exact List.Sublist.refl _
  | cons i items ih =>
    rw [unended]
    split
    · exact (ih _).cons_cons i
    · exact (ih _).cons i

end SemicolonLint

theorem semicolonWarnings_eq_map_unendedIn (source : String) {options : Options}
    (h : options.checkSemicolons = true) : semicolonWarnings source options =
      (unendedIn source options).map fun i => .missingSemicolon (i.stop source.toList) := by
  rw [semicolonWarnings_eq source h, Cursor.ofText, Pull.occurrencesFrom_mk,
    SemicolonLint.warnings_occurrences_ofText, unendedIn, itemsIn_eq_flatMap_all,
    Scanner.tokens_eq_map_all]

/-- What any scan that checks semicolons warns about. -/
theorem semicolons_scan (source : String) {options : Options}
    (h : options.checkSemicolons = true) : SemicolonItems source options where
  ascending := pairwise_itemsIn source options
  warnings := semicolonWarnings_eq_map_unendedIn source h
  once := by
    rw [semicolonWarnings_eq_map_unendedIn source h, List.Nodup, List.pairwise_map]
    refine ((pairwise_stop_itemsIn source options).sublist
      (SemicolonLint.unended_sublist ..)).imp ?_
    intro i j hne hsame
    apply hne
    simpa [Warning.missingSemicolon, Warning.ofWording] using hsame

/-- Comments and blank lines behind an item do not change its warning, and a header has none. -/
theorem semicolons_scan_comments :
    ({ Options.default with checkSemicolons := true } : Options).checkSemicolons = true ∧
      SemicolonItems "let x // one\n\n/* two\n*/ f(x) /* three\n*/\nif (x)\n  y"
        { Options.default with checkSemicolons := true } ∧
      semicolonWarnings "let x // one\n\n/* two\n*/ f(x) /* three\n*/\nif (x)\n  y"
          { Options.default with checkSemicolons := true } =
        [.missingSemicolon ⟨1, 6⟩, .missingSemicolon ⟨4, 8⟩, .missingSemicolon ⟨7, 4⟩] := by
  refine ⟨rfl, semicolons_scan _ rfl, ?_⟩
  decide +kernel

end UsageScan
