import UsageScan.Proofs.SemicolonItem
import Mathlib.Data.List.Nodup
/-!
# Headers within headers

The check of semicolons keeps no stack of parentheses. It counts the open ones and remembers the
depth of one header, the outermost of those that are open. So the parenthesis that closes a header
is exempt only if the header is in no other one, and a header within a header is warned about like
a call.

## Main definitions

* `openParentheses` — the stack of parentheses that the check does without
* `announcesHeader`, `standsBeforeHeader` — whether a parenthesis opens a header, as the check sees
  it and as the language has it
* `HeadersExempt` — no semicolon is missed behind a header
* `ClosingParentheses` — where a semicolon is missed behind a parenthesis

## Main results

* `SemicolonLint.remembers_after` — what the check remembers of the stack
* `SemicolonLint.closesHeader_after_iff` — which parentheses are exempt
* `SemicolonLint.mem_unended_iff` — where a semicolon is missed behind an item
* `closing_parentheses_scan` — where any scan misses a semicolon behind a parenthesis
-/

set_option autoImplicit false

namespace UsageScan

open Text

/-- Whether an item is a token of the given kind and text. -/
def Item.is (i : Item) (kind : Token.Kind) (text : String) : Bool :=
  match i with
  | .token t => t.is kind text
  | .name _ => false

/-- Whether a header is announced behind some items, the last one first: by its keyword, with or
without identifiers behind it. -/
def announcesHeader : List Item → Bool
  | [] => false
  | .name _ :: _ => false
  | .token t :: earlier =>
    match t.kind with
    | .keyword => opensHeader t.text
    | .identifier | .comment => announcesHeader earlier
    | _ => false

/-- Whether a parenthesis behind some items, the last one first, opens a header: the last one is a
header keyword, or it is the name behind `function`. -/
def standsBeforeHeader : List Item → Bool
  | .token t :: earlier =>
    match t.kind with
    | .keyword => opensHeader t.text
    | .identifier => earlier.head?.any fun i => i.is .keyword "function"
    | _ => false
  | _ => false

/-- The parentheses that are open behind some items, the last one first. For each there are the
items before it, and the innermost one is on top. A closing parenthesis takes away the one on top;
if none is open, it closes nothing. -/
def openParentheses : List Item → List (List Item)
  | [] => []
  | i :: earlier =>
    if i.is .delimiter "(" then earlier :: openParentheses earlier
    else if i.is .delimiter ")" then (openParentheses earlier).tail
    else openParentheses earlier

/-- The depth of the outermost header among some open parentheses, if there is one. -/
def outermostHeader? : List (List Item) → Option Nat
  | [] => none
  | opening :: outer => (outermostHeader? outer).or
      (if announcesHeader opening then some (outer.length + 1) else none)

/-- Behind some items, the last one first, a closing parenthesis closes a header that is in no other
one. -/
def ClosesOutermostHeader (earlier : List Item) : Prop :=
  ∃ opening outer, openParentheses earlier = opening :: outer ∧ announcesHeader opening = true ∧
    ∀ o ∈ outer, announcesHeader o = false

/-- No semicolon is missed behind the parenthesis that closes a header. -/
def HeadersExempt (source : String) (options : Options) : Prop :=
  ∀ before t behind, itemsIn source options = before ++ .token t :: behind →
    t.is .delimiter ")" = true → ∀ opening ∈ (openParentheses before.reverse).head?,
      standsBeforeHeader opening = true → .missingSemicolon ((Item.token t).stop source.toList) ∉
        semicolonWarnings source options

/-- Where a scan misses a semicolon behind a closing parenthesis. -/
structure ClosingParentheses (source : String) (options : Options) : Prop where
  /-- It does at the end of each line, unless the parenthesis closes a header that is in no other
  one. -/
  warned_iff : ∀ before t behind, itemsIn source options = before ++ .token t :: behind →
    t.is .delimiter ")" = true →
      (.missingSemicolon ((Item.token t).stop source.toList) ∈ semicolonWarnings source options ↔
        SemicolonLint.linesEnd source.toList (Scanner.ofSource source options).tokens t.span.stop
            behind = true ∧ ¬ ClosesOutermostHeader before.reverse)
  /-- So headers are exempt exactly if no line ends behind a header that is in another one. -/
  exempt_iff : HeadersExempt source options ↔
    ∀ before t behind, itemsIn source options = before ++ .token t :: behind →
      t.is .delimiter ")" = true →
      SemicolonLint.linesEnd source.toList (Scanner.ofSource source options).tokens t.span.stop
        behind = true → ∀ opening outer, openParentheses before.reverse = opening :: outer →
          standsBeforeHeader opening = true → ∀ o ∈ outer, announcesHeader o = false

/-! ### The stack of parentheses -/

/-- The keyword of a function announces a header. -/
theorem announcesHeader_of_function {i : Item} (h : i.is .keyword "function" = true)
    (earlier : List Item) : announcesHeader (i :: earlier) = true := by
  cases i with
  | name d => contradiction
  | token t =>
    rw [Item.is, Token.is, Bool.and_eq_true, beq_iff_eq, beq_iff_eq] at h
    simp only [announcesHeader, h.1, h.2]
    decide

/-- What opens a header is announced as one. -/
theorem announcesHeader_of_standsBeforeHeader {earlier : List Item}
    (h : standsBeforeHeader earlier = true) : announcesHeader earlier = true := by
  unfold standsBeforeHeader at h
  split at h
  case h_2 => contradiction
  case h_1 t earlier =>
    split at h
    case h_1 hkind =>
      simpa only [announcesHeader, hkind] using h
    case h_2 hkind =>
      -- In front of the name stands the keyword, and the name does not end what it announces.
      obtain ⟨i, hi, hfunction⟩ := (Option.any_eq_true _ _).mp h
      simp only [announcesHeader, hkind]
      rw [List.eq_cons_of_mem_head? hi]
      exact announcesHeader_of_function hfunction _
    case h_3 => contradiction

theorem outermostHeader?_eq_none_iff {stack : List (List Item)} :
    outermostHeader? stack = none ↔ ∀ opening ∈ stack, announcesHeader opening = false := by
  induction stack with
  | nil => simp [outermostHeader?]
  | cons opening outer ih =>
    rw [outermostHeader?, Option.or_eq_none_iff, ih, List.forall_mem_cons, and_comm]
    apply and_congr_left'
    simp

/-- The outermost header is one of the open parentheses. -/
theorem le_length_of_mem_outermostHeader? {stack : List (List Item)} {depth : Nat}
    (h : depth ∈ outermostHeader? stack) : 1 ≤ depth ∧ depth ≤ stack.length := by
  induction stack with
  | nil => contradiction
  | cons opening outer ih =>
    rw [outermostHeader?, Option.mem_def, Option.or_eq_some_iff] at h
    rw [List.length_cons]
    rcases h with houter | ⟨-, hopening⟩
    · have := ih houter
      omega
    · split at hopening
      · obtain rfl := Option.some.inj hopening
        omega
      · contradiction

/-- The innermost parenthesis is the outermost header if it is a header and in no other one. -/
theorem outermostHeader?_eq_length_iff {opening : List Item} {outer : List (List Item)} :
    outermostHeader? (opening :: outer) = some (outer.length + 1) ↔
      announcesHeader opening = true ∧ ∀ o ∈ outer, announcesHeader o = false := by
  rw [← outermostHeader?_eq_none_iff, outermostHeader?, and_comm]
  cases houter : outermostHeader? outer with
  | none => simp
  | some depth =>
    have hle := (le_length_of_mem_outermostHeader? houter).2
    have hne : depth ≠ outer.length + 1 := by omega
    simp [hne]

/-- Another parenthesis on top does not matter. -/
theorem outermostHeader?_cons_of_not {opening : List Item} {outer : List (List Item)}
    (h : ¬ (announcesHeader opening = true ∧ ∀ o ∈ outer, announcesHeader o = false)) :
    outermostHeader? (opening :: outer) = outermostHeader? outer := by
  rw [← outermostHeader?_eq_none_iff] at h
  rw [outermostHeader?]
  cases houter : outermostHeader? outer with
  | none =>
    have hopening : announcesHeader opening = false := by simpa [houter] using h
    rw [hopening]
    rfl
  | some depth => rfl

namespace SemicolonLint

variable {source : List Char}

/-! ### What the check remembers -/

/-- The check behind some items, the last one first. -/
def after (source : List Char) : List Item → SemicolonLint
  | [] => start
  | i :: earlier => (after source earlier).observeItem source i

theorem headerKeyword_after (earlier : List Item) :
    (after source earlier).headerKeyword = announcesHeader earlier := by
  induction earlier with
  | nil => rfl
  | cons i earlier ih =>
    cases i with
    | name d => rfl
    | token t =>
      rw [after, observeItem, observe, announcesHeader]
      by_cases hkind : t.kind = .comment
      · rw [if_pos hkind, hkind]
        exact ih
      · rw [if_neg hkind, ← ih]
        simp only [keepsHeader]
        split <;> simp_all

/-- A token changes the depths as a parenthesis does; a comment changes nothing. -/
theorem depths_observe (lint : SemicolonLint) (t : Token) (stop : Location) :
    (lint.observe t stop).depth = (lint.followParentheses t).depth ∧
      (lint.observe t stop).headerDepth = (lint.followParentheses t).headerDepth := by
  rw [observe]
  split
  · rename_i hkind
    have hself : lint.followParentheses t = lint := by
      simp [followParentheses, Token.is, hkind]
    rw [hself]
    exact ⟨rfl, rfl⟩
  · exact ⟨rfl, rfl⟩

/-- What the check remembers of a stack of parentheses. -/
def Remembers (lint : SemicolonLint) (stack : List (List Item)) : Prop :=
  lint.depth = stack.length ∧ lint.headerDepth = outermostHeader? stack

/-- A closing parenthesis closes the remembered header if that is on top of the stack. -/
theorem Remembers.closesHeader_iff {lint : SemicolonLint} {stack : List (List Item)}
    (h : lint.Remembers stack) : lint.closesHeader = true ↔
      ∃ opening outer, stack = opening :: outer ∧ announcesHeader opening = true ∧
        ∀ o ∈ outer, announcesHeader o = false := by
  rw [closesHeader, beq_iff_eq, h.1, h.2]
  cases stack with
  | nil => simp [outermostHeader?]
  | cons opening outer =>
    rw [List.length_cons, outermostHeader?_eq_length_iff]
    simp

/-- An opening parenthesis is put on the stack. -/
theorem Remembers.push {lint : SemicolonLint} {earlier : List Item} {stack : List (List Item)}
    (h : lint.Remembers stack) (hkeyword : lint.headerKeyword = announcesHeader earlier) {t : Token}
    (ht : t.is .delimiter "(" = true) :
    (lint.followParentheses t).Remembers (earlier :: stack) := by
  rw [followParentheses, if_pos ht]
  refine ⟨by rw [List.length_cons, h.1], ?_⟩
  rw [outermostHeader?, hkeyword, ← h.1, ← h.2]
  cases lint.headerDepth <;> simp

/-- A closing one takes the top away. -/
theorem Remembers.pop {lint : SemicolonLint} {stack : List (List Item)} (h : lint.Remembers stack)
    {t : Token} (ht : t.is .delimiter ")" = true) :
    (lint.followParentheses t).Remembers stack.tail := by
  have hopening : t.is .delimiter "(" = false := by
    rw [Token.is, Bool.and_eq_true, beq_iff_eq, beq_iff_eq] at ht
    rw [Token.is, ht.2]
    simp
  rw [followParentheses, hopening, if_neg Bool.false_ne_true, if_pos ht]
  refine ⟨by rw [List.length_tail, h.1], ?_⟩
  change (if lint.closesHeader = true then none else lint.headerDepth) = _
  have hcloses := h.closesHeader_iff
  cases stack with
  | nil =>
    rw [h.2]
    exact ite_self _
  | cons opening outer =>
    rw [h.2, List.tail_cons]
    split
    · rename_i hheader
      obtain ⟨_, _, hstack, -, hnone⟩ := hcloses.mp hheader
      obtain ⟨rfl, rfl⟩ := List.cons.inj hstack
      exact (outermostHeader?_eq_none_iff.mpr hnone).symm
    · rename_i hheader
      apply outermostHeader?_cons_of_not
      intro hopening
      exact hheader (hcloses.mpr ⟨opening, outer, rfl, hopening⟩)

/-- Any other token leaves the stack as it is. -/
theorem Remembers.keep {lint : SemicolonLint} {stack : List (List Item)} (h : lint.Remembers stack)
    {t : Token} (hopening : ¬ t.is .delimiter "(" = true)
    (hclosing : ¬ t.is .delimiter ")" = true) :
    (lint.followParentheses t).Remembers stack := by
  rwa [followParentheses, if_neg hopening, if_neg hclosing]

/-- The check remembers the parentheses that are open. -/
theorem remembers_after (earlier : List Item) :
    (after source earlier).Remembers (openParentheses earlier) := by
  induction earlier with
  | nil => exact ⟨rfl, rfl⟩
  | cons i earlier ih =>
    rw [openParentheses]
    cases i with
    | name d => exact ih
    | token t =>
      obtain ⟨hdepth, hheader⟩ :=
        (after source earlier).depths_observe t ((Item.token t).stop source)
      rw [Remembers, after, observeItem, hdepth, hheader]
      split
      · rename_i hopening
        exact ih.push (headerKeyword_after earlier) hopening
      · rename_i hopening
        split
        · rename_i hclosing
          exact ih.pop hclosing
        · rename_i hclosing
          exact ih.keep hopening hclosing

theorem closesHeader_after_iff (source : List Char) (earlier : List Item) :
    (after source earlier).closesHeader = true ↔ ClosesOutermostHeader earlier :=
  (remembers_after earlier).closesHeader_iff

/-! ### Where a semicolon is missed -/

/-- A semicolon is missed behind an item if a statement may end with it, by what comes before, and
its line ends before what comes behind. -/
theorem mem_unended_iff (source : List Char) (tokens : List Token) {i : Item}
    (earlier items : List Item) : i ∈ (after source earlier).unended source tokens items ↔
      ∃ before behind, items = before ++ i :: behind ∧
        (after source (before.reverse ++ earlier)).endsWith i = true ∧
          linesEnd source tokens i.span.stop behind = true := by
  induction items generalizing earlier with
  | nil => simp [unended]
  | cons j items ih =>
    have hnext : (after source earlier).observeItem source j = after source (j :: earlier) := rfl
    rw [unended, List.mem_append, hnext, ih]
    constructor
    · rintro (hhere | ⟨before, behind, rfl, hends, hline⟩)
      · split at hhere
        · rename_i hmissed
          obtain rfl := List.mem_singleton.mp hhere
          rw [Bool.and_eq_true] at hmissed
          exact ⟨[], items, rfl, hmissed.1, hmissed.2⟩
        · contradiction
      · refine ⟨j :: before, behind, rfl, ?_, hline⟩
        rwa [List.reverse_cons, List.append_assoc]
    · rintro ⟨before, behind, hitems, hends, hline⟩
      cases before with
      | nil =>
        obtain ⟨rfl, rfl⟩ := List.cons.inj hitems
        left
        rw [List.reverse_nil, List.nil_append] at hends
        rw [hends, hline]
        simp
      | cons k before =>
        obtain ⟨rfl, rfl⟩ := List.cons.inj hitems
        right
        refine ⟨before, behind, rfl, ?_, hline⟩
        rwa [List.reverse_cons, List.append_assoc] at hends

end SemicolonLint

/-! ### The closing parentheses of a source -/

section Closing

variable {source : String} {options : Options} {before behind : List Item} {t : Token}

theorem nodup_itemsIn (source : String) (options : Options) : (itemsIn source options).Nodup := by
  apply (pairwise_stop_itemsIn source options).imp
  rintro i j hstop rfl
  exact hstop rfl

/-- An item has one place among the items of a source. -/
theorem eq_of_stop_eq {before' behind' : List Item} {i j : Item}
    (h : itemsIn source options = before ++ i :: behind)
    (h' : itemsIn source options = before' ++ j :: behind')
    (hstop : i.stop source.toList = j.stop source.toList) :
    before = before' ∧ i = j ∧ behind = behind' := by
  have hdistinct : ((itemsIn source options).map (Item.stop source.toList)).Nodup :=
    List.pairwise_map.mpr (pairwise_stop_itemsIn source options)
  have hsame : i = j := List.inj_on_of_nodup_map hdistinct (by simp [h]) (by simp [h']) hstop
  have hapart := nodup_itemsIn source options
  rw [h, List.nodup_middle, List.nodup_cons, List.mem_append, not_or, hsame] at hapart
  exact (List.append_cons_inj_of_notMem hapart.1.1 hapart.1.2).mp (h.symm.trans h')

/-- A closing parenthesis is warned about if its line ends, unless it closes a header that is in no
other one. -/
theorem closing_mem_semicolonWarnings_iff (hcheck : options.checkSemicolons = true)
    (hitems : itemsIn source options = before ++ .token t :: behind)
    (ht : t.is .delimiter ")" = true) :
    .missingSemicolon ((Item.token t).stop source.toList) ∈ semicolonWarnings source options ↔
      SemicolonLint.linesEnd source.toList (Scanner.ofSource source options).tokens t.span.stop
        behind = true ∧ ¬ ClosesOutermostHeader before.reverse := by
  have hends : (SemicolonLint.after source.toList before.reverse).endsWith (.token t) = true ↔
      ¬ ClosesOutermostHeader before.reverse := by
    rw [← SemicolonLint.closesHeader_after_iff source.toList]
    rw [Token.is, Bool.and_eq_true, beq_iff_eq, beq_iff_eq] at ht
    simp [SemicolonLint.endsWith, SemicolonLint.endsStatement, ht.1, ht.2]
  rw [semicolonWarnings_eq_map_unendedIn source hcheck, List.mem_map, ← hends]
  have hmissed (i : Item) : i ∈ unendedIn source options ↔ _ :=
    SemicolonLint.mem_unended_iff source.toList _ [] (itemsIn source options)
  constructor
  · rintro ⟨i, hi, hstop⟩
    obtain ⟨before', behind', hitems', hends', hline⟩ := (hmissed i).mp hi
    have hplace : i.stop source.toList = (Item.token t).stop source.toList := by
      simpa [Warning.missingSemicolon, Warning.ofWording] using hstop
    obtain ⟨rfl, rfl, rfl⟩ := eq_of_stop_eq hitems' hitems hplace
    rw [List.append_nil] at hends'
    exact ⟨hline, hends'⟩
  · rintro ⟨hline, hends'⟩
    refine ⟨.token t, (hmissed _).mpr ⟨before, behind, hitems, ?_, hline⟩, rfl⟩
    rwa [List.append_nil]

end Closing

/-- Where any scan misses a semicolon behind a closing parenthesis. -/
theorem closing_parentheses_scan (source : String) {options : Options}
    (h : options.checkSemicolons = true) : ClosingParentheses source options where
  warned_iff _ _ _ := closing_mem_semicolonWarnings_iff h
  exempt_iff := by
    constructor
    · intro hexempt before t behind hitems ht hline opening outer hopen hstands o ho
      have hnot := hexempt before t behind hitems ht opening (by rw [hopen]; rfl) hstands
      rw [closing_mem_semicolonWarnings_iff h hitems ht, not_and, not_not] at hnot
      obtain ⟨_, _, hopen', -, hnone⟩ := hnot hline
      obtain ⟨-, rfl⟩ := List.cons.inj (hopen.symm.trans hopen')
      exact hnone o ho
    · intro houtermost before t behind hitems ht opening hopening hstands hwarned
      obtain ⟨hline, hnot⟩ := (closing_mem_semicolonWarnings_iff h hitems ht).mp hwarned
      have hopen := List.eq_cons_of_mem_head? hopening
      exact hnot ⟨opening, _, hopen, announcesHeader_of_standsBeforeHeader hstands,
        houtermost before t behind hitems ht hline _ _ hopen hstands⟩

/-- The header of a function in the condition of an `if` is not exempt. -/
theorem not_headersExempt_condition : ¬ HeadersExempt "if (function ()\n\x7b\x7d) \x7b\x7d"
    { Options.default with checkSemicolons := true } := by
  intro h
  have hitems : itemsIn "if (function ()\n\x7b\x7d) \x7b\x7d"
        { Options.default with checkSemicolons := true } =
      [.token ⟨.keyword, "if", ⟨1, 1⟩, ⟨0, 2⟩, .none⟩,
        .token ⟨.delimiter, "(", ⟨1, 4⟩, ⟨3, 4⟩, .none⟩,
        .token ⟨.keyword, "function", ⟨1, 5⟩, ⟨4, 12⟩, .none⟩,
        .token ⟨.delimiter, "(", ⟨1, 14⟩, ⟨13, 14⟩, .none⟩] ++
      .token ⟨.delimiter, ")", ⟨1, 15⟩, ⟨14, 15⟩, .none⟩ ::
      [.token ⟨.delimiter, "\x7b", ⟨2, 1⟩, ⟨16, 17⟩, .none⟩,
        .token ⟨.delimiter, "\x7d", ⟨2, 2⟩, ⟨17, 18⟩, .none⟩,
        .token ⟨.delimiter, ")", ⟨2, 3⟩, ⟨18, 19⟩, .none⟩,
        .token ⟨.delimiter, "\x7b", ⟨2, 5⟩, ⟨20, 21⟩, .none⟩,
        .token ⟨.delimiter, "\x7d", ⟨2, 6⟩, ⟨21, 22⟩, .none⟩] := by
    decide +kernel
  have hwarned : .missingSemicolon ⟨1, 16⟩ ∈ semicolonWarnings
      "if (function ()\n\x7b\x7d) \x7b\x7d" { Options.default with checkSemicolons := true } := by
    decide +kernel
  exact h _ _ _ hitems rfl _ rfl rfl hwarned

/-- Of the headers of two functions, one of which is a parameter of the other, the outer one is
exempt. -/
theorem closing_parentheses_scan_functions :
    ({ Options.default with checkSemicolons := true } : Options).checkSemicolons = true ∧
      ClosingParentheses "f(function (a, function g(b)\n, c)\n)"
        { Options.default with checkSemicolons := true } ∧
      semicolonWarnings "f(function (a, function g(b)\n, c)\n)"
          { Options.default with checkSemicolons := true } =
        [.missingSemicolon ⟨1, 29⟩, .missingSemicolon ⟨3, 2⟩] := by
  refine ⟨rfl, closing_parentheses_scan _ rfl, ?_⟩
  decide +kernel

end UsageScan
