import UsageScan.Proofs.Header
/-!
# Only headers are exempt

The check counts parentheses where a stack would be needed, and remembers one depth at most. Nothing
keeps the parentheses it is given balanced: a closing one may come without an opening one, and the
header that it remembers may never be closed. Whatever tokens, declared names and line ends it is
given, in any order, what it remembers is a place on the stack of the parentheses that are open. So
it takes no closing parenthesis for that of a header unless a header keyword, with or without
identifiers behind it, stands before the opening one, and it warns about every other one that a line
ends with.

## Main definitions

* `Occurrence.item?`, `itemsBehind` — what counts among some occurrences
* `SemicolonLint.takeAll` — the check behind several occurrences
* `EndsInHeaderKeyword` — what stands before the parenthesis that opens a header
* `OnlyHeadersExempt` — what the check makes of any occurrences
* `OthersReported` — which closing parentheses of a source are warned about

## Main results

* `SemicolonLint.settled_takeAll`, `SemicolonLint.remembers_takeAll` — what the check remembers
  behind any occurrences
* `SemicolonLint.closesHeader_takeAll` — which closing parentheses it exempts
* `SemicolonLint.warnings_closing` — what it makes of the others
* `only_headers_exempt` — for any occurrences, and for any source
-/

set_option autoImplicit false

namespace UsageScan

namespace Occurrence

/-- What counts of an occurrence: a token that is not a comment, or a declared name. What stands
before the name is not told. -/
def item? : Occurrence → Option Item
  | .token t _ => if t.kind = .comment then none else some (.token t)
  | .declaration name _ _ _ => some (.name ⟨[], name.toList⟩)
  | .lineBreak | .endOfText => none

/-- Whether an occurrence is a comment. -/
def isComment : Occurrence → Bool
  | .token t _ => t.kind == .comment
  | _ => false

end Occurrence

/-- What counts among some occurrences, the last one first. -/
def itemsBehind (seen : List Occurrence) : List Item :=
  (seen.filterMap Occurrence.item?).reverse

/-- The last of some items, which are given last one first, are a header keyword and any number of
identifiers behind it. -/
def EndsInHeaderKeyword (earlier : List Item) : Prop :=
  ∃ (names : List Token) (keyword : Token) (more : List Item),
    earlier = names.map .token ++ .token keyword :: more ∧
      (∀ name ∈ names, name.kind = .identifier) ∧ keyword.kind = .keyword ∧
        keyword.text ∈ ["if", "for", "while", "function"]

/-- The check behind several occurrences. -/
def SemicolonLint.takeAll (lint : SemicolonLint) (seen : List Occurrence) : SemicolonLint :=
  seen.foldl (fun lint o => (lint.take o).2) lint

/-- What the check makes of the parentheses among some occurrences. -/
structure OnlyHeadersExempt (seen : List Occurrence) : Prop where
  /-- The depth needs no more than 32 bits. -/
  depth_lt : (SemicolonLint.start.takeAll seen).depth < UInt32.size
  /-- The depth that is remembered is that of a parenthesis that is open. -/
  headerDepth_le : ∀ depth ∈ (SemicolonLint.start.takeAll seen).headerDepth,
    1 ≤ depth ∧ depth ≤ (SemicolonLint.start.takeAll seen).depth
  /-- A closing parenthesis that is taken for that of a header matches an opening one, and a header
  keyword stands before that. -/
  opening_of_closesHeader : (SemicolonLint.start.takeAll seen).closesHeader = true →
    ∃ opening ∈ (openParentheses (itemsBehind seen)).head?, EndsInHeaderKeyword opening
  /-- Any other closing parenthesis is warned about if nothing but comments comes before its line
  ends. -/
  reported : ∀ before t stop comments o more,
    seen = before ++ .token t stop :: (comments ++ o :: more) → t.is .delimiter ")" = true →
    (∀ opening ∈ (openParentheses (itemsBehind before)).head?, ¬ EndsInHeaderKeyword opening) →
    (∀ c ∈ comments, c.isComment = true) → o.endsLine = true →
      SemicolonLint.start.warnings seen = SemicolonLint.start.warnings before ++
        .missingSemicolon stop ::
          (SemicolonLint.start.takeAll
            (before ++ .token t stop :: (comments ++ [o]))).warnings more

/-- In a source, a closing parenthesis behind which a line ends is warned about if it closes
anything but a header, wherever it stands. -/
def OthersReported (source : String) (options : Options) : Prop :=
  ∀ before t behind, itemsIn source options = before ++ .token t :: behind →
    t.is .delimiter ")" = true →
    (∀ opening ∈ (openParentheses before.reverse).head?, ¬ EndsInHeaderKeyword opening) →
    SemicolonLint.linesEnd source.toList (Scanner.ofSource source options).tokens t.span.stop
      behind = true →
      .missingSemicolon ((Item.token t).stop source.toList) ∈ semicolonWarnings source options

/-! ### What stands before a parenthesis -/

/-- No more parentheses are open than have come. -/
theorem length_openParentheses_le (earlier : List Item) :
    (openParentheses earlier).length ≤ earlier.length := by
  induction earlier with
  | nil => exact Nat.le_refl 0
  | cons i earlier ih =>
    rw [openParentheses]
    split
    · exact Nat.succ_le_succ ih
    · split
      · exact (List.length_tail ▸ Nat.sub_le _ _).trans (Nat.le_succ_of_le ih)
      · exact Nat.le_succ_of_le ih

/-- What stands before an open parenthesis is what came first. -/
theorem suffix_of_mem_openParentheses {opening earlier : List Item}
    (h : opening ∈ openParentheses earlier) : opening <:+ earlier := by
  induction earlier with
  | nil => contradiction
  | cons i earlier ih =>
    rw [openParentheses] at h
    have hbefore := List.suffix_cons i earlier
    split at h
    · rcases List.mem_cons.mp h with rfl | hopening
      · exact hbefore
      · exact (ih hopening).trans hbefore
    · split at h
      · exact (ih (List.mem_of_mem_tail h)).trans hbefore
      · exact (ih h).trans hbefore

/-- Where no comment comes between, a header is announced by its keyword with nothing but
identifiers behind it. -/
theorem endsInHeaderKeyword_of_announcesHeader {earlier : List Item}
    (hitems : ∀ t, .token t ∈ earlier → t.kind ≠ .comment) (h : announcesHeader earlier = true) :
    EndsInHeaderKeyword earlier := by
  induction earlier with
  | nil => contradiction
  | cons i earlier ih =>
    cases i with
    | name d => contradiction
    | token t =>
      rw [announcesHeader] at h
      split at h
      case h_1 hkeyword =>
        exact ⟨[], t, earlier, rfl, List.forall_mem_nil _, hkeyword, List.contains_iff_mem.mp h⟩
      case h_2 hname =>
        have hmore := ih (fun u hu => hitems u (List.mem_cons_of_mem _ hu)) h
        obtain ⟨names, keyword, more, rfl, hnames, hkeyword⟩ := hmore
        exact ⟨t :: names, keyword, more, rfl, List.forall_mem_cons.mpr ⟨hname, hnames⟩, hkeyword⟩
      case h_3 hcomment => exact absurd hcomment (hitems t List.mem_cons_self)
      case h_4 => contradiction

/-- A header that is closed was announced by a keyword, if no comments come between. -/
theorem ClosesOutermostHeader.endsInHeaderKeyword {earlier : List Item}
    (h : ClosesOutermostHeader earlier) (hitems : ∀ t, .token t ∈ earlier → t.kind ≠ .comment) :
    ∃ opening ∈ (openParentheses earlier).head?, EndsInHeaderKeyword opening := by
  obtain ⟨opening, outer, hopen, hheader, -⟩ := h
  have hhead : opening ∈ (openParentheses earlier).head? := by
    rw [hopen]
    rfl
  have hbefore := suffix_of_mem_openParentheses (List.mem_of_mem_head? hhead)
  refine ⟨opening, hhead, endsInHeaderKeyword_of_announcesHeader ?_ hheader⟩
  exact fun t ht => hitems t (hbefore.subset ht)

/-- Comments are not among the items of a source. -/
theorem kind_ne_comment_of_mem_itemsIn {source : String} {options : Options} {t : Token}
    (h : .token t ∈ itemsIn source options) : t.kind ≠ .comment := by
  obtain ⟨u, -, hu⟩ := List.mem_flatMap.mp h
  rw [Token.items, List.mem_append] at hu
  rcases hu with htoken | hname
  · split at htoken
    · contradiction
    · rename_i hkind
      cases List.mem_singleton.mp htoken
      exact hkind
  · obtain ⟨d, -, hd⟩ := List.mem_map.mp hname
    contradiction

/-- Comments do not count. -/
theorem kind_ne_comment_of_mem_itemsBehind {seen : List Occurrence} {t : Token}
    (h : .token t ∈ itemsBehind seen) : t.kind ≠ .comment := by
  obtain ⟨o, -, ho⟩ := List.mem_filterMap.mp (List.mem_reverse.mp h)
  cases o with
  | token u stop =>
    rw [Occurrence.item?] at ho
    split at ho
    · contradiction
    · cases ho
      assumption
  | declaration name line offset stop => cases ho
  | lineBreak => contradiction
  | endOfText => contradiction

theorem itemsBehind_concat (seen : List Occurrence) (o : Occurrence) :
    itemsBehind (seen ++ [o]) = o.item?.toList ++ itemsBehind seen := by
  rw [itemsBehind, List.filterMap_append, List.reverse_append, itemsBehind]
  cases h : o.item? <;> simp [h]

namespace SemicolonLint

/-! ### What the check remembers -/

theorem takeAll_append (lint : SemicolonLint) (seen more : List Occurrence) :
    lint.takeAll (seen ++ more) = (lint.takeAll seen).takeAll more :=
  List.foldl_append

/-- Where a token ends matters for nothing but the warning. -/
theorem settled_observe_eq (lint : SemicolonLint) (t : Token) (stop stop' : Location) :
    (lint.observe t stop).settled = (lint.observe t stop').settled := by
  rw [observe, observe]
  split <;> rfl

/-- Apart from the warning that is due, the check behind any occurrences is that behind the items
among them. -/
theorem settled_takeAll (source : List Char) (seen : List Occurrence) :
    (start.takeAll seen).settled = (after source (itemsBehind seen)).settled := by
  induction seen using List.reverseRecOn with
  | nil => rfl
  | append_singleton seen o ih =>
    rw [takeAll_append, itemsBehind_concat]
    change ((start.takeAll seen).take o).2.settled = _
    cases o with
    | token t stop =>
      rw [Occurrence.item?, take]
      split
      · rename_i hkind
        rw [observe, if_pos hkind]
        exact ih
      · -- What is remembered does not depend on where the token is said to stop.
        let place := (Item.token t).stop source
        calc ((start.takeAll seen).observe t stop).settled
          _ = ((start.takeAll seen).observe t place).settled := settled_observe_eq ..
          _ = ((after source (itemsBehind seen)).observe t place).settled := by
            rw [← settled_observe, ih, settled_observe]
    | declaration name line offset stop =>
      exact congrArg (fun lint => (lint.observeDeclaration stop).settled) ih
    | lineBreak => exact ih
    | endOfText => exact ih

theorem remembers_takeAll (seen : List Occurrence) :
    (start.takeAll seen).Remembers (openParentheses (itemsBehind seen)) := by
  have hsettled := settled_takeAll [] seen
  have hafter : (after [] (itemsBehind seen)).Remembers _ := remembers_after (itemsBehind seen)
  exact ⟨(congrArg depth hsettled).trans hafter.1, (congrArg headerDepth hsettled).trans hafter.2⟩

/-- A header keyword stands before the parenthesis that matches an exempt one. -/
theorem closesHeader_takeAll {seen : List Occurrence}
    (h : (start.takeAll seen).closesHeader = true) :
    ∃ opening ∈ (openParentheses (itemsBehind seen)).head?, EndsInHeaderKeyword opening := by
  have hcloses : ClosesOutermostHeader (itemsBehind seen) :=
    (remembers_takeAll seen).closesHeader_iff.mp h
  exact hcloses.endsInHeaderKeyword fun t => kind_ne_comment_of_mem_itemsBehind

/-! ### What the check reports -/

theorem warnings_append (lint : SemicolonLint) (seen more : List Occurrence) :
    lint.warnings (seen ++ more) =
      lint.warnings seen ++ (lint.takeAll seen).warnings more := by
  induction seen generalizing lint with
  | nil => rfl
  | cons o seen ih =>
    rw [List.cons_append, warnings, ih, warnings, List.append_assoc]
    rfl

/-- Comments are passed over. -/
theorem takeAll_comments (lint : SemicolonLint) {comments : List Occurrence}
    (h : ∀ c ∈ comments, c.isComment = true) :
    lint.takeAll comments = lint ∧ lint.warnings comments = [] := by
  induction comments with
  | nil => exact ⟨rfl, rfl⟩
  | cons c comments ih =>
    rw [List.forall_mem_cons] at h
    obtain ⟨hc, hcomments⟩ := h
    cases c with
    | token t stop =>
      have hpass : lint.take (.token t stop) = (none, lint) := by
        rw [take, observe, if_pos (beq_iff_eq.mp hc)]
      rw [takeAll, List.foldl_cons, warnings, hpass]
      exact ih hcomments
    | declaration | lineBreak | endOfText => contradiction

/-- A closing parenthesis that is not exempt is left to be warned about. -/
theorem pending_observe_closing {lint : SemicolonLint} {t : Token} (stop : Location)
    (ht : t.is .delimiter ")" = true) (hlint : lint.closesHeader = false) :
    (lint.observe t stop).pending = some stop := by
  rw [Token.is, Bool.and_eq_true, beq_iff_eq, beq_iff_eq] at ht
  simp [observe, endsStatement, ht.1, ht.2, hlint]

theorem take_of_endsLine (lint : SemicolonLint) {o : Occurrence} (h : o.endsLine = true) :
    lint.take o = lint.endLine := by
  cases o with
  | token | declaration => contradiction
  | lineBreak | endOfText => rfl

/-- The warning about it comes where its line ends. -/
theorem warnings_closing {lint : SemicolonLint} {t : Token} {stop : Location}
    {comments more : List Occurrence} {o : Occurrence} (ht : t.is .delimiter ")" = true)
    (hlint : lint.closesHeader = false) (hcomments : ∀ c ∈ comments, c.isComment = true)
    (ho : o.endsLine = true) : lint.warnings (.token t stop :: (comments ++ o :: more)) =
      .missingSemicolon stop ::
        (lint.takeAll (.token t stop :: (comments ++ [o]))).warnings more := by
  obtain ⟨hsame, hsilent⟩ := (lint.observe t stop).takeAll_comments hcomments
  have hstate : lint.takeAll (.token t stop :: (comments ++ [o])) =
      (lint.observe t stop).endLine.2 := by
    change (lint.observe t stop).takeAll (comments ++ [o]) = _
    rw [takeAll_append, hsame, ← take_of_endsLine _ ho]
    rfl
  calc lint.warnings (.token t stop :: (comments ++ o :: more))
    _ = (lint.observe t stop).warnings (comments ++ o :: more) := rfl
    _ = (lint.observe t stop).warnings (o :: more) := by
      rw [warnings_append, hsilent, hsame, List.nil_append]
    _ = .missingSemicolon stop :: (lint.observe t stop).endLine.2.warnings more := by
      rw [warnings, take_of_endsLine _ ho, endLine, pending_observe_closing stop ht hlint]
      rfl
    _ = .missingSemicolon stop ::
        (lint.takeAll (.token t stop :: (comments ++ [o]))).warnings more := by
      rw [hstate]

end SemicolonLint

/-! ### The closing parentheses that are no header's -/

/-- What the check makes of any occurrences, and of the closing parentheses of any source. -/
theorem only_headers_exempt :
    (∀ seen, (itemsBehind seen).length < UInt32.size → OnlyHeadersExempt seen) ∧
      ∀ source options, options.checkSemicolons = true → OthersReported source options := by
  constructor
  · intro seen hfew
    obtain ⟨hdepth, hheader⟩ := SemicolonLint.remembers_takeAll seen
    refine ⟨?_, ?_, SemicolonLint.closesHeader_takeAll, ?_⟩
    · rw [hdepth]
      exact (length_openParentheses_le _).trans_lt hfew
    · rw [hdepth, hheader]
      exact fun depth => le_length_of_mem_outermostHeader?
    · rintro before t stop comments o more rfl ht hother hcomments ho
      have hnot : (SemicolonLint.start.takeAll before).closesHeader = false := by
        rw [← Bool.not_eq_true]
        intro hcloses
        obtain ⟨opening, hopening, hends⟩ := SemicolonLint.closesHeader_takeAll hcloses
        exact hother opening hopening hends
      rw [SemicolonLint.warnings_append, SemicolonLint.takeAll_append,
        SemicolonLint.warnings_closing ht hnot hcomments ho]
  · intro source options hcheck before t behind hitems ht hother hline
    refine (closing_mem_semicolonWarnings_iff hcheck hitems ht).mpr ⟨hline, ?_⟩
    intro hcloses
    obtain ⟨opening, hopening, hends⟩ := hcloses.endsInHeaderKeyword fun u hu => by
      have hbefore := List.mem_append_left (.token t :: behind) (List.mem_reverse.mp hu)
      exact kind_ne_comment_of_mem_itemsIn (hitems ▸ hbefore)
    exact hother opening hopening hends

/-- A call inside a header that is never closed is warned about, also if a parenthesis that was
never opened comes first. -/
theorem only_headers_exempt_unbalanced :
    (itemsBehind (Pull.occurrencesFrom none (.ofText ") if (f(x) // y\n"))).length < UInt32.size ∧
      OnlyHeadersExempt (Pull.occurrencesFrom none (.ofText ") if (f(x) // y\n")) ∧
      ({ Options.default with checkSemicolons := true } : Options).checkSemicolons = true ∧
      OthersReported ") if (f(x) // y\n" { Options.default with checkSemicolons := true } ∧
      semicolonWarnings ") if (f(x) // y\n" { Options.default with checkSemicolons := true } =
        [.missingSemicolon ⟨1, 11⟩] := by
  have hfew : (itemsBehind (Pull.occurrencesFrom none (.ofText ") if (f(x) // y\n"))).length <
      UInt32.size := by
    decide +kernel
  refine ⟨hfew, only_headers_exempt.1 _ hfew, rfl, only_headers_exempt.2 _ _ rfl, ?_⟩
  decide +kernel

end UsageScan
