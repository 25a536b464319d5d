import UsageScan.Warning
import UsageScan.Text.Identifier
import UsageScan.Proofs.Text.Cut
import Mathlib.Data.List.Basic
/-!
# Templates in pieces

A template is made of placeholders and of texts between them that have no opening brace. Filling it
goes over the whole text once for each argument, and so over the arguments that are in it already.
But an argument without an opening brace brings no placeholder with it. What an argument leaves
behind is a template again, in the same pieces but for the placeholders of that argument, and so
the message is the same as if all arguments had been put in at once.

## Main definitions

* `Text.Plain` — a text without an opening brace
* `Text.Piece`, `Text.template` — the pieces of a template, and the template that they make
* `Text.Piece.filled` — a piece with the arguments in the place of their placeholders
* `Text.FilledAtOnce` — a template whose arguments are put in all at once

## Main results

* `Text.replaceAll_spelling` — one argument goes to its own placeholders and nowhere else
* `Text.exists_of_spelling_eq` — a template has no placeholders but those among its pieces
* `Text.messages_filled_at_once` — the messages of warnings are made of templates in this way
-/

set_option autoImplicit false

namespace UsageScan.Text

/-! ### Pieces -/

/-- A text without an opening brace, so that nothing in it begins a placeholder. -/
structure Plain where
  text : String
  braceless : '{' ∉ text.toList

/-- A piece of a template. -/
inductive Piece where
  /-- A text that stays as it is. -/
  | plain (text : Plain)
  /-- The placeholder of the argument with the given index. -/
  | argument (index : Nat)

namespace Piece

/-- The characters of a piece. -/
def spelling : Piece → List Char
  | plain t => t.text.toList
  | argument k => placeholder k

/-- A piece with one argument in the place of its placeholder. -/
def put (piece : Piece) (arg : Plain) (index : Nat) : Piece :=
  match piece with
  | plain t => plain t
  | argument k => if k = index then plain arg else argument k

/-- A piece with several arguments, given with their indexes, put in one after another. -/
def putAll (piece : Piece) (order : List (Plain × Nat)) : Piece :=
  order.foldl (fun p x => p.put x.1 x.2) piece

/-- A piece with the arguments in the place of their placeholders. A placeholder without an argument
stays. -/
def filled (args : List Plain) : Piece → Piece
  | plain t => plain t
  | argument k =>
    match args[k]? with
    | some arg => plain arg
    | none => argument k

end Piece

/-- The characters of several pieces in a row. -/
def spelling (pieces : List Piece) : List Char :=
  pieces.flatMap Piece.spelling

/-- The template that is made of some pieces. -/
def template (pieces : List Piece) : String :=
  .ofList (spelling pieces)

/-- A text with some arguments, given with their indexes, put in the place of their placeholders one
after another. -/
def putAll (order : List (Plain × Nat)) (text : List Char) : List Char :=
  order.foldl (fun text (arg, index) => replaceAll (placeholder index) arg.text.toList text) text

/-- The arguments of a template are put in all at once. -/
structure FilledAtOnce (pieces : List Piece) (args : List Plain) : Prop where
  /-- The placeholders of the template are pieces of it. -/
  placeholders : ∀ k before behind, spelling pieces = before ++ placeholder k ++ behind →
    ∃ ps qs, pieces = ps ++ .argument k :: qs ∧ spelling ps = before ∧ spelling qs = behind
  /-- Each of them becomes its argument or stays, and all else stays. -/
  fill_eq : fill (template pieces) (args.map Plain.text) =
    template (pieces.map (Piece.filled args))
  /-- The order in which the arguments are put in makes no difference. -/
  any_order : ∀ order, order.Perm args.zipIdx →
    .ofList (putAll order (template pieces).toList) = fill (template pieces) (args.map Plain.text)
  /-- Other arguments than those that the template asks for make no difference. -/
  asked_only : ∀ args' : List Plain, (∀ k, .argument k ∈ pieces → args[k]? = args'[k]?) →
    fill (template pieces) (args.map Plain.text) = fill (template pieces) (args'.map Plain.text)

@[simp] theorem spelling_nil : spelling [] = [] := rfl

@[simp] theorem spelling_cons (p : Piece) (ps : List Piece) :
    spelling (p :: ps) = p.spelling ++ spelling ps :=
  List.flatMap_cons

/-! ### Placeholders -/

/-- An index is spelled without braces. -/
theorem ne_brace_of_mem_repr {n : Nat} {c : Char} (h : c ∈ n.repr.toList) : c ≠ '{' ∧ c ≠ '}' := by
  rw [Nat.toList_repr] at h
  have hdigit : c.isDigit = true := Nat.isDigit_of_mem_toDigits (by decide) (by decide) h
  constructor <;>
  · rintro rfl
    exact absurd hdigit (by decide)

/-- A placeholder has no opening brace but the first character. -/
theorem brace_notMem_tail_placeholder (k : Nat) : '{' ∉ (placeholder k).tail := by
  intro h
  rcases List.mem_append.mp h with hindex | hclose
  · exact (ne_brace_of_mem_repr hindex).1 rfl
  · exact absurd hclose (by decide)

/-- Of all placeholders, only one begins a text. -/
theorem eq_of_placeholder_append {j k : Nat} {as bs : List Char}
    (h : placeholder j ++ as = placeholder k ++ bs) : j = k := by
  -- The index is what stands before the first closing brace.
  have hindex (n : Nat) (cs : List Char) :
      (placeholder n ++ cs).tail.takeWhile (· != '}') = n.repr.toList := by
    have hdigits : ∀ c ∈ n.repr.toList, (c != '}') = true := fun c hc =>
      bne_iff_ne.mpr (ne_brace_of_mem_repr hc).2
    have htail : (placeholder n ++ cs).tail = n.repr.toList ++ '}' :: cs := by
      simp [placeholder]
    rw [htail, List.takeWhile_append_of_pos hdigits, List.takeWhile_cons_of_neg (by decide),
      List.append_nil]
  have hdigits : Nat.toDigits 10 j = Nat.toDigits 10 k := by
    rw [← Nat.toList_repr, ← Nat.toList_repr, ← hindex j as, ← hindex k bs, h]
  have hvalue (n : Nat) : Nat.ofDigitChars 10 (Nat.toDigits 10 n) 0 = n :=
    Nat.ofDigitChars_toDigits (by decide) (by decide)
  rw [← hvalue j, hdigits, hvalue]

/-- A template has no placeholders but those among its pieces. -/
theorem exists_of_spelling_eq {pieces : List Piece} {k : Nat} {before behind : List Char}
    (h : spelling pieces = before ++ placeholder k ++ behind) :
    ∃ ps qs, pieces = ps ++ .argument k :: qs ∧ spelling ps = before ∧ spelling qs = behind := by
  induction pieces generalizing before with
  | nil => simp [placeholder] at h
  | cons p pieces ih =>
    rw [spelling_cons, List.append_assoc] at h
    -- The opening brace of the placeholder belongs to the first piece or to those behind it.
    rcases cons_mem_of_append h with ⟨more, hp⟩ | ⟨inner, rfl, hbehind⟩
    · cases p with
      | plain t =>
        have htext : t.text.toList = before ++ '{' :: more := hp
        exact absurd (htext ▸ List.mem_append_cons_self) t.braceless
      | argument j =>
        have hfirst : before = [] := by
          cases before with
          | nil => rfl
          | cons c before =>
            have htail : (placeholder j).tail = before ++ '{' :: more := congrArg List.tail hp
            exact absurd (htail ▸ List.mem_append_cons_self) (brace_notMem_tail_placeholder j)
        subst hfirst
        obtain rfl := eq_of_placeholder_append h
        exact ⟨[], pieces, rfl, rfl, List.append_cancel_left h⟩
    · have hinner : spelling pieces = inner ++ placeholder k ++ behind := by
        rw [hbehind, List.append_assoc]
        rfl
      obtain ⟨ps, qs, rfl, rfl, rfl⟩ := ih hinner
      exact ⟨p :: ps, qs, rfl, spelling_cons p ps, rfl⟩

/-! ### Putting in one argument -/

section Replace

variable (replacement cs : List Char)

/-- Characters that belong to what has been replaced are passed over. -/
theorem replaceFrom_length_append (pattern as : List Char) :
    replaceFrom pattern replacement as.length (as ++ cs) = replaceAll pattern replacement cs := by
  induction as with
  | nil => rfl
  | cons a as ih => exact ih

/-- The placeholder at the front of a text is replaced. -/
theorem replaceAll_placeholder_append (k : Nat) :
    replaceAll (placeholder k) replacement (placeholder k ++ cs) =
      replacement ++ replaceAll (placeholder k) replacement cs := by
  have hfront : (placeholder k).isPrefixOf (placeholder k ++ cs) = true :=
    List.isPrefixOf_iff_prefix.mpr (List.prefix_append ..)
  exact (if_pos hfront).trans
    (congrArg (replacement ++ ·) (replaceFrom_length_append replacement cs _ _))

/-- Characters before the first opening brace stay. -/
theorem replaceAll_append_of_notMem (k : Nat) {as : List Char} (h : '{' ∉ as) :
    replaceAll (placeholder k) replacement (as ++ cs) =
      as ++ replaceAll (placeholder k) replacement cs := by
  induction as with
  | nil => rfl
  | cons a as ih =>
    obtain ⟨ha, has⟩ := not_or.mp (mt List.mem_cons.mpr h)
    have hfront : ¬ (placeholder k).isPrefixOf (a :: (as ++ cs)) = true := by
      simp [placeholder, List.isPrefixOf, ha]
    exact (if_neg hfront).trans (congrArg (a :: ·) (ih has))

/-- The placeholder of another argument stays. -/
theorem replaceAll_placeholder_append_of_ne {j k : Nat} (h : j ≠ k) :
    replaceAll (placeholder k) replacement (placeholder j ++ cs) =
      placeholder j ++ replaceAll (placeholder k) replacement cs := by
  have hfront : ¬ (placeholder k).isPrefixOf (placeholder j ++ cs) = true := by
    intro hprefix
    obtain ⟨more, hmore⟩ := List.isPrefixOf_iff_prefix.mp hprefix
    exact h (eq_of_placeholder_append hmore).symm
  -- Behind its opening brace the other placeholder has no further one, and so it stays.
  exact (if_neg hfront).trans (congrArg ('{' :: ·)
    (replaceAll_append_of_notMem replacement cs k (brace_notMem_tail_placeholder j)))

end Replace

/-- Putting one argument into a template makes the template with the argument in its pieces. -/
theorem replaceAll_spelling (arg : Plain) (k : Nat) (pieces : List Piece) :
    replaceAll (placeholder k) arg.text.toList (spelling pieces) =
      spelling (pieces.map fun p => p.put arg k) := by
  induction pieces with
  | nil => rfl
  | cons p pieces ih =>
    rw [List.map_cons, spelling_cons, spelling_cons, ← ih]
    cases p with
    | plain t => exact replaceAll_append_of_notMem _ _ k t.braceless
    | argument j =>
      by_cases hj : j = k
      · subst hj
        rw [Piece.put, if_pos rfl]
        exact replaceAll_placeholder_append ..
      · rw [Piece.put, if_neg hj]
        exact replaceAll_placeholder_append_of_ne _ _ hj

/-! ### Putting in all arguments -/

theorem fill_eq_putAll (args : List Plain) (template : String) :
    fill template (args.map Plain.text) = .ofList (putAll args.zipIdx template.toList) := by
  rw [fill, ← List.map_zipIdx, List.foldl_map]
  rfl

/-- Putting several arguments into a template puts them into its pieces. -/
theorem putAll_spelling (order : List (Plain × Nat)) (pieces : List Piece) :
    putAll order (spelling pieces) = spelling (pieces.map fun p => p.putAll order) := by
  -- Behind each argument there is a template again, into which the others are put.
  induction order generalizing pieces with
  | nil => simp [putAll, Piece.putAll]
  | cons x order ih =>
    have hfirst := replaceAll_spelling x.1 x.2 pieces
    refine (congrArg (putAll order) hfirst).trans ((ih _).trans ?_)
    rw [List.map_map]
    rfl

namespace Piece

variable {args : List Plain} {order : List (Plain × Nat)}

theorem putAll_plain (order : List (Plain × Nat)) (t : Plain) :
    (plain t).putAll order = plain t := by
  induction order with
  | nil => rfl
  | cons x order ih => exact ih

/-- A placeholder is filled as soon as its argument is among those put in. -/
theorem putAll_argument {k : Nat} (horder : ∀ x ∈ order, args[x.2]? = some x.1) :
    (argument k).putAll order =
      if k ∈ order.map Prod.snd then (argument k).filled args else argument k := by
  induction order with
  | nil => rfl
  | cons x order ih =>
    obtain ⟨hx, horder⟩ := List.forall_mem_cons.mp horder
    have hfirst : (argument k).putAll (x :: order) = ((argument k).put x.1 x.2).putAll order := rfl
    rw [hfirst, put]
    by_cases hk : k = x.2
    · have hmem : k ∈ (x :: order).map Prod.snd := hk ▸ List.mem_cons_self
      rw [if_pos hk, if_pos hmem, putAll_plain, filled, hk, hx]
    · have hmem : k ∈ (x :: order).map Prod.snd ↔ k ∈ order.map Prod.snd := by
        simp [hk]
      rw [if_neg hk, ih horder]
      simp only [hmem]

/-- In whatever order the arguments are put in, each piece is filled. -/
theorem putAll_eq_filled (h : order.Perm args.zipIdx) (p : Piece) :
    p.putAll order = p.filled args := by
  have horder : ∀ x ∈ order, args[x.2]? = some x.1 := fun x hx =>
    List.mem_zipIdx_iff_getElem?.mp (h.subset hx)
  cases p with
  | plain t => exact putAll_plain order t
  | argument k =>
    rw [putAll_argument horder]
    split
    · rfl
    · next hk =>
      -- A placeholder that no argument has been put in has none.
      cases harg : args[k]? with
      | none => rw [filled, harg]
      | some arg =>
        have hmem : (arg, k) ∈ order := h.symm.subset (List.mem_zipIdx_iff_getElem?.mpr harg)
        exact absurd (List.mem_map_of_mem hmem) hk

/-- A piece looks at no argument but the one whose placeholder it is. -/
theorem filled_congr {args' : List Plain} {p : Piece}
    (h : ∀ k, p = argument k → args[k]? = args'[k]?) : p.filled args = p.filled args' := by
  cases p with
  | plain t => rfl
  | argument k => rw [filled, filled, h k rfl]

end Piece

/-- In whatever order the arguments are put in, all pieces are filled. -/
theorem putAll_of_perm {args : List Plain} {order : List (Plain × Nat)}
    (h : order.Perm args.zipIdx) (pieces : List Piece) :
    putAll order (spelling pieces) = spelling (pieces.map (Piece.filled args)) := by
  rw [putAll_spelling]
  congr 2
  funext p
  exact p.putAll_eq_filled h

theorem fill_template (pieces : List Piece) (args : List Plain) :
    fill (template pieces) (args.map Plain.text) =
      template (pieces.map (Piece.filled args)) := by
  rw [fill_eq_putAll, template, String.toList_ofList, putAll_of_perm (List.Perm.refl _)]
  rfl

/-- The arguments of any template are put in all at once. -/
theorem filledAtOnce (pieces : List Piece) (args : List Plain) : FilledAtOnce pieces args where
  placeholders _ _ _ := exists_of_spelling_eq
  fill_eq := fill_template pieces args
  any_order order horder := by
    rw [fill_template, template, String.toList_ofList, putAll_of_perm horder]
    rfl
  asked_only args' hargs := by
    rw [fill_template, fill_template]
    congr 1
    apply List.map_congr_left
    intro p hp
    exact Piece.filled_congr fun k hk => hargs k (hk ▸ hp)

/-! ### Warnings -/

/-- No identifier has an opening brace. -/
theorem braceless_of_isIdentifierPart {cs : List Char}
    (h : ∀ c ∈ cs, isIdentifierPart c = true) : '{' ∉ cs := by
  intro hmem
  exact absurd (h _ hmem) (by decide)

/-- The wording of each kind of warning is a template. -/
theorem exists_template_wording (kind : Warning.Kind) :
    ∃ pieces, template pieces = kind.wording.template := by
  cases kind with
  | undeclaredVariable =>
    exact ⟨[.plain ⟨"Undeclared variable used: ", by decide⟩, .argument 0], by decide⟩
  | unusedVariable => exact ⟨[.plain ⟨"Unused variable: ", by decide⟩, .argument 0], by decide⟩
  | missingSemicolon => exact ⟨[.plain ⟨"Missing semicolon", by decide⟩], by decide⟩

/-- The arguments of a template are put in at once, whatever the template is and whatever they are,
as long as they have no opening brace. Warnings are worded by such templates, and identifiers are
such arguments. -/
theorem messages_filled_at_once :
    (∀ pieces args, FilledAtOnce pieces args) ∧
      (∀ kind : Warning.Kind, ∃ pieces, template pieces = kind.wording.template ∧
        ∀ (args : List Plain) (location : Option Location),
          (Warning.ofWording kind.wording (args.map Plain.text) location).message =
            template (pieces.map (Piece.filled args))) ∧
      ∀ name : String, (∀ c ∈ name.toList, isIdentifierPart c = true) →
        ∃ arg : Plain, arg.text = name := by
  refine ⟨filledAtOnce, ?wordings, ?names⟩
  case wordings =>
    intro kind
    obtain ⟨pieces, hpieces⟩ := exists_template_wording kind
    refine ⟨pieces, hpieces, ?_⟩
    intro args location
    rw [Warning.ofWording, ← hpieces, fill_template]
  case names =>
    intro name hname
    exact ⟨⟨name, braceless_of_isIdentifierPart hname⟩, rfl⟩

/-- The second argument, and not the eleventh, in both of its places. -/
example : fill "\x7b1\x7d, \x7b10\x7d, \x7b1\x7d" ["a", "b", "c"] = "b, \x7b10\x7d, b" := by decide

end UsageScan.Text
