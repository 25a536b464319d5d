import UsageScan.Proofs.CommentLine
import UsageScan.Proofs.Unplaced
/-!
# Comments and the names of a source

Blanks in the place of comments change nothing about the names that a source declares and uses, with
one exception: a declaration keyword does not look for its name behind a comment, while it does
behind the blanks that stand there instead. If what comes behind such comments begins no word, the
keyword finds no name in either case.

## Main definitions

* `Token.lacksName` — a declaration keyword that declares no name
* `uncommented`, `NamesUncommented` — no such keyword is kept from a word by comments alone
* `Passage.operations`, `Layout.operations` — what passages ask of the binder, without byte offsets

## Main results

* `Passage.front_agree_of_nameless` — what is read before a comment behind a keyword without a name
* `Layout.operations_blanked` — blanks in the place of comments ask the same of the binder
* `comment_names_scan` — the names and messages that remain are the same
-/

set_option autoImplicit false

namespace UsageScan

open Text

namespace Token

/-- Whether a token is an identifier or a keyword. -/
def isWord (t : Token) : Bool :=
  t.kind = .keyword || t.kind = .identifier

/-- Whether a token is a declaration keyword that declares no name in a source. -/
def lacksName (source : List Char) (t : Token) : Bool :=
  t.kind = .keyword && (t.declaredName? source).isNone &&
    (slice? source t.span.start t.span.stop).any fun word => isDeclarationKeyword (.ofList word)

end Token

/-- Whether behind each token that lacks a name the next token, comments aside, is no word. -/
def uncommented (source : List Char) : List Token → Bool
  | [] => true
  | t :: ts =>
    !(t.lacksName source && (ts.find? (·.kind ≠ .comment)).any Token.isWord) &&
      uncommented source ts

/-- No declaration keyword of a source that declares no name is followed, behind nothing but
comments, by a word. -/
def NamesUncommented (source : String) (options : Options) : Prop :=
  uncommented source.toList (Scanner.ofSource source options).tokens = true

/-! ### What passages ask of the binder -/

/-- Whether a form is an identifier or a keyword. -/
def Form.isWord (f : Form) : Bool :=
  f.kind = .keyword || f.kind = .identifier

namespace Passage

/-- What a passage asks of the binder with so many line breaks before it. -/
def operations (limit : Option Nat) (lines : Nat) (g : Passage) : List Binder.Operation :=
  (if g.form.kind = .identifier then [.markUsed (clip limit g.form.shown).1] else []) ++
    if g.name = [] then []
    else [.declare (clip limit g.name).1 (lines + (g.form.word ++ g.gap).count '\n' + 1) 0]

/-- What passages ask of the binder with so many line breaks before them. -/
def allOperations (limit : Option Nat) (lines : Nat) : List Passage → List Binder.Operation
  | [] => []
  | g :: gs => g.operations limit lines ++ allOperations limit (lines + g.chars.count '\n') gs

/-- No passage that waits for a name is kept from a word by comments alone. -/
def Uncommented : List Passage → Prop
  | [] => True
  | g :: gs => (g.form.declares = true → g.name = [] →
      (gs.find? (·.form.kind ≠ .comment)).any (·.form.isWord) = false) ∧ Uncommented gs

end Passage

/-- What a layout asks of the binder with so many line breaks before it. -/
def Layout.operations (limit : Option Nat) (lines : Nat) (y : Layout) : List Binder.Operation :=
  Passage.allOperations limit (lines + y.lead.count '\n') y.passages

namespace Site

variable {source : List Char} (limit : Option Nat)

theorem map_unplaced_timed (s : Site source) :
    ((s.timed limit).map fun e => e.operation.unplaced) =
      s.passage.operations limit (s.before.count '\n') := by
  rw [timed_eq, List.map_append, Passage.operations]
  congr 1
  · simp only [Token.isIdentifier, decide_eq_true_eq]
    rw [apply_ite (List.map fun e : Binder.Timed => e.operation.unplaced)]
    rfl
  · rw [declaredName?]
    by_cases hname : s.passage.name = []
    · rw [if_pos hname, if_pos hname]
      rfl
    · rw [if_neg hname, if_neg hname, ← List.count_append, ← List.append_assoc]
      rfl

theorem nameOperations_allFrom (before rest : List Char) (hsource : source = before ++ rest)
    (hrest : ∀ c ∈ rest.head?, isBlank c = false) :
    (((allFrom before rest hsource hrest).flatMap (timed limit)).map
        fun e => e.operation.unplaced) =
      Passage.allOperations limit (before.count '\n') (Passage.all rest) := by
  induction rest using Passage.all.induct generalizing before with
  | case1 =>
    rw [allFrom_nil, Passage.all_nil]
    rfl
  | case2 c cs ih =>
    rw [allFrom_cons, Passage.all_cons, List.flatMap_cons, List.map_append, ih,
      map_unplaced_timed, List.count_append]
    rfl

end Site

/-- What a source asks of the binder is what its layout asks. -/
theorem nameOperations_eq (limit : Option Nat) (source : List Char) :
    nameOperations limit source = (Layout.ofText source).operations limit 0 := by
  rw [nameOperations, Site.history, Site.all, Site.nameOperations_allFrom, Layout.operations,
    Nat.zero_add]
  rfl

namespace Passage

/-! ### What stands behind a keyword without a name -/

/-- What begins like a word is one. -/
theorem isWord_front (c : Char) (cs : List Char) :
    (Form.front c cs).1.isWord = isIdentifierStart c := by
  cases hstart : isIdentifierStart c with
  | true =>
    rw [Form.front_of_name hstart, Form.isWord, Form.wordKind]
    split <;> rfl
  | false =>
    obtain ⟨hkeyword, hidentifier⟩ := Form.kind_front_ne_word cs hstart
    simp [Form.isWord, hkeyword, hidentifier]

/-- If comments are made blank, the first character that is left is that of the first passage that
is no comment. -/
theorem head?_dropWhile_blankedText (cs : List Char) (hcs : ∀ c ∈ cs.head?, isBlank c = false) :
    ((blankedText (all cs)).dropWhile isBlank).head?.any isIdentifierStart =
      ((all cs).find? (·.form.kind ≠ .comment)).any (·.form.isWord) := by
  induction cs using all.induct with
  | case1 =>
    rw [all_nil]
    rfl
  | case2 c cs ih =>
    have hbehind : ∀ d ∈ (front c cs).2.head?, isBlank d = false :=
      fun d => isBlank_of_mem_head?_front c cs
    rw [all_cons, blankedText, List.flatMap_cons, blankedChars, List.find?_cons]
    by_cases hkind : (front c cs).1.form.kind = .comment
    · have hblank : ∀ d ∈ Text.blanked (front c cs).1.form.word ++ (front c cs).1.blanks,
          isBlank d = true := by
        intro d hd
        rcases List.mem_append.mp hd with hd | hd
        · exact isBlank_of_mem_blanked hd
        · exact isBlank_of_mem_blanks c cs hd
      rw [if_pos hkind, List.dropWhile_append_of_pos hblank]
      simpa [hkind, blankedText] using ih hbehind
    · obtain ⟨word, hword, -⟩ := Form.exists_word_eq_cons c cs
      have hc : isBlank c = false := hcs c rfl
      rw [if_neg hkind, chars, form_front, hword]
      rw [form_front] at hkind
      simp [hkind, hc, form_front, isWord_front]

/-- If the rest of a text behind a passage goes apart at a comment, the form of the passage stays as
it is. -/
theorem form_front_agree {c : Char} {cs rest : List Char} (h : AgreeToComment (front c cs).2 rest)
    (hkind : (front c cs).1.form.kind ≠ .comment) :
    ∃ cs', (front c cs).1.chars ++ rest = c :: cs' ∧
      Form.front c cs' = ((front c cs).1.form,
        (front c cs).1.gap ++ ((front c cs).1.name ++ ((front c cs).1.blanks ++ rest))) := by
  obtain ⟨word, hword, happend⟩ := Form.exists_word_eq_cons c cs
  have hchars := append_ofForm (Form.front c cs).1 (Form.front c cs).2
  rw [chars, form_ofForm, List.append_assoc, List.append_cancel_left_eq] at hchars
  have hagree := h.append_left
    ((front c cs).1.gap ++ ((front c cs).1.name ++ (front c cs).1.blanks))
  rw [front, hchars] at hagree
  rw [form_front] at hkind ⊢
  have hform := Form.front_agree hagree (by rw [happend]) hkind
  simp only [List.append_assoc] at hform
  refine ⟨_, ?_, hform⟩
  simp only [chars, form_front, hword, List.cons_append, List.append_assoc]
  rfl

/-- A keyword in front of blanks and what begins no word finds no name. -/
theorem ofForm_of_nameless {f : Form} (hdeclares : f.declares = true) {blanks rest : List Char}
    (hblanks : ∀ d ∈ blanks, isBlank d = true)
    (hrest : (rest.dropWhile isBlank).head?.any isIdentifierStart = false) :
    ∃ gap more, ofForm f (blanks ++ rest) = (⟨f, gap, [], more⟩, rest.dropWhile isBlank) := by
  have hname : splitName (rest.dropWhile isBlank) = ([], rest.dropWhile isBlank) := by
    rw [splitName, if_neg (by simp [hrest])]
  simp only [ofForm, if_pos hdeclares, List.dropWhile_append_of_pos hblanks, hname,
    List.dropWhile_idempotent]
  exact ⟨_, _, rfl⟩

/-- A keyword that finds no name finds none either if comments behind it are made blank and no word
comes behind these. -/
theorem front_agree_of_nameless {c : Char} {cs rest : List Char}
    (h : AgreeToComment (front c cs).2 rest) (hkind : (front c cs).1.form.kind ≠ .comment)
    (hdeclares : (front c cs).1.form.declares = true) (hname : (front c cs).1.name = [])
    (hrest : (rest.dropWhile isBlank).head?.any isIdentifierStart = false) :
    ∃ cs' gap blanks, (front c cs).1.chars ++ rest = c :: cs' ∧
      front c cs' = (⟨(front c cs).1.form, gap, [], blanks⟩, rest.dropWhile isBlank) := by
  obtain ⟨cs', hchars, hform⟩ := form_front_agree h hkind
  have hblanks : ∀ d ∈ (front c cs).1.gap ++ (front c cs).1.blanks, isBlank d = true := by
    intro d hd
    exact (List.mem_append.mp hd).elim (isBlank_of_mem_gap c cs) (isBlank_of_mem_blanks c cs)
  obtain ⟨gap, more, hpassage⟩ := ofForm_of_nameless hdeclares hblanks hrest
  refine ⟨cs', gap, more, hchars, ?_⟩
  rw [← hpassage, front, hform, hname, List.nil_append, List.append_assoc]

/-- Passages with the same form and the same name behind the same gap ask the same. -/
theorem operations_congr (limit : Option Nat) (lines : Nat) {g g' : Passage}
    (hform : g'.form = g.form) (hname : g'.name = g.name) (hgap : g.name ≠ [] → g'.gap = g.gap) :
    g'.operations limit lines = g.operations limit lines := by
  rw [operations, operations, hform, hname]
  by_cases hnone : g.name = []
  · rw [if_pos hnone, if_pos hnone]
  · rw [if_neg hnone, if_neg hnone, hgap hnone]

/-- The passage at the front of a text with another rest, if that one goes apart from the rest at a
comment and no word takes the place of a name: it asks the same, and it takes the blanks that come
then. -/
theorem operations_front_agree {c : Char} {cs rest : List Char} (limit : Option Nat) (lines : Nat)
    (h : AgreeToComment (front c cs).2 rest) (hkind : (front c cs).1.form.kind ≠ .comment)
    (hnone : (front c cs).1.form.declares = true → (front c cs).1.name = [] →
      (rest.dropWhile isBlank).head?.any isIdentifierStart = false) :
    ∃ cs', (front c cs).1.chars ++ rest = c :: cs' ∧
      (front c cs').2 = ((front c cs).1.blanks ++ rest).dropWhile isBlank ∧
        (front c cs').1.operations limit lines = (front c cs).1.operations limit lines := by
  -- Only a keyword without a name takes other blanks in front of a name than it did.
  by_cases hwaits : (front c cs).1.form.declares = true ∧ (front c cs).1.name = []
  · obtain ⟨cs', gap, blanks, hchars, hfront⟩ :=
      front_agree_of_nameless h hkind hwaits.1 hwaits.2 (hnone hwaits.1 hwaits.2)
    refine ⟨cs', hchars, ?_, ?_⟩
    · rw [hfront, List.dropWhile_append_of_pos fun d => isBlank_of_mem_blanks c cs]
    · rw [hfront]
      exact operations_congr limit lines rfl hwaits.2.symm (absurd hwaits.2)
  · obtain ⟨cs', hchars, hfront⟩ := front_agree h hkind fun hdeclares hname =>
      absurd ⟨hdeclares, hname⟩ hwaits
    refine ⟨cs', hchars, by rw [hfront], ?_⟩
    rw [hfront]
    exact operations_congr limit lines rfl rfl fun _ => rfl

/-- A passage that leaves what comes behind some blanks takes these. -/
theorem chars_front_of_rest {c : Char} {cs core behind : List Char}
    (hchars : core ++ behind = c :: cs) (hrest : (front c cs).2 = behind.dropWhile isBlank) :
    (front c cs).1.chars = core ++ behind.takeWhile isBlank := by
  have happend := append_front c cs
  rw [hrest, ← hchars] at happend
  conv_rhs at happend => rw [← List.takeWhile_append_dropWhile (p := isBlank) (l := behind)]
  rw [← List.append_assoc] at happend
  exact List.append_cancel_right happend

end Passage

namespace Layout

/-- If comments are made blank, a text asks the same of the binder. -/
theorem operations_blanked (limit : Option Nat) {cs : List Char}
    (hcs : ∀ c ∈ cs.head?, isBlank c = false) (h : Passage.Uncommented (Passage.all cs))
    {lead : List Char} (hlead : ∀ c ∈ lead, isBlank c = true) (lines : Nat) :
    (ofText (lead ++ Passage.blankedText (Passage.all cs))).operations limit lines =
      Passage.allOperations limit (lines + lead.count '\n') (Passage.all cs) := by
  induction cs using Passage.all.induct generalizing lead lines with
  | case1 =>
    have hnothing := ofText_blanks_append hlead []
    rw [Passage.all_nil, Passage.blankedText, List.flatMap_nil, hnothing, operations, ofText,
      List.dropWhile_nil, Passage.all_nil]
    rfl
  | case2 c cs ih =>
    have hc : isBlank c = false := hcs c rfl
    have hbehind : ∀ d ∈ (Passage.front c cs).2.head?, isBlank d = false :=
      fun d => Passage.isBlank_of_mem_head?_front c cs
    have hblanks : ∀ d ∈ (Passage.front c cs).1.blanks, isBlank d = true :=
      fun d => Passage.isBlank_of_mem_blanks c cs
    rw [Passage.all_cons] at h
    rw [Passage.all_cons, Passage.blankedText, List.flatMap_cons, Passage.blankedChars,
      Passage.allOperations]
    split
    · -- A comment asks nothing, and the line breaks in it stay where they are.
      next hkind =>
      have hlead' : ∀ d ∈ lead ++ (Text.blanked (Passage.front c cs).1.form.word ++
          (Passage.front c cs).1.blanks), isBlank d = true := by
        intro d hd
        simp only [List.mem_append] at hd
        rcases hd with hd | hd | hd
        · exact hlead d hd
        · exact isBlank_of_mem_blanked hd
        · exact hblanks d hd
      have hmore := ih hbehind h.2 hlead' lines
      have hnothing : (Passage.front c cs).1.operations limit (lines + lead.count '\n') = [] := by
        rw [Passage.operations, (Passage.gap_name_of_comment hkind).2, hkind]
        rfl
      rw [hnothing, List.nil_append, Passage.chars_of_comment hkind, ← List.append_assoc lead,
        ← Passage.blankedText, hmore]
      simp only [List.count_append, count_blanked, Nat.add_assoc]
    · -- Any other passage stays, and takes the blanks in the place of comments behind it.
      next hkind =>
      obtain ⟨cs', hchars, hrest, hoperations⟩ := Passage.operations_front_agree limit
        (lines + lead.count '\n') (Passage.agree_blankedText _) hkind fun hdeclares hname => by
          rw [Passage.head?_dropWhile_blankedText _ hbehind]
          exact h.1 hdeclares hname
      have hmore := ih hbehind h.2 hblanks
        (lines + lead.count '\n' + (Passage.front c cs).1.core.count '\n')
      rw [← Passage.blankedText, hchars, ofText_blanks_append hlead, ofText_cons hc,
        Passage.all_cons, operations, List.append_nil, Passage.allOperations, hoperations]
      rw [Passage.chars_eq, List.append_assoc] at hchars
      rw [Passage.chars_front_of_rest hchars hrest, hrest, Passage.chars_eq, List.count_append,
        List.count_append, ← Nat.add_assoc, ← Nat.add_assoc, ← hmore]
      rfl

end Layout

/-! ### The names that remain -/

namespace Site

variable {source : List Char} (limit : Option Nat)

/-- The token of a site lacks a name if the site announces one and has none. -/
theorem lacksName_token {s : Site source} (hdeclares : s.passage.form.declares = true)
    (hname : s.passage.name = []) : (s.token limit).lacksName source = true := by
  have hkeyword : (s.token limit).kind = .keyword ∧
      isDeclarationKeyword (.ofList s.word) = true := by
    rw [Form.declares, Bool.and_eq_true, decide_eq_true_eq] at hdeclares
    exact hdeclares
  rw [Token.lacksName, slice?_token, declaredName?_token, declaredName?, if_pos hname,
    Option.any_some, hkeyword.1, hkeyword.2]
  rfl

theorem uncommented_map_passage {sites : List (Site source)}
    (h : uncommented source (sites.map (token limit)) = true) :
    Passage.Uncommented (sites.map passage) := by
  induction sites with
  | nil => trivial
  | cons s sites ih =>
    rw [List.map_cons, uncommented, Bool.and_eq_true] at h
    refine ⟨fun hdeclares hname => ?_, ih h.2⟩
    have hnone := h.1
    rw [lacksName_token limit hdeclares hname, Bool.true_and, Bool.not_eq_true',
      List.find?_map, Option.any_map] at hnone
    rw [List.find?_map, Option.any_map]
    exact hnone

end Site

theorem NamesUncommented.passages {source : String} {options : Options}
    (h : NamesUncommented source options) :
    Passage.Uncommented (Passage.all (source.toList.dropWhile isBlank)) := by
  rw [NamesUncommented, Scanner.tokens_eq_map_all] at h
  have hpassages := Site.uncommented_map_passage options.maxTokenLength h
  rwa [Site.map_passage_all] at hpassages

/-- Blanks in the place of comments change neither the names of a source nor the messages about
them, unless only comments keep a declaration keyword from a word. -/
theorem comment_names_scan (source : String) (options : Options)
    (h : NamesUncommented source options) :
    SameNames (withoutComments source options) source options := by
  apply sameNames_of_nameOperations_eq
  rw [nameOperations_eq, nameOperations_eq, toList_withoutComments,
    Layout.operations_blanked options.maxTokenLength
      (fun _ => Passage.isBlank_of_mem_head?_dropWhile) h.passages
      (fun _ => List.mem_takeWhile_imp)]
  rfl

/-- Behind a comment, a declaration keyword does not find the name that it finds behind blanks. -/
theorem not_sameNames_withoutComments_var :
    ¬ SameNames (withoutComments "var /* c */ x" .default) "var /* c */ x" .default := by
  intro h
  have hnames : declaredNamesOf (withoutComments "var /* c */ x" .default) .default ≠
      declaredNamesOf "var /* c */ x" .default := by
    decide +kernel
  exact hnames h.names

/-- The first keyword finds no name, whether a comment or blanks stand before the number. -/
theorem comment_names_scan_number :
    NamesUncommented "var /* x */ 1 // é\nlet a = a /*\n*/ + b" .default ∧
      SameNames (withoutComments "var /* x */ 1 // é\nlet a = a /*\n*/ + b" .default)
        "var /* x */ 1 // é\nlet a = a /*\n*/ + b" .default ∧
      withoutComments "var /* x */ 1 // é\nlet a = a /*\n*/ + b" .default =
        "var         1     \nlet a = a   \n   + b" ∧
      declaredNamesOf "var /* x */ 1 // é\nlet a = a /*\n*/ + b" .default = [("a", 2, true)] ∧
      variableMessages "var /* x */ 1 // é\nlet a = a /*\n*/ + b" .default =
        [(.undeclaredVariable, "Undeclared variable used: b")] := by
  have hnames : NamesUncommented "var /* x */ 1 // é\nlet a = a /*\n*/ + b" .default := by
    rw [NamesUncommented]
    decide +kernel
  refine ⟨hnames, comment_names_scan _ _ hnames, ?_, ?_, ?_⟩
  · decide +kernel
  · decide +kernel
  · decide +kernel

end UsageScan
