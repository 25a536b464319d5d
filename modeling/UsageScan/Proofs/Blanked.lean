import UsageScan.Proofs.Grammar
import UsageScan.Proofs.Join
/-!
# Comments made blank

If spaces stand in the place of a comment, all that was told apart before is told apart as before,
because no name, number or operator goes on over a space, and none went on over the slash that the
comment began with. So the layout of the text stays the same, but the comments have become blanks of
the passages before them.

## Main definitions

* `Text.blanked` — spaces in the place of some characters
* `Text.AgreeToComment` — two texts, one of which has a space where the other has a comment
* `Passage.blankedChars` — the characters of a passage, made blank if it is a comment
* `Layout.blanked` — the layout of passages whose comments are made blank

## Main results

* `Form.front_agree`, `Passage.front_agree` — what is read before a comment does not depend on it
* `Layout.ofText_blanked` — the layout of a text whose comments are made blank
-/

set_option autoImplicit false

namespace UsageScan

namespace Text

/-- Some characters with spaces in the place of all but the line breaks. -/
def blanked (cs : List Char) : List Char :=
  cs.map fun c => if c = '\n' then c else ' '

/-- Two texts that agree up to a comment of the first one, where the second one has a space. -/
inductive AgreeToComment : List Char → List Char → Prop
  | nil : AgreeToComment [] []
  | comment (as bs : List Char) : AgreeToComment ('/' :: as) (' ' :: bs)
  | cons (c : Char) {as bs : List Char} : AgreeToComment as bs → AgreeToComment (c :: as) (c :: bs)

theorem isBlank_of_mem_blanked {cs : List Char} {c : Char} (h : c ∈ blanked cs) :
    isBlank c = true := by
  obtain ⟨d, -, rfl⟩ := List.mem_map.mp h
  split
  · rename_i hd
    rw [hd]
    decide
  · decide

theorem count_blanked (cs : List Char) : (blanked cs).count '\n' = cs.count '\n' := by
  rw [blanked, List.count_eq_countP, List.countP_map, List.count_eq_countP]
  apply List.countP_congr
  intro c _
  simp only [Function.comp_apply]
  split <;> simp_all

namespace AgreeToComment

variable {as bs : List Char}

theorem append_left (h : AgreeToComment as bs) (cs : List Char) :
    AgreeToComment (cs ++ as) (cs ++ bs) := by
  induction cs with
  | nil => exact h
  | cons c cs ih => exact ih.cons c

/-- What holds of neither a slash nor a space holds of both first characters or of none. -/
theorem any_head? (h : AgreeToComment as bs) {p : Char → Bool} (hslash : p '/' = false)
    (hspace : p ' ' = false) : bs.head?.any p = as.head?.any p := by
  cases h with
  | nil => rfl
  | comment as bs => exact hspace.trans hslash.symm
  | cons c h => rfl

/-- The first characters are the same, unless the first text begins with a slash. -/
theorem head?_eq_some (h : AgreeToComment as bs) {c : Char} (hhead : bs.head? = some c) :
    as.head? = some c ∨ as.head? = some '/' := by
  cases h with
  | nil => exact Or.inl hhead
  | comment as bs => exact Or.inr rfl
  | cons c h => exact Or.inl hhead

/-- A run stops where it stopped, or at the space before. -/
theorem takeWhile_eq_nil (h : AgreeToComment as bs) {p : Char → Bool} (hspace : p ' ' = false)
    (has : as.takeWhile p = []) : bs.takeWhile p = [] := by
  cases h with
  | nil => rfl
  | comment as bs => rw [List.takeWhile_cons, if_neg (by simp [hspace])]
  | cons c h =>
    have hc : p c = false := by simpa [List.takeWhile_cons] using has
    rw [List.takeWhile_cons, if_neg (by simp [hc])]

/-- A run up to the place where two texts go apart is the same in both. -/
theorem span_append (h : AgreeToComment as bs) {p : Char → Bool} (hspace : p ' ' = false)
    (word : List Char) (hword : (word ++ as).dropWhile p = as) :
    (word ++ as).takeWhile p = word ∧ (word ++ bs).takeWhile p = word ∧
      (word ++ bs).dropWhile p = bs := by
  have htake : (word ++ as).takeWhile p = word := by
    have hsplit := List.takeWhile_append_dropWhile (p := p) (l := word ++ as)
    rw [hword] at hsplit
    exact List.append_cancel_right hsplit
  have hall : ∀ c ∈ word, p c = true := by
    intro c hc
    rw [← htake] at hc
    exact List.mem_takeWhile_imp hc
  have has : as.takeWhile p = [] := by
    rw [List.takeWhile_append_of_pos hall] at htake
    exact List.append_right_eq_self.mp htake
  have hbs := h.takeWhile_eq_nil hspace has
  refine ⟨htake, by rw [List.takeWhile_append_of_pos hall, hbs, List.append_nil], ?_⟩
  rw [List.dropWhile_append_of_pos hall]
  have hsplit := List.takeWhile_append_dropWhile (p := p) (l := bs)
  rwa [hbs, List.nil_append] at hsplit

/-- Both texts begin with the same words that have neither slashes nor spaces. -/
theorem prefix_iff (h : AgreeToComment as bs) {word : List Char} (hslash : '/' ∉ word)
    (hspace : ' ' ∉ word) : word <+: as ↔ word <+: bs := by
  induction h generalizing word with
  | nil => exact Iff.rfl
  | comment as bs =>
    cases word with
    | nil => simp
    | cons c word =>
      rw [List.mem_cons, not_or] at hslash hspace
      simp [List.cons_prefix_cons, Ne.symm hslash.1, Ne.symm hspace.1]
  | cons c h ih =>
    cases word with
    | nil => simp
    | cons d word =>
      rw [List.mem_cons, not_or] at hslash hspace
      rw [List.cons_prefix_cons, List.cons_prefix_cons, ih hslash.2 hspace.2]

end AgreeToComment

end Text

open Text

/-! ### Strings -/

namespace Lexeme

theorem le_stringLength (quote : Char) (read : Nat) (cs : List Char) :
    read ≤ (stringLength quote read cs).1 := by
  fun_induction stringLength quote read cs with
  | case1 => exact Nat.le_refl _
  | case2 => exact Nat.le_succ _
  | case3 read c cs ih => omega
  | case4 read cs => exact Nat.le_succ _
  | case5 read c cs hescape hquote ih => omega

/-- Characters that do not close a string are taken, and one more if there is one. -/
theorem lt_stringLength_append {quote : Char} {read : Nat} {word : List Char}
    (h : (stringLength quote read word).2 = false) (c : Char) (cs : List Char) :
    read + word.length < (stringLength quote read (word ++ c :: cs)).1 := by
  fun_induction stringLength quote read word with
  | case1 read =>
    rw [List.nil_append, List.length_nil, stringLength.eq_def]
    dsimp only
    split_ifs
    · cases cs with
      | nil => exact Nat.lt_succ_self _
      | cons d cs => exact Nat.lt_of_succ_lt (le_stringLength quote (read + 2) cs)
    · exact Nat.lt_succ_self _
    · exact le_stringLength quote (read + 1) cs
  | case2 read =>
    rw [List.cons_append, List.nil_append, stringLength]
    exact le_stringLength quote (read + 2) cs
  | case3 read d ds ih =>
    have hlt := ih h
    rw [List.cons_append, List.cons_append, stringLength, if_pos rfl]
    simp only [List.length_cons]
    omega
  | case4 => contradiction
  | case5 read d ds hescape hquote ih =>
    have hlt := ih h
    rw [List.cons_append, stringLength.eq_def]
    simp only [if_neg hescape, if_neg hquote, List.length_cons]
    omega

end Lexeme

/-! ### Forms -/

namespace Form

variable {c : Char} {word rest rest' : List Char} {f : Form}

theorem run_agree {kind : Token.Kind} {flags : Token.Flags} {p : Char → Bool}
    (h : AgreeToComment rest rest') (hspace : p ' ' = false)
    (hrun : run kind flags p c (word ++ rest) = (f, rest)) :
    run kind flags p c (word ++ rest') = (f, rest') := by
  obtain ⟨hform, hrest⟩ := Prod.mk.inj hrun
  obtain ⟨htake, htake', hdrop'⟩ := h.span_append hspace word hrest
  rw [htake] at hform
  rw [run, htake', hdrop', hform]

/-- What takes a number of characters takes those before the comment. -/
theorem first_agree {kind : Token.Kind} {flags : Token.Flags} {length : Nat}
    (h : AgreeToComment rest rest')
    (hfirst : first kind flags length (c :: (word ++ rest)) = (f, rest)) :
    first kind flags length (c :: (word ++ rest')) = (f, rest') := by
  by_cases hnil : rest = []
  · subst hnil
    cases h
    exact hfirst
  · obtain ⟨hform, hrest⟩ := Prod.mk.inj hfirst
    have hlength : length = (c :: word).length := by
      have hcount := congrArg List.length hrest
      have hpos := List.length_pos_iff.mpr hnil
      simp only [List.length_drop, List.length_cons, List.length_append] at hcount ⊢
      omega
    rw [← List.cons_append, hlength, List.take_left] at hform
    rw [first, ← List.cons_append, hlength, List.take_left, List.drop_left, hform]

theorem string_agree (h : AgreeToComment rest rest')
    (hstring : string c (word ++ rest) = (f, rest)) :
    string c (word ++ rest') = (f, rest') := by
  cases hrest : rest with
  | nil =>
    subst hrest
    cases h
    exact hstring
  | cons d ds =>
    -- The string ends before something, so it is closed there.
    have hclosed : (Lexeme.stringLength c 0 word).2 = true := by
      by_contra hopen
      have hlt := Lexeme.lt_stringLength_append (eq_false_of_ne_true hopen) d ds
      have hcount := congrArg List.length (Prod.mk.inj hstring).2
      rw [hrest] at hcount
      simp only [List.length_drop, List.length_cons, List.length_append] at hcount
      omega
    rw [hrest] at h hstring
    rw [string, Lexeme.stringLength_append hclosed] at hstring ⊢
    exact first_agree h hstring

theorem operator_agree (h : AgreeToComment rest rest')
    (hoperator : operator c (word ++ rest) = (f, rest)) :
    operator c (word ++ rest') = (f, rest') := by
  have hspelled : ∀ op ∈ operatorSpellings, '/' ∉ op.toList.tail ∧ ' ' ∉ op.toList.tail := by
    decide
  -- No spelling has a space in it, or a slash behind its first character.
  have hlongest : longestOperator? c (word ++ rest) = longestOperator? c (word ++ rest') := by
    apply longestOperator?_congr
    intro op hop
    obtain ⟨hslash, hspace⟩ := hspelled op hop
    cases hchars : op.toList with
    | nil => simp
    | cons d ds =>
      rw [hchars, List.tail_cons] at hslash hspace
      rw [List.cons_prefix_cons, List.cons_prefix_cons,
        (h.append_left word).prefix_iff hslash hspace]
  unfold operator at hoperator ⊢
  rw [longestOperator?_take] at hoperator ⊢
  rw [← hlongest]
  cases hfound : longestOperator? c (word ++ rest) with
  | none =>
    rw [hfound] at hoperator
    exact first_agree h hoperator
  | some op =>
    rw [hfound] at hoperator
    exact first_agree h hoperator

/-- A text that begins with two characters of a comment begins with a comment. -/
theorem kind_front_of_slash (cs : List Char) (hc : c = '/')
    (h : cs.head? = some '/' ∨ cs.head? = some '*') : (front c cs).1.kind = .comment := by
  rcases h with hline | hblock
  · rw [front_of_lineComment (slash_prefix_iff.mpr ⟨hc, hline⟩)]
  · exact (front_of_blockComment (slash_prefix_iff.mpr ⟨hc, hblock⟩)).1

/-- What is read before a comment does not depend on it. -/
theorem front_agree (h : AgreeToComment rest rest') (hfront : front c (word ++ rest) = (f, rest))
    (hkind : f.kind ≠ .comment) : front c (word ++ rest') = (f, rest') := by
  have hagree := h.append_left word
  have hdigit : (word ++ rest').head?.any Char.isDigit = (word ++ rest).head?.any Char.isDigit :=
    hagree.any_head? rfl rfl
  -- Neither text begins with a comment.
  have hnone {d : Char} (hd : d = '/' ∨ d = '*') : ¬ (c = '/' ∧ (word ++ rest).head? = some d) := by
    rintro ⟨hc, hhead⟩
    apply hkind
    have hcomment := kind_front_of_slash (word ++ rest) hc
      (hd.imp (fun h => by rw [← h, hhead]) (fun h => by rw [← h, hhead]))
    rwa [hfront] at hcomment
  have hnone' {d : Char} (hd : d = '/' ∨ d = '*') :
      ¬ (c = '/' ∧ (word ++ rest').head? = some d) := by
    rintro ⟨hc, hhead⟩
    rcases hagree.head?_eq_some hhead with hsame | hslash
    · exact hnone hd ⟨hc, hsame⟩
    · exact hnone (Or.inl rfl) ⟨hc, hslash⟩
  unfold front at hfront ⊢
  rw [if_neg (hnone (Or.inl rfl)), if_neg (hnone (Or.inr rfl))] at hfront
  rw [hdigit, if_neg (hnone' (Or.inl rfl)), if_neg (hnone' (Or.inr rfl))]
  split_ifs at hfront ⊢
  · obtain ⟨htake, htake', -⟩ :=
      h.span_append (p := isIdentifierPart) rfl word (Prod.mk.inj hfront).2
    rw [htake] at hfront
    rw [htake']
    exact run_agree h rfl hfront
  · exact run_agree h rfl hfront
  · exact run_agree h rfl hfront
  · exact first_agree h hfront
  · exact string_agree h hfront
  · exact first_agree h hfront
  · exact operator_agree h hfront

/-- A form begins with the first character of the text. -/
theorem exists_word_eq_cons (c : Char) (cs : List Char) :
    ∃ word, (front c cs).1.word = c :: word ∧ word ++ (front c cs).2 = cs := by
  obtain ⟨d, word, hword⟩ := List.exists_cons_of_ne_nil (word_front_ne_nil c cs)
  have happend := append_front c cs
  rw [hword, List.cons_append] at happend
  obtain ⟨rfl, hrest⟩ := List.cons.inj happend
  exact ⟨word, hword, hrest⟩

/-- Only a slash begins a comment. -/
theorem eq_slash_of_comment {cs : List Char} (h : (front c cs).1.kind = .comment) : c = '/' := by
  by_contra hc
  have hnone (d : Char) : ¬ (c = '/' ∧ cs.head? = some d) := fun hslash => hc hslash.1
  unfold front at h
  rw [if_neg (hnone '/'), if_neg (hnone '*')] at h
  -- No other class is that of comments.
  repeat' split at h
  case isTrue =>
    simp only [run, wordKind] at h
    split at h <;> contradiction
  case isFalse.isFalse.isFalse.isFalse.isFalse =>
    unfold operator at h
    split at h <;> contradiction
  all_goals contradiction

end Form

/-! ### Passages -/

namespace Passage

/-- The characters of a passage; those of a comment are made blank. -/
def blankedChars (g : Passage) : List Char :=
  if g.form.kind = .comment then Text.blanked g.form.word ++ g.blanks else g.chars

/-- The characters of passages whose comments are made blank. -/
def blankedText (gs : List Passage) : List Char :=
  gs.flatMap blankedChars

/-- No comment stands where a passage waits for a name. -/
def Apart : List Passage → Prop
  | [] => True
  | g :: gs => (∀ next ∈ gs.head?, g.form.declares = true → g.name = [] →
      next.form.kind ≠ .comment) ∧ Apart gs

variable {f : Form} {c : Char} {cs : List Char}

/-- A comment waits for no name, so only blanks come behind it. -/
theorem gap_name_of_comment (h : (front c cs).1.form.kind = .comment) :
    (front c cs).1.gap = [] ∧ (front c cs).1.name = [] := by
  have hdeclares : (Form.front c cs).1.declares = false := by
    rw [form_front] at h
    rw [Form.declares, h]
    rfl
  rw [front, ofForm, hdeclares]
  exact ⟨rfl, rfl⟩

theorem chars_of_comment (h : (front c cs).1.form.kind = .comment) :
    (front c cs).1.chars = (front c cs).1.form.word ++ (front c cs).1.blanks := by
  rw [chars, (gap_name_of_comment h).1, (gap_name_of_comment h).2]
  rfl

/-- Where comments are made blank, a text stays the same up to its first comment. -/
theorem agree_blankedText (cs : List Char) : AgreeToComment cs (blankedText (all cs)) := by
  induction cs using all.induct with
  | case1 =>
    rw [all_nil]
    exact .nil
  | case2 c cs ih =>
    rw [all_cons, blankedText, List.flatMap_cons, blankedChars]
    split
    · rename_i hkind
      rw [form_front] at hkind ⊢
      obtain rfl := Form.eq_slash_of_comment hkind
      obtain ⟨word, hword, -⟩ := Form.exists_word_eq_cons '/' cs
      rw [hword]
      exact .comment _ _
    · have happend := ih.append_left (front c cs).1.chars
      rwa [append_front] at happend

/-- If it does not begin with a comment, its first character stays the same. -/
theorem head?_blankedText {cs : List Char} (h : ∀ g ∈ (all cs).head?, g.form.kind ≠ .comment) :
    (blankedText (all cs)).head? = cs.head? := by
  cases cs with
  | nil => rw [all_nil, blankedText, List.flatMap_nil]
  | cons c cs =>
    rw [all_cons] at h ⊢
    obtain ⟨word, hword, -⟩ := Form.exists_word_eq_cons c cs
    rw [blankedText, List.flatMap_cons, blankedChars, if_neg (h _ rfl), chars, form_front, hword]
    rfl

/-- Blanks before anything else are told apart from it. -/
theorem span_blanks (lead cs : List Char) (hlead : ∀ d ∈ lead, isBlank d = true)
    (hcs : ∀ d ∈ cs.head?, isBlank d = false) :
    (lead ++ cs).takeWhile isBlank = lead ∧ (lead ++ cs).dropWhile isBlank = cs := by
  rw [List.takeWhile_append_of_pos hlead, List.dropWhile_append_of_pos hlead]
  cases cs with
  | nil => simp
  | cons d ds =>
    have hd : isBlank d = false := hcs d rfl
    simp [hd]

/-- A name that is read before a comment does not depend on it. -/
theorem splitName_agree {rest : List Char} (h : AgreeToComment (splitName cs).2 rest)
    (hname : (splitName cs).1 = [] → (splitName cs).2.head? = rest.head?) :
    ((splitName cs).1 ++ rest).head? = cs.head? ∧
      splitName ((splitName cs).1 ++ rest) = ((splitName cs).1, rest) := by
  unfold splitName at h hname ⊢
  by_cases hstart : cs.head?.any isIdentifierStart = true
  · simp only [if_pos hstart] at h ⊢
    have hne := takeWhile_isIdentifierPart_ne_nil hstart
    have hhead : (cs.takeWhile isIdentifierPart ++ rest).head? = cs.head? := by
      conv_rhs => rw [← List.takeWhile_append_dropWhile (p := isIdentifierPart) (l := cs)]
      rw [List.head?_append_of_ne_nil _ hne, List.head?_append_of_ne_nil _ hne]
    have hsplit := h.span_append (p := isIdentifierPart) rfl (cs.takeWhile isIdentifierPart)
      (by rw [List.takeWhile_append_dropWhile])
    rw [hhead, if_pos hstart, hsplit.2.1, hsplit.2.2]
    exact ⟨rfl, rfl⟩
  · simp only [if_neg hstart, List.nil_append] at h hname ⊢
    have hhead := (hname trivial).symm
    rw [hhead, if_neg hstart]
    exact ⟨rfl, rfl⟩

theorem opening_agree {rest : List Char} (h : AgreeToComment (opening f cs).2 rest)
    (hname : f.declares = true → (opening f cs).1.name = [] →
      (opening f cs).2.head? = rest.head?) :
    opening f ((opening f cs).1.gap ++ ((opening f cs).1.name ++ rest)) =
      ((opening f cs).1, rest) := by
  unfold opening at h hname ⊢
  by_cases hdeclares : f.declares = true
  · simp only [if_pos hdeclares] at h hname ⊢
    obtain ⟨hhead, hsplit⟩ := splitName_agree h (hname hdeclares)
    have hblanks := span_blanks (cs.takeWhile isBlank)
      ((splitName (cs.dropWhile isBlank)).1 ++ rest) (fun _ => List.mem_takeWhile_imp)
      (by rw [hhead]; exact fun _ => isBlank_of_mem_head?_dropWhile)
    rw [hblanks.1, hblanks.2, hsplit]
  · simp only [if_neg hdeclares, List.nil_append]

theorem append_opening (f : Form) (cs : List Char) :
    (opening f cs).1.gap ++ ((opening f cs).1.name ++ (opening f cs).2) = cs := by
  unfold opening
  split
  · simp [append_splitName]
  · rfl

/-- A passage whose rest goes apart at a comment takes the blanks that come then, and all else as it
did. -/
theorem ofForm_agree {rest : List Char} (h : AgreeToComment (ofForm f cs).2 rest)
    (hname : f.declares = true → (ofForm f cs).1.name = [] → (ofForm f cs).2.head? = rest.head?) :
    let behind := (ofForm f cs).1.blanks ++ rest
    let more := (ofForm f cs).1.gap ++ ((ofForm f cs).1.name ++ behind)
    AgreeToComment cs more ∧ ofForm f more =
      ({ (ofForm f cs).1 with blanks := behind.takeWhile isBlank }, behind.dropWhile isBlank) := by
  intro behind more
  have hofForm := ofForm_eq_opening f cs
  have hleft : (opening f cs).2 = (ofForm f cs).1.blanks ++ (ofForm f cs).2 := by
    rw [hofForm, List.takeWhile_append_dropWhile]
  have hbehind : AgreeToComment (opening f cs).2 behind := by
    rw [hleft]
    exact h.append_left _
  have hwaits : f.declares = true → (opening f cs).1.name = [] →
      (opening f cs).2.head? = behind.head? := by
    intro hdeclares hempty
    have hhead := hname hdeclares (by rw [hofForm]; exact hempty)
    rw [hleft, List.head?_append, List.head?_append, hhead]
  have hmore : more = (opening f cs).1.gap ++ ((opening f cs).1.name ++ behind) := by
    simp only [more, hofForm]
  have hagree := (hbehind.append_left (opening f cs).1.name).append_left (opening f cs).1.gap
  rw [append_opening, ← hmore] at hagree
  rw [ofForm_eq_opening f more, hmore, opening_agree hbehind hwaits, ← hmore, hofForm]
  exact ⟨hagree, rfl⟩

/-- The passage at the front of a text with another rest, if that one goes apart from the rest at a
comment: it has the blanks that come then. -/
theorem front_agree {rest : List Char} (h : AgreeToComment (front c cs).2 rest)
    (hkind : (front c cs).1.form.kind ≠ .comment)
    (hname : (front c cs).1.form.declares = true → (front c cs).1.name = [] →
      (front c cs).2.head? = rest.head?) :
    ∃ cs', (front c cs).1.chars ++ rest = c :: cs' ∧
      front c cs' = ({ (front c cs).1 with
          blanks := ((front c cs).1.blanks ++ rest).takeWhile isBlank },
        ((front c cs).1.blanks ++ rest).dropWhile isBlank) := by
  obtain ⟨word, hword, happend⟩ := Form.exists_word_eq_cons c cs
  rw [form_front] at hkind hname
  obtain ⟨hagree, hpassage⟩ := ofForm_agree h hname
  have hfront : ofForm (Form.front c cs).1 (Form.front c cs).2 = front c cs := rfl
  rw [hfront] at hagree hpassage
  have hform : Form.front c (word ++ _) = _ := Form.front_agree hagree (by rw [happend]) hkind
  refine ⟨word ++ ((front c cs).1.gap ++ ((front c cs).1.name ++
    ((front c cs).1.blanks ++ rest))), ?_, ?_⟩
  · rw [chars, form_front, hword]
    simp only [List.cons_append, List.append_assoc]
  · rw [← hpassage]
    exact congrArg (fun r : Form × List Char => ofForm r.1 r.2) hform

end Passage

namespace Layout

/-- The layout of passages whose comments are made blank. A comment and the blanks behind it go on
with the blanks before it. -/
def blanked (lead : List Char) : List Passage → Layout
  | [] => ⟨lead, []⟩
  | g :: gs =>
    if g.form.kind = .comment then blanked (lead ++ (Text.blanked g.form.word ++ g.blanks)) gs
    else ⟨lead, { g with blanks := (blanked g.blanks gs).lead } :: (blanked g.blanks gs).passages⟩

/-- The layout of a text whose comments are made blank. -/
theorem ofText_blanked {cs : List Char} (hcs : ∀ c ∈ cs.head?, isBlank c = false)
    (hapart : Passage.Apart (Passage.all cs)) {lead : List Char}
    (hlead : ∀ c ∈ lead, isBlank c = true) :
    ofText (lead ++ Passage.blankedText (Passage.all cs)) = blanked lead (Passage.all cs) := by
  induction cs using Passage.all.induct generalizing lead with
  | case1 =>
    have hnothing := ofText_blanks_append hlead []
    rw [Passage.all_nil, blanked]
    simpa [ofText, Passage.blankedText, Passage.all_nil] using hnothing
  | case2 c cs ih =>
    have hc : isBlank c = false := hcs c rfl
    have hbehind : ∀ d ∈ (Passage.front c cs).2.head?, isBlank d = false :=
      fun d => Passage.isBlank_of_mem_head?_front c cs
    have hblanks : ∀ d ∈ (Passage.front c cs).1.blanks, isBlank d = true :=
      fun d => Passage.isBlank_of_mem_blanks c cs
    rw [Passage.all_cons] at hapart
    rw [Passage.all_cons, Passage.blankedText, List.flatMap_cons, Passage.blankedChars, blanked]
    split
    · -- The comment has become a part of the blanks before all that comes behind it.
      rw [← List.append_assoc]
      apply ih hbehind hapart.2
      intro d hd
      simp only [List.mem_append] at hd
      rcases hd with hd | hd | hd
      · exact hlead d hd
      · exact isBlank_of_mem_blanked hd
      · exact hblanks d hd
    · rename_i hkind
      obtain ⟨cs', hcs', hfront⟩ := Passage.front_agree (Passage.agree_blankedText _) hkind
        (fun hdeclares hname =>
          (Passage.head?_blankedText fun g hg => hapart.1 g hg hdeclares hname).symm)
      rw [Passage.blankedText] at hcs'
      rw [hcs', ofText_blanks_append hlead, ofText_cons hc, Passage.all_cons, hfront,
        List.append_nil, ← ih hbehind hapart.2 hblanks]
      rfl

end Layout

end UsageScan
