import UsageScan.Findings
import UsageScan.Proofs.Checked.Lexeme
import UsageScan.Proofs.Passage
import UsageScan.Proofs.Scan
/-!
# Reading tokens without failing

What a scan makes of a lexeme, written out with every cut and count: the text is truncated at the
offset of a character, the offsets and places are kept in 32 bits, and so is the number of open
parentheses. In front of a text that fits none of this fails, as long as no more parentheses are open
than bytes have been read. What is read is then the passage at the front of the text without its
blanks, and what has been found is what comes of its occurrences.

## Main definitions

* `Checked.clip?`, `Checked.follow?` — truncating a text, and one step of the semicolon check
* `Checked.make?` — the token that ends at a reader
* `Checked.skipBlanks?`, `Checked.declaredName?`, `Checked.word?` — the readers that tell something
* `Checked.token?` — the token in front of a reader, with the name it declares
* `Findings.depth` — the number of open parentheses

## Main results

* `Checked.clip?_eq`, `Checked.follow?_eq` — these two steps do not fail
* `Checked.skipBlanks?_behind`, `Checked.token?_behind` — reading does not fail either, and finds the
  blanks and the passage at the front
-/

set_option autoImplicit false

namespace UsageScan

open Text

/-- The number of parentheses that are open for the semicolon check. -/
def Findings.depth (f : Findings) : Nat :=
  (f.lint.map SemicolonLint.depth).getD 0

namespace Checked

/-! ### Steps that may fail -/

/-- The characters of a text with their byte offsets, counted on from `offset`. -/
def charIndices : Nat → List Char → List (Nat × Char)
  | _, [] => []
  | offset, c :: cs => (offset, c) :: charIndices (offset + c.utf8Size) cs

/-- A text truncated at the offset of the first character beyond the limit, if there is one, and
whether there is one. -/
def clip? (limit : Option Nat) (text : List Char) : Option (String × Bool) :=
  match limit with
  | none => some (.ofList text, false)
  | some n =>
    match (charIndices 0 text)[n]? with
    | none => some (.ofList text, false)
    | some (cut, _) => (splitAt? cut text).map fun parts => (.ofList parts.1, true)

/-- Takes a token in for the semicolon check. An opening parenthesis is counted in 32 bits. -/
def follow? (lint : SemicolonLint) (t : Token) (stop : Location) : Option SemicolonLint :=
  if t.is .delimiter "(" then do
    let depth ← count? (lint.depth + 1)
    some { lint.observe t stop with depth }
  else some (lint.observe t stop)

/-- The token that ends at a reader, and what has been found behind it. -/
def make? (limit : Option Nat) (start : Nat) (location : Location) (shown : Shown) (r : Reader)
    (f : Findings) : Option (Token × Findings) := do
  let (text, truncated) ← clip? limit shown.text
  let start ← count? start
  let stop ← count? r.offset
  let span ← Span.between? start stop
  let t : Token := ⟨shown.kind, text, location, span, shown.flags.union { truncated }⟩
  match f.lint with
  | none => some (t, f)
  | some lint =>
    let place ← r.location?
    let lint ← follow? lint t place
    some (t, { f with lint := some lint })

/-- Reads blanks, and ends a line for the semicolon check at each line break among them. -/
def skipBlanks? (r : Reader) (f : Findings) : Option (Reader × Findings) :=
  match r.peek? with
  | none => none
  | some none => some (r, f)
  | some (some c) =>
    if isBlank c then
      match _h : r.bump? with
      | some (some _, r') => skipBlanks? r' (if isLineBreak c then f.endLine else f)
      | some (none, r') => some (r', f)
      | none => none
    else some (r, f)
termination_by r.left
decreasing_by exact Reader.left_bump?_lt _h

/-- Reads an identifier and declares it. Anything else is left for the next token. -/
def name? (limit : Option Nat) (r : Reader) (f : Findings) : Option (Reader × Findings) := do
  let next ← r.peek?
  if next.any isIdentifierStart then
    let start := r.offset
    let location ← r.location?
    let r ← r.eatWhile? isIdentifierPart
    let word ← r.slice? start r.offset
    let (name, _) ← clip? limit word
    let start ← count? start
    let binder := f.binder.declare name location.line start
    match f.lint with
    | none => some (r, ⟨binder, none⟩)
    | some lint =>
      let place ← r.location?
      some (r, ⟨binder, some (lint.observeDeclaration place)⟩)
  else some (r, f)

/-- Reads blanks and the name behind them, if there is one. -/
def declaredName? (limit : Option Nat) (r : Reader) (f : Findings) : Option (Reader × Findings) := do
  let (r, f) ← skipBlanks? r f
  name? limit r f

/-- An identifier, which is used, or a keyword, which may declare a name. -/
def word? (limit : Option Nat) (start : Nat) (location : Location) (r : Reader) (f : Findings) :
    Option (Token × Reader × Findings) := do
  let r ← r.eatWhile? isIdentifierPart
  let word ← r.slice? start r.offset
  if isKeyword (.ofList word) then
    let (t, f) ← make? limit start location ⟨.keyword, word, .none⟩ r f
    if isDeclarationKeyword (.ofList word) then
      let (r, f) ← declaredName? limit r f
      some (t, r, f)
    else some (t, r, f)
  else
    let (t, f) ← make? limit start location ⟨.identifier, word, .none⟩ r f
    some (t, r, { f with binder := f.binder.markUsed t.text })

/-- The token that begins with the character `c`, with the name it declares. -/
def token? (limit : Option Nat) (c : Char) (r : Reader) (f : Findings) :
    Option (Token × Reader × Findings) := do
  let start := r.offset
  let location ← r.location?
  if isIdentifierStart c then word? limit start location r f
  else
    let (shown, r) ← lexeme? c r
    let (t, f) ← make? limit start location shown r f
    some (t, r, f)

/-! ### Truncating and counting -/

theorem getElem?_charIndices (offset n : Nat) (cs : List Char) :
    (charIndices offset cs)[n]? = cs[n]?.map fun c => (offset + size (cs.take n), c) := by
  -- The offset from which is counted grows by the character that is left behind.
  induction cs generalizing offset n with
  | nil => rfl
  | cons c cs ih =>
    cases n with
    | zero => rfl
    | succ n =>
      rw [charIndices, List.getElem?_cons_succ, List.getElem?_cons_succ, ih, List.take_succ_cons,
        size_cons, Nat.add_assoc]

/-- A text is truncated where a character begins. -/
theorem clip?_eq (limit : Option Nat) (text : List Char) :
    clip? limit text = some (clip limit text) := by
  cases limit with
  | none => rfl
  | some n =>
    rw [clip?, getElem?_charIndices, clip]
    -- There is a character to cut at just if the text is longer than the limit.
    rcases Nat.lt_or_ge n text.length with hlt | hge
    · have hcut := splitAt?_size_append (text.take n) (text.drop n)
      rw [List.take_append_drop] at hcut
      simp [hcut, hlt]
    · simp [List.take_of_length_le hge, Nat.not_lt.mpr hge]

/-- Counting parentheses does not fail as long as one more of them can be counted. -/
theorem follow?_eq {lint : SemicolonLint} (h : lint.depth + 1 < UInt32.size) (t : Token)
    (stop : Location) : follow? lint t stop = some (lint.observe t stop) := by
  unfold follow?
  split
  · next hopen =>
    -- A parenthesis is a delimiter, so it is not passed over like a comment.
    obtain ⟨hkind, -⟩ := Bool.and_eq_true_iff.mp hopen
    have hcomment : t.kind ≠ .comment := by
      rw [beq_iff_eq.mp hkind]
      nofun
    rw [count?_of_lt h, SemicolonLint.observe, if_neg hcomment, SemicolonLint.followParentheses,
      if_pos hopen]
    rfl
  · rfl

/-! ### Reading on -/

section Behind

variable {limit : Option Nat} {read rest : List Char} {f : Findings}

/-- Behind the form of a passage, its token is made, and nothing fails. -/
theorem make?_behind (limit : Option Nat) {g : Passage} (h : Fits (read ++ (g.form.word ++ rest)))
    (hdepth : f.depth ≤ size read) :
    let p := Position.start.afterAll read
    make? limit (size read) p.location ⟨g.form.kind, g.form.shown, g.form.flags⟩
        (.behind (read ++ g.form.word) rest) f =
      some (g.token limit p, ⟨f.binder,
        f.lint.map (·.observe (g.token limit p) (p.afterAll g.form.word).location)⟩) := by
  intro p
  have hbehind : Fits ((read ++ g.form.word) ++ rest) := by rwa [List.append_assoc]
  have hplace : (Reader.behind (read ++ g.form.word) rest).location? =
      some (p.afterAll g.form.word).location := by
    rw [Reader.location?_behind hbehind, Position.afterAll_append]
  have htoken : g.token limit p = ⟨g.form.kind, (clip limit g.form.shown).1, p.location,
      ⟨size read, size read + size g.form.word⟩,
      g.form.flags.union { truncated := (clip limit g.form.shown).2 }⟩ := by
    simp only [Passage.token, Position.offset_afterAll _ g.form.word, p,
      Position.offset_start_afterAll]
  have hspan : Span.between? (size read) (size read + size g.form.word) =
      some ⟨size read, size read + size g.form.word⟩ := if_pos (Nat.le_add_right ..)
  -- Both ends of the span can be counted, since the text fits on either side of the word.
  have hstop := hbehind.count?_size
  rw [size_append] at hstop
  simp only [make?, clip?_eq, Reader.offset_behind, size_append, Option.bind_eq_bind,
    Option.bind_some, h.count?_size, hstop, hspan, hplace, ← htoken]
  obtain ⟨binder, lint⟩ := f
  cases lint with
  | none => rfl
  | some lint =>
    have hlint : lint.depth ≤ size read := hdepth
    rw [Fits, size_append] at h
    simp only [follow?_eq (by omega : lint.depth + 1 < UInt32.size), Option.bind_some,
      Option.map_some]

/-- The run of blanks goes on behind a blank. -/
theorem skipBlanks?_of_bump? {r r' : Reader} {c : Char} (hpeek : r.peek? = some (some c))
    (hc : isBlank c = true) (h : r.bump? = some (some c, r')) :
    skipBlanks? r f = skipBlanks? r' (if isLineBreak c then f.endLine else f) := by
  rw [skipBlanks?, hpeek]
  simp only [hc, if_true]
  split <;> simp_all

/-- Each line break among some blanks ends a line. -/
theorem observeAll_lineBreaksIn_cons (f : Findings) (c : Char) (cs : List Char) :
    f.observeAll (Passage.lineBreaksIn (c :: cs)) =
      (if isLineBreak c then f.endLine else f).observeAll (Passage.lineBreaksIn cs) := by
  by_cases hc : c = '\n'
  · subst hc
    rw [Passage.lineBreaksIn, List.count_cons_self, List.replicate_succ, Findings.observeAll_cons]
    rfl
  · simp [Passage.lineBreaksIn, isLineBreak, hc]

/-- Reading blanks never fails, and ends as many lines as there are line breaks among them. -/
theorem skipBlanks?_behind (h : Fits (read ++ rest)) (f : Findings) :
    skipBlanks? (.behind read rest) f =
      some (.behind (read ++ rest.takeWhile isBlank) (rest.dropWhile isBlank),
        f.observeAll (Passage.lineBreaksIn (rest.takeWhile isBlank))) := by
  induction rest generalizing read f with
  | nil =>
    rw [skipBlanks?, Reader.peek?_behind]
    simp [Passage.lineBreaksIn]
  | cons c rest ih =>
    by_cases hc : isBlank c = true
    · rw [skipBlanks?_of_bump? Reader.peek?_behind hc (Reader.bump?_behind_cons h), ih h.advance,
        List.takeWhile_cons_of_pos hc, List.dropWhile_cons_of_pos hc, List.append_assoc,
        List.singleton_append, observeAll_lineBreaksIn_cons]
    · rw [skipBlanks?, Reader.peek?_behind, List.takeWhile_cons_of_neg hc,
        List.dropWhile_cons_of_neg hc, List.append_nil]
      simp [hc, Passage.lineBreaksIn]

/-- Reading a name never fails, and declares the identifier at the front, if there is one. -/
theorem name?_behind (h : Fits (read ++ rest)) (f : Findings) :
    let named := Passage.splitName rest
    name? limit (.behind read rest) f = some (.behind (read ++ named.1) named.2,
      f.observeAll (Passage.declaration limit (.afterAll .start read) named.1)) := by
  intro named
  simp only [name?, Reader.peek?_behind, Option.bind_eq_bind, Option.bind_some]
  by_cases hnext : rest.head?.any isIdentifierStart = true
  · have hnamed : named = (rest.takeWhile isIdentifierPart, rest.dropWhile isIdentifierPart) :=
      if_pos hnext
    have hne : named.1 ≠ [] := by
      rw [hnamed]
      exact Passage.takeWhile_isIdentifierPart_ne_nil hnext
    have hrun : (Reader.behind read rest).eatWhile? isIdentifierPart =
        some (.behind (read ++ named.1) named.2) := by
      rw [Reader.eatWhile?_behind h, hnamed]
    have hbehind : Fits ((read ++ named.1) ++ named.2) := by
      rwa [List.append_assoc, Passage.append_splitName]
    -- The slice begins at the offset that was taken before the run.
    have hoffset : (Reader.behind read rest).offset = size read := Reader.offset_behind
    have hplace : (Position.start.afterAll read).afterAll named.1 =
        Position.start.afterAll (read ++ named.1) := (Position.afterAll_append ..).symm
    simp only [hnext, if_true, Reader.location?_behind h, hoffset, hrun,
      Reader.location?_behind hbehind, slice?_behind, clip?_eq, h.count?_size, Option.bind_some,
      Passage.declaration, if_neg hne, hplace, Position.offset_start_afterAll,
      Findings.observeAll_cons, Findings.observeAll_nil, Findings.observe]
    obtain ⟨binder, lint⟩ := f
    cases lint <;> rfl
  · have hnamed : named = ([], rest) := if_neg hnext
    simp [hnext, hnamed, Passage.declaration]

/-- Reading a declared name never fails, whether there is one behind the blanks or not. -/
theorem declaredName?_behind (h : Fits (read ++ rest)) (f : Findings) :
    let gap := rest.takeWhile isBlank
    let named := Passage.splitName (rest.dropWhile isBlank)
    declaredName? limit (.behind read rest) f = some (.behind (read ++ (gap ++ named.1)) named.2,
      f.observeAll (Passage.lineBreaksIn gap ++
        Passage.declaration limit (.afterAll .start (read ++ gap)) named.1)) := by
  intro gap named
  rw [declaredName?, skipBlanks?_behind h, Option.bind_eq_bind, Option.bind_some,
    Findings.observeAll_append, ← List.append_assoc]
  exact name?_behind (h.advanceWhile isBlank) _

/-! ### Reading a token -/

variable {c : Char} {cs : List Char}

/-- Only an identifier uses a name. -/
theorem observe_token_of_ne {t : Token} (h : t.kind ≠ .identifier) (place : Location) :
    f.observe (.token t place) = ⟨f.binder, f.lint.map (·.observe t place)⟩ := by
  rw [Findings.observe, Binder.follow, if_neg h]

/-- Behind the form at the front, the token of the passage at the front is made. -/
theorem make?_found (limit : Option Nat) (h : Fits (read ++ c :: cs)) (hdepth : f.depth ≤ size read) :
    let p := Position.start.afterAll read
    let g := (Passage.front c cs).1
    make? limit (size read) p.location (found read (Form.front c cs)).1
        (found read (Form.front c cs)).2 f =
      some (g.token limit p, ⟨f.binder,
        f.lint.map (·.observe (g.token limit p) (p.afterAll g.form.word).location)⟩) := by
  intro p g
  have hform : g.form = (Form.front c cs).1 := Passage.form_front c cs
  have hword : Fits (read ++ (g.form.word ++ (Form.front c cs).2)) := by
    rwa [hform, Form.append_front]
  have hmake := make?_behind limit hword hdepth
  rw [found, ← hform]
  exact hmake

/-- A passage whose form declares no name is the form and blanks. -/
theorem front_of_not_declares (h : (Form.front c cs).1.declares = false) (limit : Option Nat)
    (p : Position) :
    let g := (Passage.front c cs).1
    g.core = (Form.front c cs).1.word ∧ g.blanks ++ (Passage.front c cs).2 = (Form.front c cs).2 ∧
      g.coreOccurrences limit p = [.token (g.token limit p) (p.afterAll g.form.word).location] := by
  simp [Passage.front, Passage.ofForm, h, Passage.core, Passage.coreOccurrences,
    Passage.declaration, Passage.lineBreaksIn]

/-- A passage whose form declares a name goes on with what is read there. -/
theorem front_of_declares (h : (Form.front c cs).1.declares = true) (limit : Option Nat)
    (p : Position) :
    let f := Form.front c cs
    let g := (Passage.front c cs).1
    let gap := f.2.takeWhile isBlank
    let named := Passage.splitName (f.2.dropWhile isBlank)
    g.core = f.1.word ++ (gap ++ named.1) ∧ g.blanks ++ (Passage.front c cs).2 = named.2 ∧
      g.coreOccurrences limit p = .token (g.token limit p) (p.afterAll g.form.word).location ::
        (Passage.lineBreaksIn gap ++
          Passage.declaration limit ((p.afterAll f.1.word).afterAll gap) named.1) := by
  simp [Passage.front, Passage.ofForm, h, Passage.core, Passage.coreOccurrences]

/-- Reading a word never fails, and finds the passage at the front. -/
theorem word?_behind (h : Fits (read ++ c :: cs)) (hdepth : f.depth ≤ size read)
    (hc : isIdentifierStart c = true) :
    let p := Position.start.afterAll read
    let g := (Passage.front c cs).1
    word? limit (size read) p.location (.behind read (c :: cs)) f = some (g.token limit p,
      .behind (read ++ g.core) (g.blanks ++ (Passage.front c cs).2),
      f.observeAll (g.coreOccurrences limit p)) := by
  intro p g
  let w := c :: cs.takeWhile isIdentifierPart
  let rest := cs.dropWhile isIdentifierPart
  have hpart := isIdentifierPart_of_isIdentifierStart hc
  have hrun : (Reader.behind read (c :: cs)).eatWhile? isIdentifierPart =
      some (.behind (read ++ w) rest) := by
    rw [Reader.eatWhile?_behind h, List.takeWhile_cons_of_pos hpart,
      List.dropWhile_cons_of_pos hpart]
  have hfront : Form.front c cs = (⟨Form.wordKind w, .none, w⟩, rest) := by
    rw [Form.front, if_pos hc]
    rfl
  have hkind : (g.token limit p).kind = Form.wordKind w := by
    rw [Passage.token, show g.form = (Form.front c cs).1 from Passage.form_front c cs, hfront]
  have hfound : found read (Form.front c cs) =
      (⟨Form.wordKind w, w, .none⟩, .behind (read ++ w) rest) := by
    rw [hfront]
    rfl
  have hmake := make?_found limit h hdepth
  rw [hfound] at hmake
  simp only [word?, hrun, slice?_behind, Option.bind_eq_bind, Option.bind_some]
  cases hkeyword : isKeyword (.ofList w) with
  | false =>
    -- An identifier is used, and it declares nothing.
    have hw : Form.wordKind w = .identifier := if_neg (by simp [hkeyword])
    have hdeclares : (Form.front c cs).1.declares = false := by
      rw [hfront, Form.declares, hw]
      rfl
    obtain ⟨hcore, hrest, hseen⟩ := front_of_not_declares hdeclares limit p
    rw [hw] at hmake hkind
    rw [if_neg Bool.false_ne_true, hmake, hcore, hrest, hseen, hfront]
    simp [Findings.observe, Binder.follow, hkind, g, p]
  | true =>
    -- A keyword is not used. Whether a name is read behind it depends on the word alone.
    have hw : Form.wordKind w = .keyword := if_pos hkeyword
    rw [hw] at hmake hkind
    have hne : (g.token limit p).kind ≠ .identifier := by simp [hkind]
    have hseen := observe_token_of_ne (f := f) hne (p.afterAll g.form.word).location
    rw [if_pos rfl, hmake, Option.bind_some, ← hseen]
    cases hdeclaration : isDeclarationKeyword (.ofList w) with
    | false =>
      have hdeclares : (Form.front c cs).1.declares = false := by
        rw [hfront, Form.declares, hdeclaration, Bool.and_false]
      obtain ⟨hcore, hrest, hseen⟩ := front_of_not_declares hdeclares limit p
      rw [if_neg Bool.false_ne_true, hcore, hrest, hseen, hfront]
      rfl
    | true =>
      have hdeclares : (Form.front c cs).1.declares = true := by
        rw [hfront, Form.declares, hw, hdeclaration]
        rfl
      obtain ⟨hcore, hrest, hseen⟩ := front_of_declares hdeclares limit p
      have hbehind : Fits ((read ++ w) ++ rest) := by
        have hfits := h.advanceWhile isIdentifierPart
        rwa [List.takeWhile_cons_of_pos hpart, List.dropWhile_cons_of_pos hpart] at hfits
      rw [if_pos rfl, declaredName?_behind hbehind, hcore, hrest, hseen, hfront]
      simp only [Option.bind_some, List.append_assoc, Findings.observeAll_cons, g, p,
        ← Position.afterAll_append]

/-- In front of a text that fits, reading a token never fails, and finds the passage at the front. -/
theorem token?_behind (h : Fits (read ++ c :: cs)) (hdepth : f.depth ≤ size read) :
    let p := Position.start.afterAll read
    let g := (Passage.front c cs).1
    token? limit c (.behind read (c :: cs)) f = some (g.token limit p,
      .behind (read ++ g.core) (g.blanks ++ (Passage.front c cs).2),
      f.observeAll (g.coreOccurrences limit p)) := by
  intro p g
  simp only [token?, Reader.offset_behind, Reader.location?_behind h, Option.bind_eq_bind,
    Option.bind_some]
  cases hc : isIdentifierStart c with
  | true => exact word?_behind h hdepth hc
  | false =>
    -- What is no word neither declares a name nor uses one.
    obtain ⟨hkeyword, hidentifier⟩ := Form.kind_front_ne_word cs hc
    have hdeclares : (Form.front c cs).1.declares = false := by
      rw [Form.declares, decide_eq_false hkeyword, Bool.false_and]
    obtain ⟨hcore, hrest, hseen⟩ := front_of_not_declares hdeclares limit p
    have hkind : (g.token limit p).kind ≠ .identifier := by
      rw [Passage.token, show g.form = (Form.front c cs).1 from Passage.form_front c cs]
      exact hidentifier
    rw [if_neg Bool.false_ne_true, lexeme?_behind h hc, Option.bind_some, make?_found limit h hdepth,
      Option.bind_some, ← observe_token_of_ne hkind, hcore, hrest, hseen]
    rfl

end Behind

end Checked

end UsageScan
