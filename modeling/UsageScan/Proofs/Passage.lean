import UsageScan.Occurrence
import UsageScan.Proofs.Form
/-!
# Passages

A passage is what one pull takes from a text: the characters of a token, the name it declares if it
declares one, and the blanks before the name and before the next token. The text alone decides how
it falls into passages. The position and the length limit only decide how a passage is told.

## Main definitions

* `Passage`, `Passage.chars` — the parts that a pull takes, and all its characters
* `Passage.core` — those before its blanks
* `Passage.front` — the passage at the front of a text, and the rest of the text
* `Passage.all` — the passages of a text that does not begin with a blank
* `Passage.token`, `Passage.occurrences` — a passage as it is told

## Main results

* `Passage.append_front`, `Passage.flatMap_all` — the passages make up the text
* `Pull.read?_cons` — a pull takes the passage at the front
-/

set_option autoImplicit false

namespace UsageScan

open Text

/-- Whether a form is a keyword that announces a declared name. -/
def Form.declares (f : Form) : Bool :=
  f.kind = .keyword && isDeclarationKeyword (.ofList f.word)

/-- What one pull takes from a text. -/
structure Passage where
  form : Form
  /-- The blanks between a declaration keyword and what comes next. -/
  gap : List Char
  /-- The declared name, empty if there is none. -/
  name : List Char
  /-- The blanks before the next token. -/
  blanks : List Char
deriving DecidableEq, Repr

namespace Passage

/-- All characters of a passage, in order. -/
def chars (g : Passage) : List Char :=
  g.form.word ++ (g.gap ++ (g.name ++ g.blanks))

/-- The characters of a passage before its blanks. -/
def core (g : Passage) : List Char :=
  g.form.word ++ (g.gap ++ g.name)

theorem chars_eq (g : Passage) : g.chars = g.core ++ g.blanks := by
  simp [chars, core]

/-- The identifier at the front of a text, empty if there is none, and the rest of the text. -/
def splitName (cs : List Char) : List Char × List Char :=
  if cs.head?.any isIdentifierStart then
    (cs.takeWhile isIdentifierPart, cs.dropWhile isIdentifierPart)
  else ([], cs)

/-- The passage that begins with a form in front of `cs`, and the rest of `cs`. -/
def ofForm (f : Form) (cs : List Char) : Passage × List Char :=
  if f.declares then
    let named := splitName (cs.dropWhile isBlank)
    (⟨f, cs.takeWhile isBlank, named.1, named.2.takeWhile isBlank⟩, named.2.dropWhile isBlank)
  else (⟨f, [], [], cs.takeWhile isBlank⟩, cs.dropWhile isBlank)

/-- The passage at the front of the text `c :: cs`, and the rest of that text. -/
def front (c : Char) (cs : List Char) : Passage × List Char :=
  ofForm (Form.front c cs).1 (Form.front c cs).2

theorem takeWhile_isIdentifierPart_ne_nil {cs : List Char}
    (h : cs.head?.any isIdentifierStart = true) : cs.takeWhile isIdentifierPart ≠ [] := by
  cases cs with
  | nil => contradiction
  | cons c cs =>
    have hc : isIdentifierStart c = true := h
    simp [isIdentifierPart_of_isIdentifierStart hc]

/-! ### The passages make up the text -/

theorem append_splitName (cs : List Char) : (splitName cs).1 ++ (splitName cs).2 = cs := by
  unfold splitName
  split
  · exact List.takeWhile_append_dropWhile
  · rfl

theorem append_ofForm (f : Form) (cs : List Char) :
    (ofForm f cs).1.chars ++ (ofForm f cs).2 = f.word ++ cs := by
  unfold ofForm
  split
  · simp [chars, append_splitName]
  · simp [chars]

theorem form_ofForm (f : Form) (cs : List Char) : (ofForm f cs).1.form = f := by
  unfold ofForm
  split <;> rfl

/-- A passage ends with all blanks that come where it ends. -/
theorem exists_blanks_ofForm (f : Form) (cs : List Char) :
    ∃ ds : List Char, (ofForm f cs).1.blanks = ds.takeWhile isBlank ∧
      (ofForm f cs).2 = ds.dropWhile isBlank := by
  unfold ofForm
  split
  · exact ⟨_, rfl, rfl⟩
  · exact ⟨_, rfl, rfl⟩

theorem form_front (c : Char) (cs : List Char) : (front c cs).1.form = (Form.front c cs).1 :=
  form_ofForm ..

/-- A text without the blanks at its start does not begin with a blank. -/
theorem isBlank_of_mem_head?_dropWhile {cs : List Char} {c : Char}
    (h : c ∈ (cs.dropWhile isBlank).head?) : isBlank c = false := by
  have hhead := List.head?_dropWhile_not isBlank cs
  rw [show (cs.dropWhile isBlank).head? = some c from h] at hhead
  simpa using hhead

/-- The rest of a text behind a passage does not begin with a blank. -/
theorem isBlank_of_mem_head?_front (c : Char) (cs : List Char) {d : Char}
    (h : d ∈ (front c cs).2.head?) : isBlank d = false := by
  obtain ⟨ds, -, hrest⟩ := exists_blanks_ofForm (Form.front c cs).1 (Form.front c cs).2
  rw [front, hrest] at h
  exact isBlank_of_mem_head?_dropWhile h

theorem isBlank_of_mem_gap (c : Char) (cs : List Char) {d : Char}
    (h : d ∈ (front c cs).1.gap) : isBlank d = true := by
  unfold front ofForm at h
  split at h
  · exact List.mem_takeWhile_imp h
  · contradiction

theorem isBlank_of_mem_blanks (c : Char) (cs : List Char) {d : Char}
    (h : d ∈ (front c cs).1.blanks) : isBlank d = true := by
  obtain ⟨ds, hblanks, -⟩ := exists_blanks_ofForm (Form.front c cs).1 (Form.front c cs).2
  rw [front, hblanks] at h
  exact List.mem_takeWhile_imp h

/-- A passage and the rest make up the text. -/
theorem append_front (c : Char) (cs : List Char) :
    (front c cs).1.chars ++ (front c cs).2 = c :: cs := by
  rw [front, append_ofForm, Form.append_front]

theorem length_front_lt (c : Char) (cs : List Char) :
    (front c cs).2.length < (c :: cs).length := by
  have hword := List.length_pos_iff.mpr (Form.word_front_ne_nil c cs)
  -- The word alone makes the passage longer than nothing, whatever else belongs to it.
  rw [← append_front c cs]
  simp only [chars, form_front, List.length_append]
  omega

/-- The passages of a text that does not begin with a blank. -/
def all : List Char → List Passage
  | [] => []
  | c :: cs => (front c cs).1 :: all (front c cs).2
termination_by cs => cs.length
decreasing_by exact length_front_lt c cs

theorem all_nil : all [] = [] := by
  rw [all]

theorem all_cons (c : Char) (cs : List Char) :
    all (c :: cs) = (front c cs).1 :: all (front c cs).2 := by
  rw [all]

/-- The passages of a text make up the text. -/
theorem flatMap_all (cs : List Char) : (all cs).flatMap chars = cs := by
  induction cs using all.induct with
  | case1 => simp [all_nil]
  | case2 c cs ih => rw [all_cons, List.flatMap_cons, ih, append_front]

/-! ### How a passage is told -/

/-- The line breaks of some blanks, as they are come across. -/
def lineBreaksIn (cs : List Char) : List Occurrence :=
  .replicate (cs.count '\n') .lineBreak

/-- The token of a passage at a position. -/
def token (limit : Option Nat) (p : Position) (g : Passage) : Token where
  kind := g.form.kind
  text := (clip limit g.form.shown).1
  location := p.location
  span := ⟨p.offset, (p.afterAll g.form.word).offset⟩
  flags := g.form.flags.union { truncated := (clip limit g.form.shown).2 }

/-- The declared name of a passage whose name stands at a position. -/
def declaration (limit : Option Nat) (p : Position) (name : List Char) : List Occurrence :=
  if name = [] then []
  else [.declaration (clip limit name).1 p.location.line p.offset (p.afterAll name).location]

/-- All that is come across in a passage at a position. -/
def occurrences (limit : Option Nat) (p : Position) (g : Passage) : List Occurrence :=
  let stop := p.afterAll g.form.word
  .token (g.token limit p) stop.location ::
    (lineBreaksIn g.gap ++ (declaration limit (stop.afterAll g.gap) g.name ++
      lineBreaksIn g.blanks))

/-- What is come across in a passage before its blanks. -/
def coreOccurrences (limit : Option Nat) (p : Position) (g : Passage) : List Occurrence :=
  let stop := p.afterAll g.form.word
  .token (g.token limit p) stop.location ::
    (lineBreaksIn g.gap ++ declaration limit (stop.afterAll g.gap) g.name)

theorem occurrences_eq (limit : Option Nat) (p : Position) (g : Passage) :
    g.occurrences limit p = g.coreOccurrences limit p ++ lineBreaksIn g.blanks := by
  simp [occurrences, coreOccurrences]

theorem lineBreaksIn_append (as bs : List Char) :
    lineBreaksIn (as ++ bs) = lineBreaksIn as ++ lineBreaksIn bs := by
  rw [lineBreaksIn, List.count_append, List.replicate_add]
  rfl

end Passage

/-! ### A pull takes the passage at the front -/

namespace Form

/-- Only what starts like an identifier is a keyword or an identifier. -/
theorem kind_front_ne_word {c : Char} (cs : List Char) (h : isIdentifierStart c = false) :
    (front c cs).1.kind ≠ .keyword ∧ (front c cs).1.kind ≠ .identifier := by
  unfold front
  rw [if_neg (by simp [h])]
  -- Each class that is tried behind names has a kind of its own.
  repeat' split
  · exact ⟨nofun, nofun⟩
  · exact ⟨nofun, nofun⟩
  · exact ⟨nofun, nofun⟩
  · exact ⟨nofun, nofun⟩
  · exact ⟨nofun, nofun⟩
  · unfold block
    split <;> exact ⟨nofun, nofun⟩
  · exact ⟨nofun, nofun⟩
  · unfold operator
    split <;> exact ⟨nofun, nofun⟩

/-- A keyword is shown as it is written. -/
theorem shown_eq_word_of_keyword {c : Char} {cs : List Char}
    (h : (front c cs).1.kind = .keyword) : (front c cs).1.shown = (front c cs).1.word := by
  cases hstart : isIdentifierStart c with
  | true => simp [front, hstart, run, shown, shownText, Token.Flags.none]
  | false => exact absurd h (kind_front_ne_word cs hstart).1

end Form

namespace Pull

variable (limit : Option Nat) (p : Position)

theorem lineBreaks_self (c : Cursor) : lineBreaks c c = [] := by
  simp [lineBreaks]

theorem lineBreaks_afterAll (cs rest rest' : List Char) :
    lineBreaks ⟨rest, p⟩ ⟨rest', p.afterAll cs⟩ = Passage.lineBreaksIn cs := by
  simp [lineBreaks, Passage.lineBreaksIn]

/-- Reading a declared name takes the identifier at the front of the text. -/
theorem declaration?_mk (cs : List Char) : declaration? limit ⟨cs, p⟩ =
    some (Passage.declaration limit p (Passage.splitName cs).1,
      ⟨(Passage.splitName cs).2, p.afterAll (Passage.splitName cs).1⟩) := by
  cases cs with
  | nil => rfl
  | cons c cs =>
    by_cases hc : isIdentifierStart c
    · have hname : (c :: cs).takeWhile isIdentifierPart ≠ [] :=
        Passage.takeWhile_isIdentifierPart_ne_nil hc
      simp only [declaration?, Cursor.peek?, List.head?_cons, Option.any_some, hc, if_true,
        Cursor.textTo?_eatWhile, Option.bind_eq_bind, Option.bind_some, Passage.splitName,
        Passage.declaration, if_neg hname]
      rfl
    · simp [declaration?, Cursor.peek?, hc, Passage.splitName, Passage.declaration]

/-- What follows a lexeme up to the blanks before the next token is a part of the passage. -/
theorem declared?_lexeme (c : Char) (cs : List Char) :
    let g := (Passage.front c cs).1
    let stop := p.afterAll g.form.word
    declared? limit (Form.lexeme p (Form.front c cs)) = some (Passage.lineBreaksIn g.gap ++
        Passage.declaration limit (stop.afterAll g.gap) g.name,
      ⟨g.blanks ++ (Passage.front c cs).2, (stop.afterAll g.gap).afterAll g.name⟩) := by
  -- The reader looks at the shown text, and a keyword is shown as it is written.
  have hannounces : ((Form.front c cs).1.kind = .keyword ∧
      isDeclarationKeyword (.ofList (Form.front c cs).1.shown)) ↔
        (Form.front c cs).1.declares = true := by
    simp only [Form.declares, Bool.and_eq_true, decide_eq_true_eq]
    apply and_congr_right
    intro hkind
    rw [Form.shown_eq_word_of_keyword hkind]
  cases hdeclares : (Form.front c cs).1.declares with
  | true =>
    simp only [declared?, Form.lexeme, hannounces, Passage.front, Passage.ofForm, hdeclares, if_true,
      Cursor.skipBlanks, Cursor.eatWhile_mk, declaration?_mk, lineBreaks_afterAll,
      Option.bind_eq_bind, Option.bind_some, List.takeWhile_append_dropWhile]
  | false =>
    simp only [declared?, Form.lexeme, hannounces, Passage.front, Passage.ofForm, hdeclares,
      Bool.false_eq_true, if_false, List.takeWhile_append_dropWhile]
    rfl

/-- The token of a lexeme is the token of the passage that begins with its form. -/
theorem token?_lexeme (c : Char) (cs : List Char) :
    (Form.lexeme p (Form.front c cs)).token? limit ⟨c :: cs, p⟩ =
      some ((Passage.front c cs).1.token limit p) := by
  have hspan : Span.between? p.offset (p.afterAll (Form.front c cs).1.word).offset =
      some ⟨p.offset, (p.afterAll (Form.front c cs).1.word).offset⟩ := if_pos (by simp)
  simp only [Lexeme.token?, Form.lexeme, Cursor.offset, hspan, Option.bind_eq_bind,
    Option.bind_some]
  rw [Passage.token, Passage.form_front]
  rfl

/-- There is no pull at the end of the source. -/
theorem read?_nil : read? limit ⟨[], p⟩ = none :=
  rfl

/-- A pull takes the passage at the front of the text. Behind the last one is the end. -/
theorem read?_cons (c : Char) (cs : List Char) :
    let g := (Passage.front c cs).1
    let rest := (Passage.front c cs).2
    read? limit ⟨c :: cs, p⟩ =
      some ⟨g.token limit p, g.occurrences limit p ++ if rest.isEmpty then [.endOfText] else [],
        ⟨rest, p.afterAll g.chars⟩⟩ := by
  intro g rest
  have hchars : p.afterAll g.chars =
      (((p.afterAll g.form.word).afterAll g.gap).afterAll g.name).afterAll g.blanks := by
    simp only [Passage.chars, Position.afterAll_append]
  -- The blanks of the passage are all blanks there are before the rest.
  have hskip (q : Position) :
      (⟨g.blanks ++ rest, q⟩ : Cursor).skipBlanks = ⟨rest, q.afterAll g.blanks⟩ := by
    obtain ⟨ds, hblanks, hrest⟩ : ∃ ds : List Char, g.blanks = ds.takeWhile isBlank ∧
      rest = ds.dropWhile isBlank := Passage.exists_blanks_ofForm _ _
    rw [Cursor.skipBlanks, hblanks, hrest, List.takeWhile_append_dropWhile]
    rfl
  have hstop : (Form.lexeme p (Form.front c cs)).stop.location =
      (p.afterAll g.form.word).location := by
    rw [show g.form = (Form.front c cs).1 from Passage.form_front c cs]
    rfl
  simp only [read?, Lexeme.read?_cons, Option.bind_eq_bind, Option.bind_some, token?_lexeme,
    declared?_lexeme]
  rw [hskip, lineBreaks_afterAll, hchars, hstop]
  simp only [Passage.occurrences, List.cons_append, List.append_assoc]
  rfl

end Pull

end UsageScan
