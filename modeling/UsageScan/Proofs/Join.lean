import UsageScan.Proofs.DeclaredName
import UsageScan.Proofs.LineEnd
/-!
# Layouts in a row

If a line has ended and nothing is open, the layout of a text that goes on from there is the layout
of what came before with that of what comes next. The blanks at the end of the one and at the start
of the other run together, and all else stays as it is.

## Main definitions

* `Passage.opening` — a passage without the blanks behind it
* `Passage.Complete` — nothing is open behind some passages
* `Layout.append` — two layouts in a row
* `Layout.body` — all that is come across in a layout, but for the end

## Main results

* `Passage.front_append` — the passage at the front of a text that goes on
* `Layout.ofText_append` — the layout of two texts in a row
* `Layout.body_append` — what is come across in it
-/

set_option autoImplicit false

namespace UsageScan

open Text

namespace Passage

variable {f : Form} {cs : List Char}

/-- The passage that begins with a form in front of `cs`, without the blanks behind it, and all that
comes behind it. -/
def opening (f : Form) (cs : List Char) : Passage × List Char :=
  if f.declares then
    let named := splitName (cs.dropWhile isBlank)
    (⟨f, cs.takeWhile isBlank, named.1, []⟩, named.2)
  else (⟨f, [], [], []⟩, cs)

theorem ofForm_eq_opening (f : Form) (cs : List Char) : ofForm f cs =
    ({ (opening f cs).1 with blanks := (opening f cs).2.takeWhile isBlank },
      (opening f cs).2.dropWhile isBlank) := by
  unfold ofForm opening
  split <;> rfl

theorem splitName_append (h : '\n' ∈ cs) (more : List Char) :
    splitName (cs ++ more) = ((splitName cs).1, (splitName cs).2 ++ more) := by
  unfold splitName
  rw [List.head?_append_of_ne_nil cs (List.ne_nil_of_mem h)]
  by_cases hstart : cs.head?.any isIdentifierStart = true
  · rw [if_pos hstart, if_pos hstart, takeWhile_append_of_mem h (by decide),
      dropWhile_append_of_mem h (by decide)]
  · rw [if_neg hstart, if_neg hstart]

/-- Where a line has ended, a passage has begun as it will, unless its name is still to come. -/
theorem opening_append (hline : EndsLine cs)
    (hname : f.declares = true → ∃ c ∈ cs, isBlank c = false) (more : List Char) :
    opening f (cs ++ more) = ((opening f cs).1, (opening f cs).2 ++ more) := by
  unfold opening
  by_cases hdeclares : f.declares = true
  · obtain ⟨c, hc, hblank⟩ := hname hdeclares
    -- What stands where the name should be is not blank, so its line ends behind it.
    have hbreak := hline.mem_dropWhile hc hblank
    rw [if_pos hdeclares, if_pos hdeclares, takeWhile_append_of_mem hc hblank,
      dropWhile_append_of_mem hc hblank, splitName_append hbreak]
  · rw [if_neg hdeclares, if_neg hdeclares]

/-- If nothing but blanks comes where a name should be, these are all the passage takes. -/
theorem ofForm_of_blank (hdeclares : f.declares = true) (h : ∀ c ∈ cs, isBlank c = true) :
    ofForm f cs = (⟨f, cs, [], []⟩, []) := by
  have htake : cs.takeWhile isBlank = cs := List.takeWhile_eq_self_iff.mpr h
  have hdrop : cs.dropWhile isBlank = [] := List.dropWhile_eq_nil_iff.mpr h
  rw [ofForm, if_pos hdeclares, htake, hdrop]
  rfl

/-- Nothing is open behind some passages: none of them has run into the end of the text, and the
last one is not waiting for a name. -/
structure Complete (gs : List Passage) : Prop where
  terminated : ∀ g ∈ gs, g.form.flags.unterminated = false
  named : ∀ g ∈ gs.getLast?, g.form.declares = true → g.name ≠ []

theorem Complete.tail {g : Passage} {gs : List Passage} (h : Complete (g :: gs)) : Complete gs where
  terminated _ hx := h.terminated _ (List.mem_cons_of_mem g hx)
  named x hx := h.named x (by simp [List.getLast?_cons, Option.mem_def.mp hx])

/-- Where nothing is open in the end, a name that is waited for comes before the end. -/
theorem exists_of_complete {c : Char} (h : Complete (all (c :: cs)))
    (hdeclares : (Form.front c cs).1.declares = true) :
    ∃ d ∈ (Form.front c cs).2, isBlank d = false := by
  by_contra hnone
  have hblank : ∀ d ∈ (Form.front c cs).2, isBlank d = true := by
    intro d hd
    by_contra hd'
    exact hnone ⟨d, hd, eq_false_of_ne_true hd'⟩
  have hfront : front c cs = (⟨_, (Form.front c cs).2, [], []⟩, []) :=
    ofForm_of_blank hdeclares hblank
  rw [all_cons, hfront, all_nil] at h
  exact h.named _ rfl hdeclares rfl

/-- The passage at the front of a text that goes on is the same one with the blanks that come. -/
theorem front_append {c : Char} (hc : isBlank c = false) (hline : EndsLine (c :: cs))
    (hcomplete : Complete (all (c :: cs))) (more : List Char) :
    let behind := (front c cs).1.blanks ++ ((front c cs).2 ++ more)
    front c (cs ++ more) = ({ (front c cs).1 with blanks := behind.takeWhile isBlank },
      behind.dropWhile isBlank) := by
  intro behind
  have hclosed : (Form.front c cs).1.flags.unterminated = false := by
    rw [← form_front]
    apply hcomplete.terminated
    rw [all_cons]
    exact List.mem_cons_self
  have hrest : EndsLine (Form.front c cs).2 := hline.of_suffix ⟨_, Form.append_front c cs⟩
  have hopening := opening_append hrest (exists_of_complete hcomplete) more
  have hfront : front c cs = _ := ofForm_eq_opening (Form.front c cs).1 (Form.front c cs).2
  -- What is left behind the opening is the blanks of the passage with all that comes behind it.
  have hbehind : behind = (opening (Form.front c cs).1 (Form.front c cs).2).2 ++ more := by
    simp only [behind, hfront]
    rw [← List.append_assoc, List.takeWhile_append_dropWhile]
  rw [hbehind, hfront, front, Form.front_append (hline.mem_of_cons hc) hclosed, ofForm_eq_opening,
    hopening]

end Passage

namespace Layout

/-- The characters of a layout, in order. -/
def chars (y : Layout) : List Char :=
  y.lead ++ y.passages.flatMap Passage.chars

/-- The layout that some blanks and passages make with another layout behind them. The blanks behind
the last passage go on with those at the start of the other layout. -/
def behind (y : Layout) : List Char → List Passage → Layout
  | lead, [] => ⟨lead ++ y.lead, y.passages⟩
  | lead, g :: gs =>
    ⟨lead, { g with blanks := (behind y g.blanks gs).lead } :: (behind y g.blanks gs).passages⟩

/-- Two layouts in a row. -/
def append (x y : Layout) : Layout :=
  y.behind x.lead x.passages

/-- All that is come across in a layout that begins at a position, but for the end. -/
def body (limit : Option Nat) (p : Position) (y : Layout) : List Occurrence :=
  Passage.lineBreaksIn y.lead ++ Passage.allOccurrences limit (p.afterAll y.lead) y.passages

theorem chars_ofText (cs : List Char) : (ofText cs).chars = cs := by
  rw [chars, ofText, Passage.flatMap_all, List.takeWhile_append_dropWhile]

theorem occurrences_eq_body (limit : Option Nat) (p : Position) (y : Layout) :
    y.occurrences limit p = y.body limit p ++ [.endOfText] :=
  (List.append_assoc ..).symm

/-! ### The layout of two texts in a row -/

/-- Blanks belong to the start of a layout. -/
theorem ofText_blanks_append {lead : List Char} (hlead : ∀ c ∈ lead, isBlank c = true)
    (cs : List Char) :
    ofText (lead ++ cs) = ⟨lead ++ (ofText cs).lead, (ofText cs).passages⟩ := by
  rw [ofText, List.takeWhile_append_of_pos hlead, List.dropWhile_append_of_pos hlead]
  rfl

/-- The layout of a text behind blanks that goes on where a line has ended and nothing is open. -/
theorem ofText_append_of_head {cs : List Char} (hcs : ∀ c ∈ cs.head?, isBlank c = false)
    (hline : EndsLine cs) (hcomplete : Passage.Complete (Passage.all cs)) (more : List Char)
    {lead : List Char} (hlead : ∀ c ∈ lead, isBlank c = true) :
    ofText (lead ++ (cs ++ more)) = (ofText more).behind lead (Passage.all cs) := by
  -- The induction follows the passages: the blanks behind one are the lead of all that comes next.
  induction cs using Passage.all.induct generalizing lead with
  | case1 =>
    rw [List.nil_append, ofText_blanks_append hlead, Passage.all_nil]
    rfl
  | case2 c cs ih =>
    have hc : isBlank c = false := hcs c (by simp)
    have hfront := Passage.front_append hc hline hcomplete more
    have hrest : ∀ d ∈ (Passage.front c cs).2.head?, isBlank d = false :=
      fun d => Passage.isBlank_of_mem_head?_front c cs
    have hsuffix : (Passage.front c cs).2 <:+ c :: cs := ⟨_, Passage.append_front c cs⟩
    rw [Passage.all_cons] at hcomplete
    have hbehind := ih hrest (hline.of_suffix hsuffix) hcomplete.tail
      fun d => Passage.isBlank_of_mem_blanks c cs
    rw [List.cons_append, ofText_blanks_append hlead, ofText_cons hc, Passage.all_cons,
      Passage.all_cons, hfront, List.append_nil, behind, ← hbehind]
    rfl

/-- Where a line has ended and nothing is open, the layouts of two texts are in a row like the
texts. -/
theorem ofText_append {cs : List Char} (hline : EndsLine cs)
    (hcomplete : Passage.Complete (ofText cs).passages) (more : List Char) :
    ofText (cs ++ more) = (ofText cs).append (ofText more) := by
  have hhead : ∀ c ∈ (cs.dropWhile isBlank).head?, isBlank c = false :=
    fun _ => Passage.isBlank_of_mem_head?_dropWhile
  have hlead : ∀ c ∈ cs.takeWhile isBlank, isBlank c = true := fun _ => List.mem_takeWhile_imp
  have happend := ofText_append_of_head hhead (hline.of_suffix (List.dropWhile_suffix isBlank))
    hcomplete more hlead
  rw [← List.append_assoc, List.takeWhile_append_dropWhile] at happend
  exact happend

/-! ### What is told of two layouts in a row -/

section Told

variable (limit : Option Nat) (p : Position) (lead : List Char)

theorem body_cons (g : Passage) (gs : List Passage) : body limit p ⟨lead, g :: gs⟩ =
    Passage.lineBreaksIn lead ++ (g.coreOccurrences limit (p.afterAll lead) ++
      body limit (p.afterAll (lead ++ g.core)) ⟨g.blanks, gs⟩) := by
  simp only [body, Passage.allOccurrences, Passage.occurrences_eq, Passage.chars_eq,
    Position.afterAll_append, List.append_assoc]

theorem body_behind (gs : List Passage) (y : Layout) : (y.behind lead gs).body limit p =
    body limit p ⟨lead, gs⟩ ++ y.body limit (p.afterAll (chars ⟨lead, gs⟩)) := by
  induction gs generalizing p lead with
  | nil =>
    simp [behind, body, chars, Passage.allOccurrences, Passage.lineBreaksIn_append,
      Position.afterAll_append]
  | cons g gs ih =>
    -- The induction goes on behind the core, so the blanks of this passage come with the rest.
    have hplace : p.afterAll (chars ⟨lead, g :: gs⟩) =
        (p.afterAll (lead ++ g.core)).afterAll (chars ⟨g.blanks, gs⟩) := by
      rw [← Position.afterAll_append]
      simp [chars, Passage.chars_eq]
    rw [behind, body_cons, body_cons, hplace, List.append_assoc, List.append_assoc, ← ih]
    rfl

end Told

/-- What is come across in two layouts in a row. -/
theorem body_append (limit : Option Nat) (p : Position) (x y : Layout) :
    (x.append y).body limit p = x.body limit p ++ y.body limit (p.afterAll x.chars) :=
  body_behind limit p x.lead x.passages y

end Layout

end UsageScan
